import HandsetAudio.Proofs.Device.Captures
import HandsetAudio.Proofs.Pcm.Queues

/-!
# The formats of the substreams

A device opens playback always in the same format, and capture in the format of its stream. What
every operation of the driver leaves as it should be, used that way, every operation of the device
does (`Lasting.step`). So on the software card a stream out of standby has a substream of its
format, and all rings fit (`Tuned`). Main statement:

> `Tuned.play`: that holds throughout every run in which others only handle the card.
-/

namespace HandsetAudio

/-- What a device opens: playback has one format. -/
def Opened (lane : Lane) (config : PcmConfig) : Prop := lane = .hifiPlayback → config = .hifi

/-- The modem's lanes are opened with the configuration of the loop. -/
theorem opened_voice {lane : Lane} (h : lane.interface = .modem) : Opened lane .voice := by
  rintro rfl
  cases h

/-- Capture is opened with what the stream asks for. -/
theorem opened_capture (config : PcmConfig) : Opened .hifiCapture config := fun h => nomatch h

/-- What the operations of a driver keep if substreams are opened as a device does. -/
structure Lasting {σ : Type} [PcmDriver σ] (P : σ → Prop) : Prop where
  acquire {card : Nat} {lane : Lane} {flags : PcmFlags} {config : PcmConfig} {c : σ}
    (hopened : Opened lane config) (h : P c) : P (PcmDriver.acquire card lane flags config c).2
  start {id : SubstreamId} {c : σ} (h : P c) : P (PcmDriver.start id c).2
  stop {id : SubstreamId} {c : σ} (h : P c) : P (PcmDriver.stop id c).2
  write {id : SubstreamId} {bytes : List UInt8} {c : σ} (h : P c) :
    P (PcmDriver.write id bytes c).2
  read {id : SubstreamId} {length : Nat} {c : σ} (h : P c) : P (PcmDriver.read id length c).2
  avail {id : SubstreamId} {c : σ} (h : P c) : P (PcmDriver.avail id c).2
  close {id : SubstreamId} {c : σ} (h : P c) : P (PcmDriver.close id c)

/-- On the software card substreams become what they may become. -/
theorem SoftCard.lasting_evolves (c₀ : SoftCard) : Lasting (Evolves Opened c₀) where
  acquire hopened h := h.trans (evolves_acquire _ _ _ hopened)
  start h := h.trans (evolves_start _ _)
  stop h := h.trans (evolves_stop _ _)
  write h := h.trans (evolves_write _ _ _)
  read h := h.trans (evolves_read _ _ _)
  avail h := h
  close h := h.trans (evolves_close _ _)

namespace Lasting

variable {σ μ : Type} [PcmDriver σ] {P : σ → Prop}

/-! ## The voice loop -/

section

variable (hP : Lasting P) {c : σ}

include hP

/-- Closing one end of the loop, if there is one. -/
theorem release (id : Option SubstreamId) (h : P c) : P (VoiceLoop.release id c) := by
  cases id with
  | none => exact h
  | some id => exact hP.close (hP.stop h)

theorem stopVoice (v : VoiceLoop) (h : P c) : P (v.stop c).2 :=
  hP.release v.uplink (hP.release v.downlink h)

/-- Opening the loop opens two ends, or closes what it opened. -/
theorem acquireVoice (card : Nat) (h : P c) : P (VoiceLoop.acquire card c).2 := by
  have hdown : P (PcmDriver.acquire card .downlink .none .voice c).2 :=
    hP.acquire (opened_voice rfl) h
  unfold VoiceLoop.acquire
  split
  next e c₁ hresult =>
    rw [hresult] at hdown
    exact hdown
  next down c₁ hresult =>
    rw [hresult] at hdown
    have hup : P (PcmDriver.acquire card .uplink .none .voice c₁).2 :=
      hP.acquire (opened_voice rfl) hdown
    split
    next e c₂ hresult =>
      rw [hresult] at hup
      exact hP.close hup
    next up c₂ hresult =>
      rw [hresult] at hup
      have hstarted : P (PcmDriver.start down c₂).2 := hP.start hup
      split
      next e c₃ hresult =>
        rw [hresult] at hstarted
        exact hP.close (hP.close hstarted)
      next c₃ hresult =>
        rw [hresult] at hstarted
        have hboth : P (PcmDriver.start up c₃).2 := hP.start hstarted
        split
        next e c₄ hresult =>
          rw [hresult] at hboth
          exact hP.close (hP.close hboth)
        next c₄ hresult =>
          rw [hresult] at hboth
          exact hboth

/-- Starting the loop opens and starts both ends, or undoes it. -/
theorem startVoice (v : VoiceLoop) (card : Nat) (h : P c) : P (v.start card c).2.2 := by
  have hacquired := hP.acquireVoice card (hP.stopVoice v h)
  unfold VoiceLoop.start
  split
  next e c' hresult =>
    rw [hresult] at hacquired
    exact hacquired
  next v' c' hresult =>
    rw [hresult] at hacquired
    exact hacquired

end

/-! ## Streams -/

section

variable (hP : Lasting P) {d : Device σ μ}

include hP

/-- Waiting only asks the card how much room there is. -/
theorem pace (id : SubstreamId) (fuel : Nat) {c : σ} (h : P c) : P (Device.pace id fuel c) := by
  induction fuel generalizing c with
  | zero => exact h
  | succ fuel ih =>
    have havail : P (PcmDriver.avail id c).2 := hP.avail h
    unfold Device.pace
    split
    next c' hresult =>
      rw [hresult] at havail
      exact havail
    next free c' hresult =>
      rw [hresult] at havail
      split
      next => exact havail
      next => exact ih havail

/-- Standby closes the substream, and passes over the codec. -/
theorem standbyOutput (i : StreamId) (h : P d.card) : P (d.standbyOutput i).card := by
  unfold Device.standbyOutput
  split
  next => exact h
  next => exact hP.close h

theorem standbyInput (i : StreamId) (h : P d.card) : P (d.standbyInput i).card := by
  unfold Device.standbyInput
  split
  next => exact h
  next => exact hP.close h

theorem standbyAll (h : P d.card) : P d.standbyAll.card :=
  Device.standbyAll_induction (P := fun e => P e.card) h (fun _ i => hP.standbyOutput i)
    fun _ i => hP.standbyInput i

theorem dropOutput (i : StreamId) (h : P d.card) : P (d.dropOutput i).card := by
  unfold Device.dropOutput
  cases d.outputSubstream? i with
  | none => exact h
  | some id => exact hP.close h

theorem dropInput (i : StreamId) (h : P d.card) : P (d.dropInput i).card := by
  unfold Device.dropInput
  cases d.capture? i with
  | none => exact h
  | some c => exact hP.close h

/-- A start opens with the configuration of playback. -/
theorem ensureOutput (i : StreamId) (h : P d.card) : P (d.ensureOutput i).2.card := by
  unfold Device.ensureOutput
  split
  next => exact h
  next =>
    unfold Device.startOutput
    have hpowered : P (d.converge .output true).card := h
    generalize d.converge .output true = e at hpowered ⊢
    have hopened : P (PcmDriver.acquire e.config.card .hifiPlayback Device.playbackFlags .hifi
      e.card).2 := hP.acquire (fun _ => rfl) hpowered
    simp only
    split
    next id card hresult =>
      rw [hresult] at hopened
      exact hopened
    next reason card hresult =>
      rw [hresult] at hopened
      exact hopened

/-- A start for capture opens with that of the stream. -/
theorem ensureInput (i : StreamId) (s : InputStream) (h : P d.card) :
    P (d.ensureInput i s).2.card := by
  unfold Device.ensureInput
  split
  next => exact h
  next =>
    unfold Device.startInput
    have hpowered : P (d.converge .input true).card := h
    generalize d.converge .input true = e at hpowered ⊢
    have hopened : P (PcmDriver.acquire e.config.card .hifiCapture .none s.config e.card).2 :=
      hP.acquire (opened_capture s.config) hpowered
    simp only
    split
    next id card hresult =>
      rw [hresult] at hopened
      exact hopened
    next reason card hresult =>
      rw [hresult] at hopened
      exact hopened

/-- A write starts the stream, waits, and transfers; a failed one ends in standby. -/
theorem writeOutput (i : StreamId) (bytes : List UInt8) (h : P d.card) :
    P (d.writeOutput i bytes).2.card :=
  Device.writeOutput_induction (P := fun e => P e.card) h (fun _ _ => hP.ensureOutput i h)
    (fun _ _ _ _ _ hd => hP.write (hP.pace _ _ hd)) fun _ => hP.standbyOutput i

/-- A read starts the stream and takes what it needs; a failed one ends in standby. -/
theorem readInput (i : StreamId) (length : Nat) (h : P d.card) :
    P (d.readInput i length).2.card :=
  Device.readInput_induction (P := fun e => P e.card) h (fun s _ => hP.ensureInput i s h)
    (fun _ _ _ _ _ hd => Device.readCapture_keeps (fun _ _ hc => hP.read hc) _ _ hd)
    (fun _ _ _ _ _ _ _ _ _ hd => hd) fun _ => hP.standbyInput i

end

/-! ## Operations -/

section

variable (hP : Lasting P) {d d' : Device σ μ}

omit [PcmDriver σ] in
/-- What the card does not hear of. -/
theorem samePcm (h : P d.card) (hsame : d.SamePcm d') : P d'.card := hsame.card.symm ▸ h

include hP

theorem startLoop (h : P d.card) : P d.startLoop.card := by
  have hstarted := hP.startVoice d.loop d.config.card h
  unfold Device.startLoop
  split
  next loop card hresult =>
    rw [hresult] at hstarted
    exact hstarted
  next e loop card hresult =>
    rw [hresult] at hstarted
    exact hstarted

variable [ModemLink μ]

/-- The start of a call opens the loop after all streams are in standby. -/
theorem enterCall (h : P d.card) : P d.enterCall.card := by
  have hrested : P d.standbyAll.enterCallDevices.card := hP.standbyAll h
  have hrouted := samePcm hrested (Device.samePcm_routeAll _)
  exact hP.startLoop hrouted

theorem leaveCall (h : P d.card) : P d.leaveCall.card := by
  have hstopped : P (d.setInCall false).stopLoop.card := hP.stopVoice d.loop h
  have hrouted := samePcm (hP.standbyAll hstopped) (Device.samePcm_routeAll _)
  exact hrouted

theorem setMode (mode : Mode) (h : P d.card) : P (d.setMode mode).card := by
  have hmode : P ({ d with routing := { d.routing with mode } } : Device σ μ).card := h
  unfold Device.setMode
  split
  next => exact h
  next =>
    simp only
    split
    next =>
      split
      next => exact h
      next => exact hP.enterCall hmode
    next =>
      split
      next => exact hP.leaveCall hmode
      next => exact h

/-- **What the driver's operations keep, each operation of the device keeps.** -/
theorem step (op : Operation) (h : P d.card) : P (d.step op).2.card := by
  have hgate : ∀ {b : Bool} {e : Device σ μ}, P e.card → P (if b then e else d).card := by
    intro b e he
    cases b with
    | true => exact he
    | false => exact h
  cases op with
  | check | setMasterVolume | setMicMute | micMute | parameters | captureBuffer => exact h
  | isStandbyOutput i | outputParameters i | setOutputVolume i | renderPosition i | latency i =>
    simp only [Device.step, Device.onOutput_snd, ite_self]
    exact h
  | isStandbyInput i | inputParameters i | setInputGain i | lostFrames i =>
    simp only [Device.step, Device.onInput_snd, ite_self]
    exact h
  | setParameters text => exact samePcm h (d.samePcm_setParameters text)
  | routeOutput devices => exact samePcm h (d.samePcm_rerouteOutput devices _)
  | setVoiceVolume volume =>
    rw [Device.step_setVoiceVolume_snd]
    exact samePcm h (d.samePcm_setVoiceVolume volume)
  | setMode code =>
    simp only [Device.step]
    cases Mode.ofCode? code with
    | none => exact h
    | some mode => exact hP.setMode mode h
  | openOutput _ =>
    rw [Device.step_openOutput_snd]
    exact samePcm h d.samePcm_openOutput
  | openInput _ format =>
    rw [Device.step_openInput_snd]
    exact samePcm h (d.samePcm_openInput format)
  | closeOutput i =>
    simp only [Device.step, Device.onOutput_snd]
    exact hgate (samePcm (hP.standbyOutput i h) (Device.samePcm_forgetOutput _ i))
  | closeInput i =>
    simp only [Device.step, Device.onInput_snd]
    exact hgate (samePcm (hP.standbyInput i h) (Device.samePcm_forgetInput _ i))
  | dropOutput i =>
    simp only [Device.step, Device.onOutput_snd]
    exact hgate (hP.dropOutput i h)
  | dropInput i =>
    simp only [Device.step, Device.onInput_snd]
    exact hgate (hP.dropInput i h)
  | write i bytes =>
    rw [Device.step_write_snd]
    exact hP.writeOutput i bytes h
  | read i length =>
    rw [Device.step_read_snd]
    exact hP.readInput i length h
  | standbyOutput i =>
    simp only [Device.step, Device.onOutput_snd]
    exact hgate (hP.standbyOutput i h)
  | standbyInput i =>
    simp only [Device.step, Device.onInput_snd]
    exact hgate (hP.standbyInput i h)
  | setOutputParameters i text =>
    simp only [Device.step, Device.onOutput_snd]
    refine hgate ?_
    unfold Device.setOutputParameters
    split
    next => exact h
    next devices _ => exact samePcm h (d.samePcm_rerouteOutput devices _)
  | setInputParameters i text =>
    simp only [Device.step, Device.onInput_snd]
    refine hgate ?_
    unfold Device.setInputParameters
    split
    next => exact h
    next devices _ => exact samePcm h (d.samePcm_rerouteInput devices _)

end

end Lasting

namespace SoftCard

/-- A substream has the format. -/
def HasFormat (c : SoftCard) (id : SubstreamId) (config : PcmConfig) : Prop :=
  ∃ s, c.substreams[id]? = some s ∧ s.config = config

variable {c c' : SoftCard} {id : SubstreamId} {config : PcmConfig}

/-- The configuration of a substream lasts. -/
theorem HasFormat.evolves {Opens : Lane → PcmConfig → Prop} (h : c.HasFormat id config)
    (hev : c.Evolves Opens c') : c'.HasFormat id config := by
  obtain ⟨s, hs, hconfig⟩ := h
  obtain ⟨s', hs', hbecomes⟩ := hev.old hs
  exact ⟨s', hs', hbecomes.config.trans hconfig⟩

/-- Who handles a card opens and closes nothing. -/
theorem keeps_handle (c : SoftCard) (h : Handling) : PcmLedger.Keeps c (c.handle h) := by
  have hring : ∀ id f, PcmLedger.Keeps c (c.withRing id f) := by
    intro id f
    unfold withRing
    split
    next => exact (PcmLedger.Calm.refl c).toKeeps
    next s hs =>
      have hput : PcmLedger.Calm c (c.put id { s with ring := f s.ring }) := calm_put hs rfl rfl
      exact hput.toKeeps
  cases h with
  | push id samples => exact hring id fun r => (r.push samples).2
  | pop id out => exact hring id fun r => (r.pop out).2.2
  | discard id frames => exact hring id fun r => (r.discard frames).2
  | refuseLane | allowLane | refuseTransfers | limitMappings | takeEvents =>
    exact keeps_of_substreams rfl

/-- What is opened has the format that it was opened with. -/
theorem hasFormat_acquire {card : Nat} {lane : Lane} {flags : PcmFlags}
    (h : PcmDriver.acquire card lane flags config c = (.ok id, c')) : c'.HasFormat id config := by
  rcases acquire_cases card lane flags config c with ⟨-, hacquire⟩ | ⟨-, hacquire⟩
  · rw [hacquire] at h
    cases h
  · obtain ⟨hid, rfl⟩ := Prod.mk.inj (hacquire.symm.trans h)
    obtain rfl := Except.ok.inj hid
    exact ⟨_, List.getElem?_concat_length, rfl⟩

end SoftCard

namespace Device

variable {μ : Type}

/-- The event is no change of the card but that somebody handles it. -/
def Event.ByHand : Event SoftCard μ → Prop
  | .card change => ∃ h : SoftCard.Handling, change = fun c => c.handle h
  | _ => True

/-- What runs of the capture streams ran before, in the same format and from the same
substream. -/
def CapturesFrom (d d' : Device SoftCard μ) : Prop :=
  ∀ s' ∈ d'.inputs, ∀ c', s'.running = some c' →
    ∃ s ∈ d.inputs, s.config = s'.config ∧ ∃ c, s.running = some c ∧ c.substream = c'.substream

/-- Rings and substreams have the formats that they should have. -/
structure Tuned (d : Device SoftCard μ) : Prop where
  rings : d.card.RingsFit
  /-- What is open for playback has the format of playback. -/
  playback {id : SubstreamId} {s : Substream} (hs : d.card.substreams[id]? = some s)
    (hlive : s.live = true) (hlane : s.lane = .hifiPlayback) : s.config = .hifi
  /-- What a capture stream captures from has the format of the stream. -/
  capture {s : InputStream} (hs : s ∈ d.inputs) {c : Capture} (hc : s.running = some c) :
    d.card.HasFormat c.substream s.config

section

variable {d d' d'' : Device SoftCard μ} {i : StreamId}

/-- Nothing new captures if no capture stream changed. -/
theorem CapturesFrom.of_inputs (h : d'.inputs = d.inputs) : d.CapturesFrom d' := by
  intro s' hs' c' hc'
  rw [h] at hs'
  exact ⟨s', hs', rfl, c', hc', rfl⟩

/-- What captures was started by one step or the other. -/
theorem CapturesFrom.trans (h : d.CapturesFrom d') (h' : d'.CapturesFrom d'') :
    d.CapturesFrom d'' := by
  intro s'' hs'' c'' hc''
  obtain ⟨s', hs', hconfig', c', hc', hsubstream'⟩ := h' s'' hs'' c'' hc''
  obtain ⟨s, hs, hconfig, c, hc, hsubstream⟩ := h s' hs' c' hc'
  exact ⟨s, hs, hconfig.trans hconfig', c, hc, hsubstream.trans hsubstream'⟩

/-- One stream changes, in what runs of it and not in its format. -/
theorem CapturesFrom.modify {f : InputStream → InputStream}
    (hinputs : d'.inputs = d.inputs.modify i f)
    (hf : ∀ s, d.inputs[i]? = some s → (f s).config = s.config ∧
      ∀ c', (f s).running = some c' → ∃ c, s.running = some c ∧ c.substream = c'.substream) :
    d.CapturesFrom d' := by
  intro s' hs' c' hc'
  rw [hinputs] at hs'
  obtain ⟨j, hj⟩ := List.mem_iff_getElem?.1 hs'
  rw [List.getElem?_modify] at hj
  obtain ⟨s, hs, hchanged⟩ := Option.map_eq_some_iff.1 hj
  by_cases hij : i = j
  · rw [if_pos hij] at hchanged
    obtain ⟨hconfig, hrunning⟩ := hf s (hij ▸ hs)
    rw [← hchanged] at hc' ⊢
    obtain ⟨c, hc, hsubstream⟩ := hrunning c' hc'
    exact ⟨s, List.mem_of_getElem? hs, hconfig.symm, c, hc, hsubstream⟩
  · rw [if_neg hij] at hchanged
    rw [← hchanged] at hc' ⊢
    exact ⟨s, List.mem_of_getElem? hs, rfl, c', hc', rfl⟩

theorem CapturesFrom.gate (h : d.CapturesFrom d') (b : Bool) :
    d.CapturesFrom (if b then d' else d) := by
  cases b with
  | true => exact h
  | false => exact .of_inputs rfl

/-- Standby starts nothing. -/
theorem capturesFrom_standbyInput (d : Device SoftCard μ) (i : StreamId) :
    d.CapturesFrom (d.standbyInput i) := by
  unfold standbyInput
  split
  next => exact .of_inputs rfl
  next => exact .modify (inputs_converge ..) fun _ _ => ⟨rfl, fun _ hc' => nomatch hc'⟩

theorem capturesFrom_dropInput (d : Device SoftCard μ) (i : StreamId) :
    d.CapturesFrom (d.dropInput i) :=
  .modify rfl fun _ _ => ⟨rfl, fun _ hc' => nomatch hc'⟩

theorem capturesFrom_standbyAll (d : Device SoftCard μ) : d.CapturesFrom d.standbyAll :=
  standbyAll_induction (P := d.CapturesFrom) (.of_inputs rfl)
    (fun e i h => h.trans (.of_inputs (e.inputs_standbyOutput i)))
    fun e i h => h.trans (e.capturesFrom_standbyInput i)

/-- A stream that was just opened is in standby. -/
theorem capturesFrom_openInput (d : Device SoftCard μ) (format : StreamFormat) :
    d.CapturesFrom (d.openInput format).2 := by
  unfold openInput
  split
  next => exact .of_inputs rfl
  next =>
    split
    next => exact .of_inputs rfl
    next =>
      intro s' hs' c' hc'
      rcases List.mem_append.1 hs' with hold | hnew
      · exact ⟨s', hold, rfl, c', hc', rfl⟩
      · obtain rfl := List.mem_singleton.1 hnew
        cases hc'

/-! ## Everything stays in tune -/

/-- Nothing gets out of tune while substreams keep their configuration and no stream starts. -/
theorem Tuned.evolves (h : d.Tuned) (hev : d.card.Evolves Opened d'.card)
    (hfrom : d.CapturesFrom d') : d'.Tuned where
  rings := h.rings.evolves hev
  playback {id s'} hs' hlive hlane := by
    rcases hev.cases hs' with ⟨s, hs, hbecomes⟩ | ⟨-, hopened⟩
    · rw [hbecomes.config]
      exact h.playback hs (hbecomes.live hlive) (hbecomes.lane.symm.trans hlane)
    · exact hopened hlane
  capture {s'} hs' {c'} hc' := by
    obtain ⟨s, hs, hconfig, c, hc, hsubstream⟩ := hfrom s' hs' c' hc'
    rw [← hconfig, ← hsubstream]
    exact (h.capture hs hc).evolves hev

/-- So nothing does when only the card changes. -/
theorem Tuned.withCard {card : SoftCard} (h : d.Tuned) (hev : d.card.Evolves Opened card) :
    Tuned { d with card } := h.evolves hev (.of_inputs rfl)

theorem Tuned.standbyInput (h : d.Tuned) (i : StreamId) : (d.standbyInput i).Tuned :=
  h.evolves ((SoftCard.lasting_evolves d.card).standbyInput i (.refl d.card))
    (d.capturesFrom_standbyInput i)

/-- What is put in a stream captures in the format of the stream. -/
theorem Tuned.setInput (h : d.Tuned) {s : InputStream} (hs : d.inputs[i]? = some s) {c : Capture}
    (hc : d.card.HasFormat c.substream s.config) : (d.setInput i (some c)).Tuned where
  rings := h.rings
  playback := h.playback
  capture {s'} hs' {c'} hc' := by
    obtain ⟨j, hj⟩ := List.mem_iff_getElem?.1 hs'
    rw [Device.setInput, List.getElem?_modify] at hj
    obtain ⟨t, ht, hchanged⟩ := Option.map_eq_some_iff.1 hj
    by_cases hij : i = j
    · subst hij
      rw [if_pos rfl] at hchanged
      obtain rfl := Option.some.inj (hs.symm.trans ht)
      subst hchanged
      obtain rfl := Option.some.inj hc'
      exact hc
    · rw [if_neg hij] at hchanged
      rw [← hchanged] at hc' ⊢
      exact h.capture (List.mem_of_getElem? ht) hc'

/-- A stream that starts captures in its format. -/
theorem Tuned.ensureInput (h : d.Tuned) {s : InputStream} (hs : d.inputs[i]? = some s) :
    (d.ensureInput i s).2.Tuned := by
  unfold Device.ensureInput
  split
  next => exact h
  next =>
    unfold startInput
    have hpowered : (d.converge .input true).Tuned := h.evolves (.refl d.card) (.of_inputs rfl)
    have hsame : (d.converge .input true).inputs[i]? = some s := hs
    generalize d.converge .input true = e at hpowered hsame ⊢
    have hev := SoftCard.evolves_acquire e.config.card PcmFlags.none e.card
      (opened_capture s.config)
    simp only
    split
    next id card hresult =>
      rw [hresult] at hev
      exact (hpowered.withCard hev).setInput hsame (SoftCard.hasFormat_acquire hresult)
    next reason card hresult =>
      rw [hresult] at hev
      exact (hpowered.withCard hev).evolves (.refl card) (.of_inputs rfl)

/-- A read starts its stream with the stream's own configuration. -/
theorem Tuned.readInput (h : d.Tuned) (i : StreamId) (length : Nat) :
    (d.readInput i length).2.Tuned := by
  refine readInput_induction (P := Tuned) h
    (fun s hheld => h.ensureInput (heldInput?_eq_some hheld))
    (fun s c d' _ _ hd' => ?_) (fun s c d' answer c' card hheld hstarted htaken hd' => ?_)
    fun e he => he.standbyInput i
  · exact hd'.withCard (readCapture_keeps (P := d'.card.Evolves Opened)
      (fun length card hcard => hcard.trans (SoftCard.evolves_read _ length card)) _ _
      (.refl d'.card))
  · have hs := getElem?_ensureInput (heldInput?_eq_some hheld) hstarted
    have hformat := hd'.capture (List.mem_of_getElem? hs) rfl
    rw [← substream_readCapture htaken] at hformat
    exact hd'.setInput hs hformat

/-- Who handles the card opens and closes nothing. -/
theorem Event.ByHand.sparesCard {e : Event SoftCard μ} (h : e.ByHand) : e.SparesCard := by
  cases e with
  | operation | modem => trivial
  | card change =>
    obtain ⟨handling, rfl⟩ := h
    exact fun c => c.keeps_handle handling

/-! ## Runs -/

variable [ModemLink μ]

theorem capturesFrom_enterCall (d : Device SoftCard μ) : d.CapturesFrom d.enterCall :=
  d.capturesFrom_standbyAll.trans (.of_inputs d.inputs_enterCall)

theorem capturesFrom_leaveCall (d : Device SoftCard μ) : d.CapturesFrom d.leaveCall := by
  have hstopped : d.CapturesFrom (d.setInCall false).stopLoop := .of_inputs rfl
  exact hstopped.trans ((capturesFrom_standbyAll _).trans (.of_inputs d.inputs_leaveCall))

/-- The start and the end of a call put streams in standby, and start none. -/
theorem capturesFrom_setMode (d : Device SoftCard μ) (mode : Mode) :
    d.CapturesFrom (d.setMode mode) := by
  have hmode : d.CapturesFrom { d with routing := { d.routing with mode } } := .of_inputs rfl
  unfold setMode
  split
  next => exact .of_inputs rfl
  next =>
    simp only
    split
    next =>
      split
      next => exact hmode
      next => exact hmode.trans (capturesFrom_enterCall _)
    next =>
      split
      next => exact hmode.trans (capturesFrom_leaveCall _)
      next => exact hmode

/-- **One operation** leaves the device in tune. -/
theorem Tuned.step (h : d.Tuned) (op : Operation) : (d.step op).2.Tuned := by
  have hev := (SoftCard.lasting_evolves d.card).step op (.refl d.card)
  have hsame : (d.step op).2.inputs = d.inputs → (d.step op).2.Tuned := fun hinputs =>
    h.evolves hev (.of_inputs hinputs)
  cases op with
  | check | setMasterVolume | setMicMute | micMute | parameters | captureBuffer => exact hsame rfl
  | isStandbyOutput i | outputParameters i | setOutputVolume i | renderPosition i | latency i =>
    simp only [Device.step, onOutput_snd, ite_self]
    exact h
  | isStandbyInput i | inputParameters i | setInputGain i | lostFrames i =>
    simp only [Device.step, onInput_snd, ite_self]
    exact h
  | setParameters text => exact hsame (d.inputs_setParameters text)
  | routeOutput devices => exact hsame (d.inputs_rerouteOutput devices _)
  | setVoiceVolume volume =>
    refine hsame ?_
    rw [step_setVoiceVolume_snd, inputs_setVoiceVolume]
  | setMode code =>
    simp only [Device.step] at hev ⊢
    cases hmode : Mode.ofCode? code with
    | none => exact h
    | some mode =>
      rw [hmode] at hev
      exact h.evolves hev (d.capturesFrom_setMode mode)
  | openOutput _ =>
    refine hsame ?_
    rw [step_openOutput_snd, inputs_openOutput]
  | openInput _ format =>
    rw [step_openInput_snd] at hev ⊢
    exact h.evolves hev (d.capturesFrom_openInput format)
  | closeOutput i =>
    simp only [Device.step, onOutput_snd] at hev ⊢
    have hclosed : d.CapturesFrom (d.closeOutput i) :=
      .of_inputs ((inputs_forgetOutput ..).trans (d.inputs_standbyOutput i))
    exact h.evolves hev (hclosed.gate _)
  | closeInput i =>
    simp only [Device.step, onInput_snd] at hev ⊢
    exact h.evolves hev (((d.capturesFrom_standbyInput i).trans
      (.of_inputs (inputs_forgetInput ..))).gate _)
  | dropOutput i =>
    simp only [Device.step, onOutput_snd] at hev ⊢
    have hdropped : d.CapturesFrom (d.dropOutput i) := .of_inputs rfl
    exact h.evolves hev (hdropped.gate _)
  | dropInput i =>
    simp only [Device.step, onInput_snd] at hev ⊢
    exact h.evolves hev ((d.capturesFrom_dropInput i).gate _)
  | write i bytes =>
    rw [step_write_snd] at hev ⊢
    exact h.evolves hev (.of_inputs (d.inputs_writeOutput i bytes))
  | read i length =>
    rw [step_read_snd]
    exact h.readInput i length
  | standbyOutput i =>
    simp only [Device.step, onOutput_snd] at hev ⊢
    exact h.evolves hev ((CapturesFrom.of_inputs (d.inputs_standbyOutput i)).gate _)
  | standbyInput i =>
    simp only [Device.step, onInput_snd] at hev ⊢
    exact h.evolves hev ((d.capturesFrom_standbyInput i).gate _)
  | setOutputParameters i text =>
    simp only [Device.step, onOutput_snd] at hev ⊢
    exact h.evolves hev ((CapturesFrom.of_inputs (d.inputs_setOutputParameters i text)).gate _)
  | setInputParameters i text =>
    simp only [Device.step, onInput_snd] at hev ⊢
    exact h.evolves hev ((CapturesFrom.of_inputs (d.inputs_setInputParameters i text)).gate _)

/-- **One event** leaves everything in tune. -/
theorem Tuned.happen (h : d.Tuned) {e : Event SoftCard μ} (hby : e.ByHand) :
    (d.happen e).Tuned := by
  cases e with
  | operation op => exact h.step op
  | card change =>
    obtain ⟨handling, rfl⟩ := hby
    exact h.withCard (SoftCard.evolves_handle d.card handling)
  | modem change => exact h.evolves (.refl d.card) (.of_inputs rfl)

/-- **Each run** in which others only handle the card leaves the device in tune. -/
theorem Tuned.play (h : d.Tuned) {events : List (Event SoftCard μ)}
    (hby : ∀ e ∈ events, e.ByHand) : (d.play events).Tuned := by
  induction events generalizing d with
  | nil => exact h
  | cons e events ih =>
    exact ih (h.happen (hby e List.mem_cons_self)) fun e' he' => hby e' (List.mem_cons_of_mem _ he')

/-- A device starts in tune on every card on which nothing is open. -/
theorem tuned_acquire {config : Config} {mixer : Mixer} {uses : List SoftCard.Use} {link : μ}
    (hopen : Device.acquire config mixer (SoftCard.used uses) link = .ok d)
    (hfree : ∀ lane, (SoftCard.used uses).openCount lane = 0) : d.Tuned := by
  obtain ⟨hcard, -, -, hinputs⟩ := acquire_pcm hopen
  refine ⟨?_, fun {id s} hs hlive hlane => ?_, fun {s} hs => ?_⟩
  · rw [hcard]
    exact SoftCard.ringsFit_used uses
  · rw [hcard] at hs
    have hnone := List.countP_eq_zero.1 (hfree .hifiPlayback) s (List.mem_of_getElem? hs)
    rw [hlive, hlane] at hnone
    exact absurd rfl hnone
  · rw [hinputs] at hs
    cases hs

end

end Device

end HandsetAudio
