import HandsetAudio.Proofs.Device.CallEntry
import HandsetAudio.Proofs.Mixer.Kept

/-!
# Streams during a call

A stream that is opened, runs, fails or is put to rest during a call wakes and rests its path, and
opens and closes substreams of its own. Main statement:

> `streams_spare_call`: none of that writes a control that the call keeps on, is recorded of a
> lane of the modem, touches the voice loop or is told to the modem.
-/

namespace HandsetAudio

open PcmLedger

/-- The operation is one on streams. -/
def Operation.onStreams : Operation → Bool
  | .openOutput _ | .openInput _ _ => true
  | op => op.uses?.isSome || op.closes?.isSome || op.drops?.isSome

namespace Device

/-! ## What the card records -/

section

variable {μ : Type} {d : Device SoftCard μ} {i : StreamId}

theorem grows_standbyOutput (h : d.Owns) (i : StreamId) :
    Grows (·.lane = .hifiPlayback) d.card.events (d.standbyOutput i).card.events := by
  unfold standbyOutput
  split
  next => exact .refl _
  next id hsub => exact SoftCard.grows_close (h.isOpen_outputSubstream hsub)

theorem grows_standbyInput (h : d.Owns) (i : StreamId) :
    Grows (·.lane = .hifiCapture) d.card.events (d.standbyInput i).card.events := by
  unfold standbyInput
  split
  next => exact .refl _
  next c hsub => exact SoftCard.grows_close (h.isOpen_capture hsub)

theorem grows_dropOutput (h : d.Owns) (i : StreamId) :
    Grows (·.lane = .hifiPlayback) d.card.events (d.dropOutput i).card.events := by
  unfold dropOutput
  cases hsub : d.outputSubstream? i with
  | none => exact .refl _
  | some id => exact SoftCard.grows_close (h.isOpen_outputSubstream hsub)

theorem grows_dropInput (h : d.Owns) (i : StreamId) :
    Grows (·.lane = .hifiCapture) d.card.events (d.dropInput i).card.events := by
  unfold dropInput
  cases hsub : d.capture? i with
  | none => exact .refl _
  | some c => exact SoftCard.grows_close (h.isOpen_capture hsub)

theorem grows_closeOutput (h : d.Owns) (i : StreamId) :
    Grows (·.lane = .hifiPlayback) d.card.events (d.closeOutput i).card.events := by
  unfold closeOutput
  rw [(samePcm_forgetOutput _ i).card]
  exact grows_standbyOutput h i

theorem grows_closeInput (h : d.Owns) (i : StreamId) :
    Grows (·.lane = .hifiCapture) d.card.events (d.closeInput i).card.events := by
  unfold closeInput
  rw [(samePcm_forgetInput _ i).card]
  exact grows_standbyInput h i

theorem grows_ensureOutput (d : Device SoftCard μ) (i : StreamId) :
    Grows (·.lane = .hifiPlayback) d.card.events (d.ensureOutput i).2.card.events := by
  unfold ensureOutput
  split
  next => exact .refl _
  next =>
    have hacquire := SoftCard.grows_acquire (d.converge .output true).config.card .hifiPlayback
      playbackFlags .hifi (d.converge .output true).card
    unfold startOutput
    simp only
    split
    next id card hresult =>
      rw [hresult] at hacquire
      exact hacquire
    next e card hresult =>
      rw [hresult] at hacquire
      exact hacquire

theorem grows_ensureInput (d : Device SoftCard μ) (i : StreamId) (s : InputStream) :
    Grows (·.lane = .hifiCapture) d.card.events (d.ensureInput i s).2.card.events := by
  unfold ensureInput
  split
  next => exact .refl _
  next =>
    have hacquire := SoftCard.grows_acquire (d.converge .input true).config.card .hifiCapture .none
      s.config (d.converge .input true).card
    unfold startInput
    simp only
    split
    next id card hresult =>
      rw [hresult] at hacquire
      exact hacquire
    next e card hresult =>
      rw [hresult] at hacquire
      exact hacquire

/-- A playback stream that was started is the one that runs. -/
theorem outputSubstream?_ensureOutput {s : OutputStream} (hs : d.outputs[i]? = some s)
    {id : SubstreamId} {d' : Device SoftCard μ} (h : d.ensureOutput i = (.ok id, d')) :
    d'.outputSubstream? i = some id := by
  unfold ensureOutput at h
  split at h
  next id' hrunning =>
    obtain ⟨hid, rfl⟩ := Prod.mk.inj h
    rw [hrunning, Except.ok.inj hid]
  next =>
    unfold startOutput at h
    simp only at h
    split at h
    next id' card hresult =>
      obtain ⟨hid, rfl⟩ := Prod.mk.inj h
      obtain rfl := Except.ok.inj hid
      have hsame : (d.converge .output true).outputs[i]? = some s := hs
      simp [outputSubstream?, setOutput, hsame]
    next => cases h

/-- Asking for free frames leaves a software card as it is. -/
theorem pace_softCard (id : SubstreamId) (fuel : Nat) (c : SoftCard) : pace id fuel c = c := by
  induction fuel with
  | zero => rfl
  | succ fuel ih =>
    simp only [pace, PcmDriver.avail]
    cases c.avail? id with
    | none => rfl
    | some free =>
      simp only [ih]
      exact ite_self c

theorem grows_readCapture {lane : Lane} (config : PcmConfig) {capture : Capture} (length : Nat)
    {c : SoftCard} (h : IsOpen c capture.substream lane) :
    Grows (·.lane = lane) c.events (readCapture config capture length c).2.2.events := by
  refine (readCapture_keeps
    (P := fun c' => IsOpen c' capture.substream lane ∧
      Grows (fun e : PcmEvent => e.lane = lane) c.events (SoftCard.events c'))
    (fun length c' hc' => ?_) config length ⟨h, .refl c.events⟩).2
  obtain ⟨hopen, hgrows⟩ := hc'
  exact ⟨(LawfulLedger.read _ length c').isOpen _ lane hopen,
    hgrows.trans (SoftCard.grows_read hopen length)⟩

/-- A playback stream that was started has a substream of its own. -/
theorem Owns.ensureOutput (h : d.Owns) {s : OutputStream} (hs : d.outputs[i]? = some s)
    {id : SubstreamId} {d' : Device SoftCard μ} (hresult : d.ensureOutput i = (.ok id, d')) :
    d'.Owns ∧ IsOpen d'.card id .hifiPlayback := by
  have howns := (d.deals_ensureOutput hs).owns h
  rw [hresult] at howns
  exact ⟨howns, howns.isOpen_outputSubstream (outputSubstream?_ensureOutput hs hresult)⟩

/-- A capture stream that was started has a substream of its own. -/
theorem Owns.ensureInput (h : d.Owns) {s : InputStream} (hs : d.inputs[i]? = some s)
    {c : Capture} {d' : Device SoftCard μ} (hresult : d.ensureInput i s = (.ok c, d')) :
    d'.Owns ∧ IsOpen d'.card c.substream .hifiCapture := by
  have howns := (d.deals_ensureInput hs).owns h
  rw [hresult] at howns
  exact ⟨howns, howns.isOpen_capture (d.capture?_ensureInput hs hresult)⟩

/-- Taking samples leaves the account right. -/
theorem Owns.take {c c' : Capture} (hc : d.capture? i = some c) {config : PcmConfig} {length : Nat}
    {card card' : SoftCard} {answer : Except PcmError (List UInt8)}
    (htaken : readCapture config c length card = (answer, c', card'))
    (h : Owns { d with card := card' }) :
    Owns ({ d with card := card' }.setInput i (some c')) :=
  ((samePcm_setInput { d with card := card' } hc (substream_readCapture htaken)).deals
    (P := fun _ => True)).owns h

theorem grows_writeOutput (h : d.Owns) (i : StreamId) (bytes : List UInt8) :
    Grows (·.lane = .hifiPlayback) d.card.events (d.writeOutput i bytes).2.card.events := by
  refine (writeOutput_induction
    (P := fun e => e.Owns ∧ Grows (fun w : PcmEvent => w.lane = .hifiPlayback) d.card.events
      (SoftCard.events e.card)) ⟨h, .refl _⟩
    (fun s hheld => ⟨(d.deals_ensureOutput (heldOutput?_eq_some hheld)).owns h,
      d.grows_ensureOutput i⟩)
    (fun s id d' hheld hresult hstarted => ?_) fun e hdone => ?_).2
  · obtain ⟨howns, hopen⟩ := h.ensureOutput (heldOutput?_eq_some hheld) hresult
    rw [pace_softCard]
    exact ⟨howns.withCard (LawfulLedger.write id bytes d'.card),
      hstarted.2.trans (SoftCard.grows_write hopen bytes)⟩
  · exact ⟨(e.deals_standbyOutput i).owns hdone.1,
      hdone.2.trans (grows_standbyOutput hdone.1 i)⟩

theorem grows_readInput (h : d.Owns) (i : StreamId) (length : Nat) :
    Grows (·.lane = .hifiCapture) d.card.events (d.readInput i length).2.card.events := by
  refine (readInput_induction
    (P := fun e => e.Owns ∧ Grows (fun w : PcmEvent => w.lane = .hifiCapture) d.card.events
      (SoftCard.events e.card)) ⟨h, .refl _⟩
    (fun s hheld => ⟨(d.deals_ensureInput (heldInput?_eq_some hheld)).owns h,
      d.grows_ensureInput i s⟩)
    (fun s c d' hheld hresult hstarted => ?_)
    (fun s c d' answer c' card hheld hresult htaken hread => ?_) fun e hdone => ?_).2
  · obtain ⟨howns, hopen⟩ := h.ensureInput (heldInput?_eq_some hheld) hresult
    exact ⟨howns.withCard (calm_readCapture s.config c length d'.card),
      hstarted.2.trans (grows_readCapture s.config length hopen)⟩
  · have hcapture := d.capture?_ensureInput (heldInput?_eq_some hheld) hresult
    exact ⟨.take hcapture htaken hread.1, hread.2⟩
  · exact ⟨(e.deals_standbyInput i).owns hdone.1,
      hdone.2.trans (grows_standbyInput hdone.1 i)⟩

end

/-! ## One operation -/

section

variable {μ : Type} {d d' : Device SoftCard μ}

/-- From `d` to `d'` streams did something, and nothing else: what belongs to calls is as it was,
the codec made passes over one path, and the card recorded nothing of the modem's lanes. -/
structure StreamsOnly (d d' : Device SoftCard μ) : Prop where
  sameCall : d.SameCall d'
  passes : ∃ (p : Path) (ons : List Bool),
    d'.codec = d.codec.run (ons.map fun on => (p, .converge (d.facts on)))
  recorded : Grows (·.lane.interface = .hifi) d.card.events d'.card.events

theorem StreamsOnly.refl (d : Device SoftCard μ) : d.StreamsOnly d :=
  ⟨.refl d, ⟨.output, [], rfl⟩, .refl _⟩

theorem StreamsOnly.gate (b : Bool) (h : d.StreamsOnly d') :
    d.StreamsOnly (if b then d' else d) := by
  cases b with
  | true => exact h
  | false => exact .refl d

/-- An effect on the streams of one direction. -/
theorem StreamsOnly.effect {p : Path} {l : Line} {ons : List Bool} (h : d.Effect p l ons d')
    (hsame : d.SameCall d') {lane : Lane} (hlane : lane.interface = .hifi)
    (hgrows : Grows (·.lane = lane) d.card.events d'.card.events) : d.StreamsOnly d' :=
  ⟨hsame, ⟨p, ons, h.codec⟩, hgrows.mono fun _ he => he ▸ hlane⟩

theorem streamsOnly_rerouteInput {devices : DeviceSet} {on : Bool}
    (h : (d.rerouteInput devices on).routing.devices = d.routing.devices) :
    d.StreamsOnly (d.rerouteInput devices on) := by
  cases hreroutes : d.reroutes .input devices with
  | false =>
    rw [rerouteInput_of_not_reroutes hreroutes]
    exact .refl d
  | true => exact absurd h ((rerouted_input hreroutes on).devices_ne hreroutes)

variable [ModemLink μ]

/-- Rerouting that changes no device does nothing. -/
theorem streamsOnly_rerouteOutput {devices : DeviceSet} {on : Bool}
    (h : (d.rerouteOutput devices on).routing.devices = d.routing.devices) :
    d.StreamsOnly (d.rerouteOutput devices on) := by
  cases hreroutes : d.reroutes .output devices with
  | false =>
    rw [rerouteOutput_of_not_reroutes hreroutes]
    exact .refl d
  | true => exact absurd h ((rerouted_output hreroutes on).devices_ne hreroutes)

/-- **One operation on streams** that leaves the devices as they are does nothing else. -/
theorem step_streamsOnly (h : d.Owns) {op : Operation} (hop : op.onStreams = true)
    (hdevices : (d.step op).2.routing.devices = d.routing.devices) :
    d.StreamsOnly (d.step op).2 := by
  cases op with
  | check | setMode | setVoiceVolume | setMasterVolume | setMicMute | micMute | setParameters
  | parameters | captureBuffer | routeOutput => cases hop
  | isStandbyOutput i | outputParameters i | setOutputVolume i | renderPosition i | latency i =>
    simp only [step, onOutput_snd, ite_self]
    exact .refl d
  | isStandbyInput i | inputParameters i | setInputGain i | lostFrames i =>
    simp only [step, onInput_snd, ite_self]
    exact .refl d
  | openOutput _ =>
    rw [step_openOutput_snd]
    rcases d.effect_openOutput with heq | ⟨-, heffect⟩
    · rw [heq]
      exact .refl d
    · have hgrows : Grows (·.lane = .hifiPlayback) d.card.events d.openOutput.2.card.events := by
        rw [d.samePcm_openOutput.card]
        exact .refl _
      exact .effect heffect d.sameCall_openOutput rfl hgrows
  | openInput _ format =>
    rw [step_openInput_snd]
    rcases d.effect_openInput format with heq | ⟨-, heffect⟩
    · rw [heq]
      exact .refl d
    · have hgrows : Grows (·.lane = .hifiCapture) d.card.events
          (d.openInput format).2.card.events := by
        rw [(d.samePcm_openInput format).card]
        exact .refl _
      exact .effect heffect (d.sameCall_openInput format) rfl hgrows
  | closeOutput i =>
    simp only [step, onOutput_snd]
    exact .gate _ (.effect (effect_closeOutput rfl i) (d.sameCall_closeOutput i) rfl
      (grows_closeOutput h i))
  | closeInput i =>
    simp only [step, onInput_snd]
    exact .gate _ (.effect (effect_closeInput rfl i) (d.sameCall_closeInput i) rfl
      (grows_closeInput h i))
  | dropOutput i =>
    simp only [step, onOutput_snd]
    exact .gate _ (.effect (effect_dropOutput rfl i) (d.sameCall_dropOutput i) rfl
      (grows_dropOutput h i))
  | dropInput i =>
    simp only [step, onInput_snd]
    exact .gate _ (.effect (effect_dropInput rfl i) (d.sameCall_dropInput i) rfl
      (grows_dropInput h i))
  | standbyOutput i =>
    simp only [step, onOutput_snd]
    exact .gate _ (.effect (effect_standbyOutput rfl i) (d.sameCall_standbyOutput i) rfl
      (grows_standbyOutput h i))
  | standbyInput i =>
    simp only [step, onInput_snd]
    exact .gate _ (.effect (effect_standbyInput rfl i) (d.sameCall_standbyInput i) rfl
      (grows_standbyInput h i))
  | write i bytes =>
    rw [step_write_snd]
    cases hheld : (d.line .output).held i with
    | false =>
      rw [writeOutput_of_not_held hheld]
      exact .refl d
    | true =>
      exact .effect (effect_writeOutput rfl hheld bytes) (d.sameCall_writeOutput i bytes) rfl
        (grows_writeOutput h i bytes)
  | read i length =>
    rw [step_read_snd]
    cases hheld : (d.line .input).held i with
    | false =>
      rw [readInput_of_not_held hheld]
      exact .refl d
    | true =>
      exact .effect (effect_readInput rfl hheld length) (d.sameCall_readInput i length) rfl
        (grows_readInput h i length)
  | setOutputParameters i text =>
    simp only [step, onOutput_snd] at hdevices ⊢
    cases hheld : (d.line .output).held i with
    | false => exact .refl d
    | true =>
      rw [hheld, if_pos rfl] at hdevices
      rw [if_pos rfl]
      unfold setOutputParameters at hdevices ⊢
      generalize routedDevices? text = routed at hdevices ⊢
      cases routed with
      | none => exact .refl d
      | some devices => exact streamsOnly_rerouteOutput hdevices
  | setInputParameters i text =>
    simp only [step, onInput_snd] at hdevices ⊢
    cases hheld : (d.line .input).held i with
    | false => exact .refl d
    | true =>
      rw [hheld, if_pos rfl] at hdevices
      rw [if_pos rfl]
      unfold setInputParameters at hdevices ⊢
      generalize routedDevices? text = routed at hdevices ⊢
      cases routed with
      | none => exact .refl d
      | some devices => exact streamsOnly_rerouteInput hdevices

end

/-! ## Runs -/

/-- Streams do something, or failures set in on the card or pass. -/
def Event.OnStreams {μ : Type} : Event SoftCard μ → Prop
  | .operation op => op.onStreams = true
  | .card change => ∀ c, Keeps c (change c) ∧ (change c).events = c.events
  | .modem _ => False

section

variable {μ : Type} [ModemLink μ]

/-- **A run of streams** that leaves the devices as they are, from a codec in line with mode and
devices, does nothing to rows that the mode keeps on, to the modem's lanes and to the call. -/
theorem play_streamsOnly {d : Device SoftCard μ} (howns : d.Owns)
    (hsuits : d.codec.Suits d.routing.mode d.routing.devices) {events : List (Event SoftCard μ)}
    (hstreams : ∀ e ∈ events, e.OnStreams)
    (hdevices : ∀ n, (d.play (events.take n)).routing.devices = d.routing.devices) :
    Grows (MixerWrite.SparesKept d.routing.mode) d.mixer.journal (d.play events).mixer.journal ∧
      Grows (·.lane.interface = .hifi) d.card.events (d.play events).card.events ∧
      d.SameCall (d.play events) := by
  induction events generalizing d with
  | nil => exact ⟨.refl _, .refl _, .refl d⟩
  | cons e events ih =>
    have hrest : ∀ e ∈ events, e.OnStreams := fun e he => hstreams e (List.mem_cons_of_mem _ he)
    have hlater : ∀ n, ((d.happen e).play (events.take n)).routing.devices = d.routing.devices :=
      fun n => hdevices (n + 1)
    have hnow : (d.happen e).routing.devices = d.routing.devices := hlater 0
    have hfirst := hstreams e List.mem_cons_self
    cases e with
    | operation op =>
      obtain ⟨hsame, ⟨p, ons, hpasses⟩, hrecorded⟩ := step_streamsOnly howns hfirst hnow
      obtain ⟨hjournal, hsuits'⟩ := hsuits.run p ons
      have hcodec : (d.step op).2.codec = d.codec.run (ons.map fun on =>
          (p, .converge ⟨d.routing.mode, d.routing.devices, on⟩)) := hpasses
      rw [← hcodec] at hjournal hsuits'
      have hrouting : (d.step op).2.routing = d.routing := hsame.routing
      obtain ⟨hjournal', hrecorded', hsame'⟩ := ih (d := (d.step op).2) (howns.step op)
        (by rw [hrouting]; exact hsuits') hrest (by rw [hrouting]; exact hlater)
      rw [hrouting] at hjournal'
      exact ⟨hjournal.trans hjournal', hrecorded.trans hrecorded', hsame.trans hsame'⟩
    | card change =>
      have hkept : Owns { d with card := change d.card } :=
        Accounts.keeps howns (hfirst d.card).1
      obtain ⟨hjournal, hrecorded, hsame⟩ :=
        ih (d := { d with card := change d.card }) hkept hsuits hrest hlater
      have hcard : d.SameCall { d with card := change d.card } := ⟨rfl, rfl, rfl, rfl⟩
      have hunrecorded : (change d.card).events = d.card.events := (hfirst d.card).2
      refine ⟨hjournal, ?_, hcard.trans hsame⟩
      rw [← hunrecorded]
      exact hrecorded
    | modem change => exact absurd hfirst id

end

section

variable {σ μ : Type} [PcmDriver σ] [ModemLink μ] {config : Config} {mixer : Mixer} {card : σ}
  {link : μ} {d₀ : Device σ μ} (hopen : Device.acquire config mixer card link = .ok d₀)
  (events : List (Event σ μ))

include hopen

/-- On any mixer, both reconcilers remember what it would answer. -/
theorem faithful_play : (d₀.play events).codec.Faithful := by
  refine Codec.Faithful.of_reaches (Codec.faithful_fresh mixer) ?_
  have hreset := Codec.reaches_run (Codec.fresh mixer) [(.input, .reset), (.output, .reset)]
  rw [← (acquire_spec hopen).2.2] at hreset
  exact hreset.trans (d₀.reaches_play events)

/-- Right after it is entered, both paths are in line with a call. -/
theorem suits_entered (hmode : (d₀.play events).routing.mode ≠ .inCall) :
    ((d₀.play events).setMode .inCall).routing.mode = .inCall ∧
      ((d₀.play events).setMode .inCall).codec.Suits .inCall
        ((d₀.play events).setMode .inCall).routing.devices := by
  have hidle : (d₀.play events).routing.inCall = false := by
    rw [← Bool.not_eq_true, inCall_iff_play hopen events]
    exact hmode
  rw [setMode_inCall hmode hidle]
  have hregrouped := (d₀.play events).inCallMode.regrouped_enterCall
  have hcall : (d₀.play events).inCallMode.enterCall.routing.mode = .inCall := by
    rw [mode_enterCall]
    rfl
  refine ⟨hcall, (faithful_play hopen events).of_reaches hregrouped.reaches, fun p =>
    ⟨((d₀.play events).inCallMode.enterCall.line p).on, ?_⟩⟩
  have hinLine := hregrouped.inLine p
  rw [facts, hcall] at hinLine
  exact hinLine

end

/-- **Streams spare the call**: right after any state outside a call turned to a call, on any mixer,
nothing that streams do while the devices stay, and no failure of the card on the way, writes a
control of a row that is kept on in a call, is recorded of a lane of the modem, touches the voice
loop or is told to the modem. -/
theorem streams_spare_call {μ : Type} [ModemLink μ] {config : Config} {mixer : Mixer}
    {card : SoftCard} {link : μ} {d₀ : Device SoftCard μ}
    (hopen : Device.acquire config mixer card link = .ok d₀)
    (hfree : ∀ lane, card.openCount lane = 0) {before after : List (Event SoftCard μ)}
    (hbefore : ∀ e ∈ before, e.SparesCard) (hmode : (d₀.play before).routing.mode ≠ .inCall)
    (hstreams : ∀ e ∈ after, e.OnStreams)
    (hdevices : ∀ n, (((d₀.play before).step (.setMode 2)).2.play (after.take n)).routing.devices =
      ((d₀.play before).step (.setMode 2)).2.routing.devices) :
    let call := ((d₀.play before).step (.setMode 2)).2
    let later := call.play after
    (∃ writes, later.mixer.journal = call.mixer.journal ++ writes ∧ ∀ w ∈ writes,
        ∀ rule ∈ ControlRule.outputTable ++ ControlRule.inputTable,
          rule.keep.contains .inCall = true → w.name ≠ rule.name) ∧
      (∃ events, later.card.events = call.card.events ++ events ∧
        ∀ e ∈ events, e.lane.interface = .hifi) ∧
      later.loop = call.loop ∧ later.modem = call.modem := by
  intro call later
  have howns : call.Owns :=
    (owns_play hopen (fun lane => congrArg Int.ofNat (hfree lane)) hbefore).step (.setMode 2)
  obtain ⟨hcall, hsuits⟩ := suits_entered hopen before hmode
  have hcall' : call.routing.mode = .inCall := hcall
  have hsuits' : call.codec.Suits call.routing.mode call.routing.devices := by
    rw [hcall']
    exact hsuits
  obtain ⟨hjournal, hrecorded, hsame⟩ := play_streamsOnly howns hsuits' hstreams hdevices
  rw [hcall'] at hjournal
  exact ⟨hjournal, hrecorded, hsame.loop, hsame.modem⟩

/-- A call that was entered while music played; a stream that then fails to open, plays, records,
fails to read and is dropped writes controls, but leaves the microphone and the modem alone. -/
theorem streams_spare_call_through_failures :
    let before : List (Event SoftCard ModemRecorder) := [
      .operation (.openOutput .speaker),
      .operation (.write 0 [0, 0, 0, 0])]
    let after : List (Event SoftCard ModemRecorder) := [
      .card fun card => card.refuseLane .hifiPlayback,
      .operation (.write 0 [0, 0, 0, 0]),
      .card fun card => card.allowLane .hifiPlayback,
      .operation (.write 0 [0, 0, 0, 0]),
      .operation (.openInput .builtinMic ⟨44100, 1⟩),
      .operation (.read 0 4),
      .card fun card => card.refuseTransfers true,
      .operation (.read 0 4),
      .operation (.dropOutput 0)]
    let call := ((inSoftware.play before).step (.setMode 2)).2
    let later := call.play after
    (∃ writes, later.mixer.journal = call.mixer.journal ++ writes ∧
        ∀ w ∈ writes, w.name ≠ mainMicSwitch.name) ∧
      later.modem = call.modem ∧ call.mixer.journal.length < later.mixer.journal.length := by
  intro before after
  have hbefore : ∀ e ∈ before, e.SparesCard := by
    intro e he
    simp only [before, List.mem_cons, List.not_mem_nil, or_false] at he
    rcases he with rfl | rfl <;> trivial
  have hmode : (inSoftware.play before).routing.mode ≠ .inCall := by decide +kernel
  have hstreams : ∀ e ∈ after, e.OnStreams := by
    intro e he
    simp only [after, List.mem_cons, List.not_mem_nil, or_false] at he
    rcases he with rfl | rfl | rfl | rfl | rfl | rfl | rfl | rfl | rfl
    all_goals first | rfl | exact fun c => ⟨SoftCard.keeps_of_substreams rfl, rfl⟩
  have hdevices : ∀ n,
      (((inSoftware.play before).step (.setMode 2)).2.play (after.take n)).routing.devices =
        ((inSoftware.play before).step (.setMode 2)).2.routing.devices := by
    intro n
    rw [List.take_eq_take_min]
    have hupto : ∀ n ≤ 9,
        (((inSoftware.play before).step (.setMode 2)).2.play (after.take n)).routing.devices =
          ((inSoftware.play before).step (.setMode 2)).2.routing.devices := by decide +kernel
    exact hupto _ (Nat.min_le_right n 9)
  obtain ⟨⟨writes, hjournal, hspared⟩, -, -, hmodem⟩ :=
    streams_spare_call acquire_inSoftware (fun _ => rfl) hbefore hmode hstreams hdevices
  refine ⟨⟨writes, hjournal, fun w hw => ?_⟩, hmodem, ?_⟩
  · exact hspared w hw mainMicSwitch (List.mem_append_right _ mainMicSwitch_mem) rfl
  · decide +kernel

end Device

end HandsetAudio
