import HandsetAudio.Proofs.Device.Containment
import HandsetAudio.Proofs.Device.Halves
import HandsetAudio.Proofs.Mixer.Independence

/-!
# Playback and capture at the same time

Transfers and standby of playback streams and of capture streams share the lock of the device, its
card and its mixer. Work on one path keeps to it (`KeepsTo`): the other half of the device and what
the other path shows on the codec stay as they were. Main statement:

> `transfers_commute`: in every state that a device can get to, a transfer or standby of a playback
> stream and one of a capture stream give the same answers in either order, and leave the same
> behind (`SameButOrder`): streams, substreams and rings, reconcilers and slots, and of both records
> the same for each direction.
-/

namespace HandsetAudio

/-- The direction of a path. -/
def Path.direction : Path → Direction
  | .output => .playback
  | .input => .capture

/-- Peripheries that show the same of one path of the codec. -/
structure Periphery.AlikeOn {μ μ' : Type} (p : Path) (s : Periphery μ) (s' : Periphery μ') : Prop
    extends Passable s s' where
  apart : s.codec.Apart
  apart' : s'.codec.Apart
  path : (s.codec.rig p).Alike (s'.codec.rig p)

/-- What one path shows does not depend on what happens on the other. -/
theorem Periphery.kept_alikeOn {μ μ' : Type} [ModemLink μ] [ModemLink μ'] (p : Path) :
    Kept Eq (fun _ _ => True) (AlikeOn p : Periphery μ → Periphery μ' → Prop) where
  volumeSteps h := h.volumeSteps
  converge {s s'} h q facts := by
    refine ⟨kept_passable.converge h.toPassable q facts, h.apart.serve _, h.apart'.serve _, ?_⟩
    simp only [converge]
    by_cases hq : p = q
    · subst hq
      rw [Codec.rig_serve_self, Codec.rig_serve_self]
      exact h.path.serve _
    · have hpassed := h.apart.serve_of_ne hq (.converge facts)
      have hpassed' := h.apart'.serve_of_ne hq (.converge facts)
      exact (hpassed.symm.trans h.path).trans hpassed'
  send h r := ⟨kept_passable.send h.toPassable r, h.apart, h.apart', h.path⟩
  note h line := ⟨kept_passable.note h.toPassable line, h.apart, h.apart', h.path⟩
  mute h _ _ hon := ⟨kept_passable.mute h.toPassable hon, h.apart, h.apart', h.path⟩
  relink h _ _ hchange := ⟨kept_passable.relink h.toPassable hchange, h.apart, h.apart', h.path⟩

/-- A transfer or standby of a playback stream. -/
def Operation.isPlayback : Operation → Bool
  | .write .. | .standbyOutput _ => true
  | _ => false

/-- A transfer or standby of a capture stream. -/
def Operation.isCapture : Operation → Bool
  | .read .. | .standbyInput _ => true
  | _ => false

namespace Device

open SoftCard (Extends Lies)

variable {μ : Type}

/-- Work on one path: the other half of the device is as it was, and so is what neither path
has to itself. -/
structure KeepsTo (p : Path) (d d' : Device SoftCard μ) : Prop where
  sameCall : d.SameCall d'
  lastOutput : d'.lastOutput = d.lastOutput
  lastInput : d'.lastInput = d.lastInput
  outputs : p = .input → d'.outputs = d.outputs
  inputs : p = .output → d'.inputs = d.inputs
  moves : d.card.Extends d'.card
  card : ∀ dir, dir ≠ p.direction → d'.card.only dir = d.card.only dir
  codec : ∃ calls, (∀ call ∈ calls, call.1 = p) ∧ d'.codec = d.codec.run calls

section

variable {p : Path} {d d' d'' : Device SoftCard μ}

theorem KeepsTo.refl (p : Path) (d : Device SoftCard μ) : KeepsTo p d d where
  sameCall := .refl d
  lastOutput := rfl
  lastInput := rfl
  outputs _ := rfl
  inputs _ := rfl
  moves := .refl d.card
  card _ _ := rfl
  codec := ⟨[], fun _ hcall => absurd hcall List.not_mem_nil, rfl⟩

theorem KeepsTo.trans (h : KeepsTo p d d') (h' : KeepsTo p d' d'') : KeepsTo p d d'' where
  sameCall := h.sameCall.trans h'.sameCall
  lastOutput := h'.lastOutput.trans h.lastOutput
  lastInput := h'.lastInput.trans h.lastInput
  outputs hp := (h'.outputs hp).trans (h.outputs hp)
  inputs hp := (h'.inputs hp).trans (h.inputs hp)
  moves := h.moves.trans h'.moves
  card dir hdir := (h'.card dir hdir).trans (h.card dir hdir)
  codec := by
    obtain ⟨calls, hcalls, hcodec⟩ := h.codec
    obtain ⟨calls', hcalls', hcodec'⟩ := h'.codec
    refine ⟨calls ++ calls', fun call hcall => ?_, ?_⟩
    · rcases List.mem_append.1 hcall with hcall | hcall
      · exact hcalls call hcall
      · exact hcalls' call hcall
    · rw [hcodec', hcodec, Codec.run_append]

theorem KeepsTo.gate (b : Bool) (h : KeepsTo p d d') : KeepsTo p d (if b then d' else d) := by
  cases b with
  | true => exact h
  | false => exact .refl p d

theorem keepsTo_converge (p : Path) (d : Device SoftCard μ) (on : Bool) :
    KeepsTo p d (d.converge p on) where
  sameCall := d.sameCall_converge p on
  lastOutput := by cases p <;> rfl
  lastInput := by cases p <;> rfl
  outputs _ := by cases p <;> rfl
  inputs _ := by cases p <;> rfl
  moves := by cases p <;> exact .refl d.card
  card _ _ := by cases p <;> rfl
  codec := ⟨[(p, .converge (d.facts on))], by simp, codec_converge d p on⟩

theorem keepsTo_note (p : Path) (d : Device SoftCard μ) (line : String) :
    KeepsTo p d (d.note line) :=
  { KeepsTo.refl p d with sameCall := ⟨rfl, rfl, rfl, rfl⟩ }

theorem keepsTo_setOutput (d : Device SoftCard μ) (i : StreamId)
    (substream : Option SubstreamId) : KeepsTo .output d (d.setOutput i substream) :=
  { KeepsTo.refl .output d with
    sameCall := ⟨rfl, rfl, rfl, rfl⟩
    outputs := fun hp => absurd hp (by decide) }

theorem keepsTo_setInput (d : Device SoftCard μ) (i : StreamId) (running : Option Capture) :
    KeepsTo .input d (d.setInput i running) :=
  { KeepsTo.refl .input d with
    sameCall := ⟨rfl, rfl, rfl, rfl⟩
    inputs := fun hp => absurd hp (by decide) }

/-- A change of the card that the other direction does not see. -/
theorem keepsTo_withCard {card : SoftCard} (hext : d.card.Extends card)
    (honly : ∀ dir, dir ≠ p.direction → card.only dir = d.card.only dir) :
    KeepsTo p d { d with card } :=
  { KeepsTo.refl p d with
    sameCall := ⟨rfl, rfl, rfl, rfl⟩
    moves := hext
    card := honly }

/-! ## Playback keeps to its path -/

theorem keepsTo_standbyOutput (h : d.Owns) (i : StreamId) :
    KeepsTo .output d (d.standbyOutput i) := by
  unfold standbyOutput
  split
  next => exact .refl .output d
  next id hsub =>
    have hclosed : KeepsTo .output d { d with card := PcmDriver.close id d.card } :=
      keepsTo_withCard (SoftCard.extends_close id d.card) fun dir hdir =>
        SoftCard.only_close_of_not (h.lies_output hsub) hdir
    exact (hclosed.trans (keepsTo_setOutput _ i none)).trans (keepsTo_converge .output _ false)

theorem keepsTo_ensureOutput (d : Device SoftCard μ) (i : StreamId) :
    KeepsTo .output d (d.ensureOutput i).2 := by
  unfold ensureOutput
  split
  next => exact .refl .output d
  next =>
    unfold startOutput
    have hpowered := keepsTo_converge .output d true
    generalize d.converge .output true = e at hpowered ⊢
    have hcard : KeepsTo .output e { e with card := _ } :=
      keepsTo_withCard
        (SoftCard.extends_acquire e.config.card .hifiPlayback playbackFlags .hifi e.card)
        fun dir hdir => SoftCard.only_acquire_of_not e.config.card
          (decide_eq_false (Ne.symm hdir)) playbackFlags .hifi e.card
    simp only
    rcases hresult : PcmDriver.acquire e.config.card .hifiPlayback playbackFlags .hifi e.card
      with ⟨reason | id, card⟩
    · rw [hresult] at hcard
      have hfailed := (hpowered.trans hcard).trans (keepsTo_converge .output _ false)
      exact hfailed.trans (keepsTo_note .output _ _)
    · rw [hresult] at hcard
      exact (hpowered.trans hcard).trans (keepsTo_setOutput _ i (some id))

theorem keepsTo_writeOutput (h : d.Owns) (i : StreamId) (bytes : List UInt8) :
    KeepsTo .output d (d.writeOutput i bytes).2 := by
  refine (writeOutput_induction (P := fun e => e.Owns ∧ KeepsTo .output d e) ⟨h, .refl .output d⟩
    (fun s hheld => ⟨(d.deals_ensureOutput (heldOutput?_eq_some hheld)).owns h,
      keepsTo_ensureOutput d i⟩)
    (fun s id d' hheld hresult hstarted => ?_) fun e hdone => ?_).2
  · obtain ⟨howns, hopen⟩ := h.ensureOutput (heldOutput?_eq_some hheld) hresult
    rw [pace_softCard]
    exact ⟨howns.withCard (LawfulLedger.write id bytes d'.card),
      hstarted.2.trans (keepsTo_withCard (SoftCard.extends_write id bytes d'.card)
        fun dir hdir => SoftCard.only_write_of_not (.of_isOpen hopen) hdir bytes)⟩
  · exact ⟨(e.deals_standbyOutput i).owns hdone.1,
      hdone.2.trans (keepsTo_standbyOutput hdone.1 i)⟩

/-! ## Capture keeps to its path -/

theorem keepsTo_standbyInput (h : d.Owns) (i : StreamId) :
    KeepsTo .input d (d.standbyInput i) := by
  unfold standbyInput
  split
  next => exact .refl .input d
  next c hsub =>
    have hclosed : KeepsTo .input d { d with card := PcmDriver.close c.substream d.card } :=
      keepsTo_withCard (SoftCard.extends_close c.substream d.card) fun dir hdir =>
        SoftCard.only_close_of_not (h.lies_input hsub) hdir
    exact (hclosed.trans (keepsTo_setInput _ i none)).trans (keepsTo_converge .input _ false)

theorem keepsTo_ensureInput (d : Device SoftCard μ) (i : StreamId) (s : InputStream) :
    KeepsTo .input d (d.ensureInput i s).2 := by
  unfold ensureInput
  split
  next => exact .refl .input d
  next =>
    unfold startInput
    have hpowered := keepsTo_converge .input d true
    generalize d.converge .input true = e at hpowered ⊢
    have hcard : KeepsTo .input e { e with card := _ } :=
      keepsTo_withCard
        (SoftCard.extends_acquire e.config.card .hifiCapture .none s.config e.card)
        fun dir hdir => SoftCard.only_acquire_of_not e.config.card
          (decide_eq_false (Ne.symm hdir)) .none s.config e.card
    simp only
    rcases hresult : PcmDriver.acquire e.config.card .hifiCapture .none s.config e.card
      with ⟨reason | id, card⟩
    · rw [hresult] at hcard
      have hfailed := (hpowered.trans hcard).trans (keepsTo_converge .input _ false)
      exact hfailed.trans (keepsTo_note .input _ _)
    · rw [hresult] at hcard
      exact (hpowered.trans hcard).trans (keepsTo_setInput _ i (some _))

theorem keepsTo_readInput (h : d.Owns) (i : StreamId) (length : Nat) :
    KeepsTo .input d (d.readInput i length).2 := by
  refine (readInput_induction (P := fun e => e.Owns ∧ KeepsTo .input d e) ⟨h, .refl .input d⟩
    (fun s hheld => ⟨(d.deals_ensureInput (heldInput?_eq_some hheld)).owns h,
      keepsTo_ensureInput d i s⟩)
    (fun s c d' hheld hresult hstarted => ?_)
    (fun s c d' bytes c' card hheld hresult htaken hread => ?_) fun e hdone => ?_).2
  · obtain ⟨howns, hopen⟩ := h.ensureInput (heldInput?_eq_some hheld) hresult
    exact ⟨howns.withCard (calm_readCapture s.config c length d'.card),
      hstarted.2.trans (keepsTo_withCard (extends_readCapture s.config c length d'.card)
        fun dir hdir => only_readCapture_of_not hdir (.of_isOpen hopen) s.config length)⟩
  · exact ⟨.take (d.capture?_ensureInput (heldInput?_eq_some hheld) hresult) htaken hread.1,
      hread.2.trans (keepsTo_setInput _ i (some c'))⟩
  · exact ⟨(e.deals_standbyInput i).owns hdone.1,
      hdone.2.trans (keepsTo_standbyInput hdone.1 i)⟩

/-! ## Operations -/

/-- A transfer or standby of a playback stream is work on the output path. -/
theorem keepsTo_playback [ModemLink μ] (h : d.Owns) {op : Operation} (hop : op.isPlayback = true) :
    KeepsTo .output d (d.step op).2 := by
  cases op with
  | write i bytes =>
    rw [step_write_snd]
    exact keepsTo_writeOutput h i bytes
  | standbyOutput i =>
    simp only [step, onOutput_snd]
    exact .gate _ (keepsTo_standbyOutput h i)
  | _ => cases hop

/-- A transfer or standby of a capture stream is work on the input path. -/
theorem keepsTo_capture [ModemLink μ] (h : d.Owns) {op : Operation} (hop : op.isCapture = true) :
    KeepsTo .input d (d.step op).2 := by
  cases op with
  | read i length =>
    rw [step_read_snd]
    exact keepsTo_readInput h i length
  | standbyInput i =>
    simp only [step, onInput_snd]
    exact .gate _ (keepsTo_standbyInput h i)
  | _ => cases hop

/-- A transfer or standby of a playback stream happens in the output half. -/
theorem step_outputHalf [ModemLink μ] (h : d.Owns) {op : Operation} (hop : op.isPlayback = true) :
    d.outputHalf.step op = ((d.step op).1, (d.step op).2.outputHalf) := by
  cases op with
  | write i bytes =>
    have hhalf := writeOutput_half h i bytes
    refine Prod.ext ?_ ?_
    · rw [step_write_fst, step_write_fst, hhalf]
    · rw [step_write_snd, step_write_snd, hhalf]
  | standbyOutput i =>
    simp only [step, onOutput, heldOutput?_outputHalf]
    cases d.heldOutput? i with
    | none => rfl
    | some s => exact congrArg (Except.ok Reply.done, ·) (standbyOutput_half h i)
  | _ => cases hop

/-- A transfer or standby of a capture stream happens in the input half. -/
theorem step_inputHalf [ModemLink μ] (h : d.Owns) {op : Operation} (hop : op.isCapture = true) :
    d.inputHalf.step op = ((d.step op).1, (d.step op).2.inputHalf) := by
  cases op with
  | read i length =>
    have hhalf := readInput_half h i length
    refine Prod.ext ?_ ?_
    · rw [step_read_fst, step_read_fst, hhalf]
    · rw [step_read_snd, step_read_snd, hhalf]
  | standbyInput i =>
    simp only [step, onInput, heldInput?_inputHalf]
    cases d.heldInput? i with
    | none => rfl
    | some s => exact congrArg (Except.ok Reply.done, ·) (standbyInput_half h i)
  | _ => cases hop

/-! ## The other half -/

theorem KeepsTo.reaches (h : KeepsTo p d d') : d.codec.Reaches d'.codec := by
  obtain ⟨calls, -, hcodec⟩ := h.codec
  exact ⟨calls, hcodec⟩

/-- Work on one path shows nothing on the other. -/
theorem KeepsTo.alikeOn (h : KeepsTo p d d') (hapart : d.codec.Apart) {q : Path} (hne : q ≠ p) :
    d.periphery.AlikeOn q d'.periphery := by
  obtain ⟨calls, hcalls, hcodec⟩ := h.codec
  have hother : Codec.callsOn q calls = [] := by
    unfold Codec.callsOn
    rw [List.filter_eq_nil_iff.2 fun call hcall => by simp [hcalls call hcall, hne.symm]]
    rfl
  have halone := hapart.alone q calls (.refl _)
  rw [hother, ← hcodec] at halone
  refine ⟨⟨?_, ?_⟩, hapart, ?_, halone⟩
  · exact congrArg ModemClient.volumeSteps h.sameCall.modem
  · exact congrArg Routing.micMute h.sameCall.routing
  · show d'.codec.Apart
    rw [hcodec]
    exact hapart.run calls

theorem KeepsTo.twins_inputHalf (h : KeepsTo .output d d') (howns : d.Owns)
    (hapart : d.codec.Apart) : Twins (Periphery.AlikeOn .input) d.inputHalf d'.inputHalf where
  config := h.sameCall.config
  routing := congrArg Routing.unmuted h.sameCall.routing
  card := h.card .capture (by decide)
  loop := h.sameCall.loop
  outputs := rfl
  inputs := by
    show d'.inputs.map _ = d.inputs.map _
    rw [h.inputs rfl]
    exact congrArg Device.inputs (inputHalf_withCard howns h.moves)
  lastOutput := h.lastOutput
  lastInput := h.lastInput
  periphery := h.alikeOn hapart (by decide)

theorem KeepsTo.twins_outputHalf (h : KeepsTo .input d d') (howns : d.Owns)
    (hapart : d.codec.Apart) : Twins (Periphery.AlikeOn .output) d.outputHalf d'.outputHalf where
  config := h.sameCall.config
  routing := congrArg Routing.unmuted h.sameCall.routing
  card := h.card .playback (by decide)
  loop := h.sameCall.loop
  outputs := by
    show d'.outputs.map _ = d.outputs.map _
    rw [h.outputs rfl]
    exact congrArg Device.outputs (outputHalf_withCard howns h.moves)
  inputs := rfl
  lastOutput := h.lastOutput
  lastInput := h.lastInput
  periphery := h.alikeOn hapart (by decide)

/-! ## Both together -/

/-- Two devices that differ at most in how the work of the two directions was interleaved: in the
numbers of the substreams, in the two records and in the report. -/
structure SameButOrder (d d' : Device SoftCard μ) : Prop where
  sameCall : d.SameCall d'
  lastOutput : d'.lastOutput = d.lastOutput
  lastInput : d'.lastInput = d.lastInput
  /-- The same playback streams are in standby, -/
  outputs : d'.outputs.map (fun s => (s.held, s.standby)) =
    d.outputs.map fun s => (s.held, s.standby)
  /-- and the others have the same substream, with the same ring. -/
  outputSubstreams : ∀ i, (d'.outputSubstream? i).bind (d'.card.substreams[·]?) =
    (d.outputSubstream? i).bind (d.card.substreams[·]?)
  /-- The same capture streams are in standby. All have the same converter and the same samples
  pending, -/
  inputs : d'.inputs.map (fun s => (s.held, s.format, s.standby, s.resampler, s.pending)) =
    d.inputs.map fun s => (s.held, s.format, s.standby, s.resampler, s.pending)
  /-- and those out of standby the same substream, with the same ring. -/
  inputSubstreams : ∀ i, (d'.capture? i).bind (d'.card.substreams[·.substream]?) =
    (d.capture? i).bind (d.card.substreams[·.substream]?)
  /-- In each direction the substreams, their rings and the record are the same. -/
  card : ∀ dir, d'.card.only dir = d.card.only dir
  rings : ∀ lane, d'.card.ring? lane = d.card.ring? lane
  reconcilers : ∀ p, d'.codec.reconciler p = d.codec.reconciler p
  /-- The slots of all controls hold the same. -/
  controls : d'.mixer.controls = d.mixer.controls
  /-- The controls of each path were written alike. -/
  journals : ∀ p : Path, (d'.mixer.journal.filter fun e => e.name ∈ p.table.map (·.name)) =
    d.mixer.journal.filter fun e => e.name ∈ p.table.map (·.name)

/-- The substream of a playback stream is found in the output half. -/
theorem Owns.substream_outputHalf (h : d.Owns) (i : StreamId) :
    (d.outputHalf.outputSubstream? i).bind (d.outputHalf.card.substreams[·]?) =
      (d.outputSubstream? i).bind (d.card.substreams[·]?) := by
  rw [outputSubstream?_outputHalf]
  cases hsub : d.outputSubstream? i with
  | none => rfl
  | some id =>
    obtain ⟨s, hs, hfaces⟩ := h.lies_output hsub
    exact (SoftCard.getElem?_only hs hfaces).trans hs.symm

/-- The substream of a capture stream is found in the input half. -/
theorem Owns.substream_inputHalf (h : d.Owns) (i : StreamId) :
    (d.inputHalf.capture? i).bind (d.inputHalf.card.substreams[·.substream]?) =
      (d.capture? i).bind (d.card.substreams[·.substream]?) := by
  rw [capture?_inputHalf]
  cases hsub : d.capture? i with
  | none => rfl
  | some c =>
    obtain ⟨s, hs, hfaces⟩ := h.lies_input hsub
    exact (SoftCard.getElem?_only hs hfaces).trans hs.symm

/-- Two twins of one device are twins. -/
theorem Twins.meet {R : Periphery μ → Periphery μ → Prop}
    (hR : ∀ {s s' s''}, R s s' → R s s'' → R s' s'') (h : Twins R d d') (h' : Twins R d d'') :
    Twins R d' d'' where
  config := h'.config.trans h.config.symm
  routing := h'.routing.trans h.routing.symm
  card := h'.card.trans h.card.symm
  loop := h'.loop.trans h.loop.symm
  outputs := h'.outputs.trans h.outputs.symm
  inputs := h'.inputs.trans h.inputs.symm
  lastOutput := h'.lastOutput.trans h.lastOutput.symm
  lastInput := h'.lastInput.trans h.lastInput.symm
  periphery := hR h.periphery h'.periphery

theorem alikeOn_meet {s s' s'' : Periphery μ} (h : s.AlikeOn p s') (h' : s.AlikeOn p s'') :
    s'.AlikeOn p s'' where
  volumeSteps := h'.volumeSteps.trans h.volumeSteps.symm
  micMute := h'.micMute.trans h.micMute.symm
  apart := h.apart'
  apart' := h'.apart'
  path := h.path.symm.trans h'.path

/-- Two devices that come from one by work on both paths and are the same in both halves. -/
theorem SameButOrder.of_halves {e : Device SoftCard μ} (hsame : e.SameCall d)
    (hsame' : e.SameCall d') (howns : d.Owns) (howns' : d'.Owns) (hfaithful : e.codec.Faithful)
    (hreaches : e.codec.Reaches d.codec) (hreaches' : e.codec.Reaches d'.codec)
    (houtput : Twins (Periphery.AlikeOn .output) d.outputHalf d'.outputHalf)
    (hinput : Twins (Periphery.AlikeOn .input) d.inputHalf d'.inputHalf) : SameButOrder d d' := by
  have halike : ∀ p, (d.codec.rig p).Alike (d'.codec.rig p) := fun p => by
    cases p with
    | output => exact houtput.periphery.path
    | input => exact hinput.periphery.path
  have hcard : ∀ dir, d'.card.only dir = d.card.only dir := fun dir => by
    cases dir with
    | playback => exact houtput.card
    | capture => exact hinput.card
  refine
    { sameCall := ⟨hsame'.config.trans hsame.config.symm, hsame'.routing.trans hsame.routing.symm,
        hsame'.modem.trans hsame.modem.symm, hsame'.loop.trans hsame.loop.symm⟩
      lastOutput := houtput.lastOutput
      lastInput := houtput.lastInput
      outputs := ?_
      outputSubstreams := fun i => ?_
      inputs := ?_
      inputSubstreams := fun i => ?_
      card := hcard
      rings := fun lane => ?_
      reconcilers := fun p => (halike p).reconciler
      controls := ?_
      journals := fun p => ?_ }
  · have hstreams := congrArg (List.map fun s : OutputStream => (s.held, s.standby)) houtput.outputs
    simpa [outputHalf, OutputStream.renumber, OutputStream.standby, Function.comp_def]
      using hstreams
  · rw [← howns.substream_outputHalf, ← howns'.substream_outputHalf, houtput.outputSubstream?,
      houtput.card]
  · have hstreams := congrArg (List.map fun s : InputStream =>
      (s.held, s.format, s.standby, s.resampler, s.pending)) hinput.inputs
    simpa [inputHalf, InputStream.renumber, InputStream.standby, Function.comp_def]
      using hstreams
  · rw [← howns.substream_inputHalf, ← howns'.substream_inputHalf, hinput.capture?, hinput.card]
  · rw [← SoftCard.ring?_only, ← SoftCard.ring?_only d.card, hcard]
  · obtain ⟨calls, hcalls⟩ := hreaches
    obtain ⟨calls', hcalls'⟩ := hreaches'
    rw [hcalls, hcalls'] at halike
    have hcontrols := hfaithful.apart.controls_eq halike
    rwa [← hcalls, ← hcalls'] at hcontrols
  · have hrules := (hfaithful.of_reaches hreaches).rules p
    have hrules' := (hfaithful.of_reaches hreaches').rules p
    have hjournal := (halike p).journal
    unfold Rig.ownJournal Rig.owns at hjournal
    rw [hrules, hrules'] at hjournal
    exact hjournal

end

section

variable [ModemLink μ] {d : Device SoftCard μ} (h : d.Owns) (hfaithful : d.codec.Faithful)
  {a b : Operation} (ha : a.isPlayback = true) (hb : b.isCapture = true)

include h hfaithful ha hb

/-- Work on the output path does not change what work on the input path does, and the other way
round. -/
theorem answers_commute :
    Agree (Periphery.AlikeOn .input) (d.inputHalf.step b) ((d.step a).2.inputHalf.step b) ∧
      Agree (Periphery.AlikeOn .output) (d.outputHalf.step a) ((d.step b).2.outputHalf.step a) := by
  have hA := keepsTo_playback h ha
  have hB := keepsTo_capture h hb
  have hapart := hfaithful.apart
  exact
    ⟨(hA.twins_inputHalf h hapart).step_same (Periphery.kept_alikeOn .input)
        (congrArg Routing.micMute hA.sameCall.routing) (.refl (fun _ => rfl) b),
      (hB.twins_outputHalf h hapart).step_same (Periphery.kept_alikeOn .output)
        (congrArg Routing.micMute hB.sameCall.routing) (.refl (fun _ => rfl) a)⟩

/-- **In either order** a transfer or standby of a playback stream and one of a capture stream give
the same answers, and leave the same behind. -/
theorem steps_commute :
    ((d.step a).2.step b).1 = (d.step b).1 ∧ ((d.step b).2.step a).1 = (d.step a).1 ∧
      SameButOrder ((d.step a).2.step b).2 ((d.step b).2.step a).2 := by
  have howns := h.step a
  have howns' := h.step b
  have hA := keepsTo_playback h ha
  have hB := keepsTo_capture h hb
  have hAB := keepsTo_capture howns hb
  have hBA := keepsTo_playback howns' ha
  obtain ⟨hinput, houtput⟩ := answers_commute h hfaithful ha hb
  rw [step_inputHalf h hb, step_inputHalf howns hb] at hinput
  rw [step_outputHalf h ha, step_outputHalf howns' ha] at houtput
  refine ⟨hinput.answer, houtput.answer, ?_⟩
  -- after both, each half is as if only the operation of its own path had been done
  have hafter := hAB.twins_outputHalf howns (hfaithful.of_reaches hA.reaches).apart
  have hafter' := hBA.twins_inputHalf howns' (hfaithful.of_reaches hB.reaches).apart
  exact .of_halves (hA.sameCall.trans hAB.sameCall) (hB.sameCall.trans hBA.sameCall)
    (howns.step b) (howns'.step a) hfaithful (hA.reaches.trans hAB.reaches)
    (hB.reaches.trans hBA.reaches) (hafter.meet alikeOn_meet houtput.twins)
    (hinput.twins.meet alikeOn_meet hafter')

end

/-- **Playback and capture do not mind each other**: in every state that a device gets to on a
software card that is its own, on whatever mixer and with whatever modem, a write or standby of a
playback stream and a read or standby of a capture stream can be done in either order, also where
opens or transfers are refused. -/
theorem transfers_commute [ModemLink μ] {config : Config} {mixer : Mixer} {card : SoftCard}
    {link : μ} {d₀ : Device SoftCard μ} (hopen : Device.acquire config mixer card link = .ok d₀)
    (hfree : ∀ lane, PcmLedger.openCount card lane = 0) {events : List (Event SoftCard μ)}
    (hspares : ∀ e ∈ events, e.SparesCard) {a b : Operation} (ha : a.isPlayback = true)
    (hb : b.isCapture = true) :
    let d := d₀.play events
    ((d.step a).2.step b).1 = (d.step b).1 ∧ ((d.step b).2.step a).1 = (d.step a).1 ∧
      SameButOrder ((d.step a).2.step b).2 ((d.step b).2.step a).2 :=
  steps_commute (owns_play hopen hfree hspares) (faithful_play hopen events) ha hb

/-- A first write and a first read: their substreams are opened in the one order or the other, and
have other numbers then. -/
theorem transfers_commute_from_standby :
    let events : List (Event SoftCard ModemRecorder) := [
      .operation (.openOutput .speaker), .operation (.openInput .builtinMic ⟨44100, 1⟩)]
    let d := inSoftware.play events
    let one := ((d.step (.write 0 [1, 0, 2, 0])).2.step (.read 0 4)).2
    let other := ((d.step (.read 0 4)).2.step (.write 0 [1, 0, 2, 0])).2
    SameButOrder one other ∧ one.outputSubstream? 0 = some 0 ∧
      other.outputSubstream? 0 = some 1 ∧ one.card.events ≠ other.card.events := by
  intro events d one other
  have hspares : ∀ e ∈ events, e.SparesCard := by
    intro e he
    simp only [events, List.mem_cons, List.not_mem_nil, or_false] at he
    rcases he with rfl | rfl <;> trivial
  obtain ⟨-, -, hsame⟩ := transfers_commute acquire_inSoftware (fun _ => rfl) hspares
    (a := .write 0 [1, 0, 2, 0]) (b := .read 0 4) rfl rfl
  refine ⟨hsame, ?_, ?_, ?_⟩ <;> decide +kernel

end Device

end HandsetAudio
