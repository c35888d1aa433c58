import HandsetAudio.Proofs.Device.Lines

/-!
# What the operations on streams do

Every operation on a stream changes the streams of one direction, makes some passes over
their path, and leaves alone what else decides which controls are wanted. `Effect` says
so with the streams afterwards and the flags of the passes; this file has one such lemma
for each operation. What the card does is left open: whether a transfer succeeds is all
that matters of it.
-/

namespace HandsetAudio

namespace Device

variable {σ μ : Type}

/-- The streams of a direction. -/
def line (d : Device σ μ) : Path → Line
  | .output =>
    { streams := d.outputs.map fun s => ⟨s.held, s.substream.isSome⟩, last := d.lastOutput }
  | .input => { streams := d.inputs.map fun s => ⟨s.held, s.running.isSome⟩, last := d.lastInput }

/-- The mixer and the reconcilers. -/
def codec (d : Device σ μ) : Codec := ⟨d.mixer, d.outputPath, d.inputPath⟩

/-! ## The streams as their path sees them -/

theorem held_output (d : Device σ μ) (i : StreamId) :
    (d.line .output).held i = (d.outputs[i]?).any (·.held) := by
  simp only [line, Line.held, List.getElem?_map]
  cases d.outputs[i]? <;> rfl

theorem held_input (d : Device σ μ) (i : StreamId) :
    (d.line .input).held i = (d.inputs[i]?).any (·.held) := by
  simp only [line, Line.held, List.getElem?_map]
  cases d.inputs[i]? <;> rfl

theorem running_output (d : Device σ μ) (i : StreamId) :
    (d.line .output).running i = (d.outputSubstream? i).isSome := by
  simp only [line, Line.running, outputSubstream?, List.getElem?_map]
  cases d.outputs[i]? <;> rfl

theorem running_input (d : Device σ μ) (i : StreamId) :
    (d.line .input).running i = (d.capture? i).isSome := by
  simp only [line, Line.running, capture?, List.getElem?_map]
  cases d.inputs[i]? <;> rfl

theorem active_output (d : Device σ μ) : (d.line .output).active? = d.activeOutput? := by
  unfold Line.active? activeOutput?
  rw [show (d.line .output).held = _ from funext d.held_output]
  rfl

theorem active_input (d : Device σ μ) : (d.line .input).active? = d.activeInput? := by
  unfold Line.active? activeInput?
  rw [show (d.line .input).held = _ from funext d.held_input]
  rfl

theorem isSome_heldOutput? (d : Device σ μ) (i : StreamId) :
    (d.heldOutput? i).isSome = (d.line .output).held i := by
  rw [held_output, heldOutput?, Option.isSome_filter]

theorem isSome_heldInput? (d : Device σ μ) (i : StreamId) :
    (d.heldInput? i).isSome = (d.line .input).held i := by
  rw [held_input, heldInput?, Option.isSome_filter]

/-- A playback stream that a client has is there, in standby unless it runs. -/
theorem exists_heldOutput {d : Device σ μ} {i : StreamId} (h : (d.line .output).held i = true) :
    ∃ s, d.heldOutput? i = some s ∧ s.standby = !(d.line .output).running i := by
  rw [← isSome_heldOutput?] at h
  obtain ⟨s, hs⟩ := Option.isSome_iff_exists.1 h
  have hstream : d.outputs[i]? = some s := (Option.filter_eq_some_iff.1 hs).1
  refine ⟨s, hs, ?_⟩
  rw [running_output, outputSubstream?, hstream, Option.bind_some, Option.not_isSome]
  rfl

/-- A capture stream that a client has is there, in standby unless it runs. -/
theorem exists_heldInput {d : Device σ μ} {i : StreamId} (h : (d.line .input).held i = true) :
    ∃ s, d.heldInput? i = some s ∧ s.standby = !(d.line .input).running i := by
  rw [← isSome_heldInput?] at h
  obtain ⟨s, hs⟩ := Option.isSome_iff_exists.1 h
  have hstream : d.inputs[i]? = some s := (Option.filter_eq_some_iff.1 hs).1
  refine ⟨s, hs, ?_⟩
  rw [running_input, capture?, hstream, Option.bind_some, Option.not_isSome, s.standby_eq]

/-- The standby flag of the active stream. -/
theorem outputStandby?_eq (d : Device σ μ) :
    d.outputStandby? = (d.line .output).active?.map fun i => !(d.line .output).running i := by
  unfold outputStandby?
  rw [active_output]
  cases hactive : d.activeOutput? with
  | none => rfl
  | some i =>
    have hheld : ((d.outputs[i]?).any (·.held)) = true := (Option.filter_eq_some_iff.1 hactive).2
    simp only [Option.bind_some, Option.map_some, running_output, outputSubstream?]
    cases hs : d.outputs[i]? with
    | none => rw [hs] at hheld; cases hheld
    | some s => cases hsub : s.substream <;> simp [OutputStream.standby, hsub]

theorem inputStandby?_eq (d : Device σ μ) :
    d.inputStandby? = (d.line .input).active?.map fun i => !(d.line .input).running i := by
  unfold inputStandby?
  rw [active_input]
  cases hactive : d.activeInput? with
  | none => rfl
  | some i =>
    have hheld : ((d.inputs[i]?).any (·.held)) = true := (Option.filter_eq_some_iff.1 hactive).2
    simp only [Option.bind_some, Option.map_some, running_input, capture?]
    cases hs : d.inputs[i]? with
    | none => rw [hs] at hheld; cases hheld
    | some s => cases hrun : s.running <;> simp [InputStream.standby_eq, hrun]

/-- A path is in use while its active stream runs. -/
theorem outputOn_eq (d : Device σ μ) : d.outputOn = (d.line .output).on := by
  rw [outputOn, outputStandby?_eq, Line.on]
  cases (d.line .output).active? with
  | none => rfl
  | some i => cases hr : (d.line .output).running i <;> simp [hr]

theorem inputOn_eq (d : Device σ μ) : d.inputOn = (d.line .input).on := by
  rw [inputOn, inputStandby?_eq, Line.on]
  cases (d.line .input).active? with
  | none => rfl
  | some i => cases hr : (d.line .input).running i <;> simp [hr]

/-! ## Effects -/

/-- `d'` is `d` after some passes over one path, with the streams of that path as `l`; the
other streams and the routing facts are the same. -/
structure Effect (d : Device σ μ) (p : Path) (l : Line) (ons : List Bool) (d' : Device σ μ) :
    Prop where
  line : d'.line p = l
  other : ∀ q, q ≠ p → d'.line q = d.line q
  routing : d'.routing = d.routing
  codec : d'.codec = d.codec.run (ons.map fun on => (p, .converge (d.facts on)))

namespace Effect

variable {d d' d'' : Device σ μ} {p : Path} {l l' : Line} {ons ons' : List Bool}

theorem refl (h : d.line p = l) : d.Effect p l [] d := ⟨h, fun _ _ => rfl, rfl, rfl⟩

/-- A stream that is already in the state that it is put in needs nothing done. -/
theorem mark_running (h : d.line p = l) (i : StreamId) :
    d.Effect p (l.mark i (l.running i)) [] d := by
  rw [Line.mark_self]
  exact refl h

/-- Effects in a row: the passes of the first, then those of the second. -/
theorem trans (h : d.Effect p l ons d') (h' : d'.Effect p l' ons' d'') :
    d.Effect p l' (ons ++ ons') d'' where
  line := h'.line
  other q hq := (h'.other q hq).trans (h.other q hq)
  routing := h'.routing.trans h.routing
  codec := by
    -- the second passes see the facts of the start
    have hfacts : ∀ on, d'.facts on = d.facts on := by
      intro on
      unfold facts
      rw [h.routing]
    rw [h'.codec, h.codec, List.map_append, Codec.run_append]
    simp only [hfacts]

theorem reaches (h : d.Effect p l ons d') : d.codec.Reaches d'.codec := ⟨_, h.codec⟩

end Effect

/-! ## Single changes -/

section

variable {d : Device σ μ} {p : Path} {l : Line}

/-- A pass of a device is a call of its codec. -/
theorem codec_converge (d : Device σ μ) (p : Path) (on : Bool) :
    (d.converge p on).codec = d.codec.serve (p, .converge (d.facts on)) := by
  cases p <;> rfl

/-- A pass changes no stream. -/
theorem effect_converge (h : d.line p = l) (on : Bool) : d.Effect p l [on] (d.converge p on) where
  line := by cases p <;> exact h
  other q _ := by cases p <;> cases q <;> rfl
  routing := by cases p <;> rfl
  codec := d.codec_converge p on

theorem effect_note (h : d.line p = l) (text : String) : d.Effect p l [] (d.note text) where
  line := by cases p <;> exact h
  other q _ := by cases q <;> rfl
  routing := rfl
  codec := rfl

theorem effect_card (h : d.line p = l) (card : σ) : d.Effect p l [] { d with card } where
  line := by cases p <;> exact h
  other q _ := by cases q <;> rfl
  routing := rfl
  codec := rfl

/-- An effect on playback has the capture streams as all the others. -/
theorem other_of_output {d d' : Device σ μ} (h : d'.line .input = d.line .input) :
    ∀ q, q ≠ .output → d'.line q = d.line q
  | .output, hq => absurd rfl hq
  | .input, _ => h

theorem other_of_input {d d' : Device σ μ} (h : d'.line .output = d.line .output) :
    ∀ q, q ≠ .input → d'.line q = d.line q
  | .output, _ => h
  | .input, hq => absurd rfl hq

/-- Changing a stream changes what its path sees of it. -/
theorem map_modify {α β : Type} (l : List α) (i : Nat) (view : α → β) {f : α → α} {g : β → β}
    (h : ∀ a, view (f a) = g (view a)) : (l.modify i f).map view = (l.map view).modify i g := by
  refine List.ext_getElem? fun j => ?_
  rw [List.getElem?_map, List.getElem?_modify, List.getElem?_modify, List.getElem?_map]
  by_cases hij : i = j <;> cases l[j]? <;> simp [hij, h]

/-- A stream is marked by whether it has a substream. -/
theorem effect_setOutput (h : d.line .output = l) (i : StreamId) (substream : Option SubstreamId) :
    d.Effect .output (l.mark i substream.isSome) [] (d.setOutput i substream) where
  line := by
    subst h
    unfold line Line.mark setOutput
    simp only
    rw [map_modify d.outputs i (fun s => StreamFlags.mk s.held s.substream.isSome)
      (g := fun s => { s with running := substream.isSome }) fun _ => rfl]
  other := other_of_output rfl
  routing := rfl
  codec := rfl

theorem effect_setInput (h : d.line .input = l) (i : StreamId) (running : Option Capture) :
    d.Effect .input (l.mark i running.isSome) [] (d.setInput i running) where
  line := by
    subst h
    unfold line Line.mark setInput
    simp only
    rw [map_modify d.inputs i (fun s => StreamFlags.mk s.held s.running.isSome)
      (g := fun s => { s with running := running.isSome }) fun s => by simp]
  other := other_of_input rfl
  routing := rfl
  codec := rfl

theorem effect_forgetOutput (h : d.line .output = l) (i : StreamId) :
    d.Effect .output (l.forget i) [] (d.forgetOutput i) := by
  subst h
  unfold forgetOutput Line.forget
  have hsame : (d.line .output).last = d.lastOutput := rfl
  rw [hsame]
  by_cases hlast : d.lastOutput = some i
  · rw [if_pos hlast, if_pos hlast]
    exact ⟨rfl, other_of_output rfl, rfl, rfl⟩
  · rw [if_neg hlast, if_neg hlast]
    exact Effect.refl rfl

theorem effect_forgetInput (h : d.line .input = l) (i : StreamId) :
    d.Effect .input (l.forget i) [] (d.forgetInput i) := by
  subst h
  unfold forgetInput Line.forget
  have hsame : (d.line .input).last = d.lastInput := rfl
  rw [hsame]
  by_cases hlast : d.lastInput = some i
  · rw [if_pos hlast, if_pos hlast]
    exact ⟨rfl, other_of_input rfl, rfl, rfl⟩
  · rw [if_neg hlast, if_neg hlast]
    exact Effect.refl rfl

end

/-! ## Opening and dropping -/

/-- A playback stream is opened where none is active. -/
theorem effect_openOutput (d : Device σ μ) :
    d.openOutput.2 = d ∨
      ((d.line .output).active? = none ∧
        d.Effect .output (d.line .output).push [] d.openOutput.2) := by
  rw [active_output]
  unfold openOutput
  cases hactive : d.activeOutput? with
  | some i => exact .inl rfl
  | none =>
    refine .inr ⟨rfl, ?_, other_of_output rfl, rfl, rfl⟩
    simp [line, Line.push]

/-- A capture stream is opened where none is active, in a format that capture can deliver. -/
theorem effect_openInput (d : Device σ μ) (format : StreamFormat) :
    (d.openInput format).2 = d ∨
      ((d.line .input).active? = none ∧
        d.Effect .input (d.line .input).push [] (d.openInput format).2) := by
  rw [active_input]
  unfold openInput
  cases format.checkCapture with
  | error e => exact .inl rfl
  | ok _ =>
    cases hactive : d.activeInput? with
    | some i => exact .inl rfl
    | none =>
      refine .inr ⟨rfl, ?_, other_of_input rfl, rfl, rfl⟩
      simp [line, Line.push, InputStream.running]

section

variable [PcmDriver σ] {d : Device σ μ} {l : Line} {i : StreamId}

/-- A stream that is dropped is released without a pass. -/
theorem effect_dropOutput (h : d.line .output = l) (i : StreamId) :
    d.Effect .output (l.release i) [] (d.dropOutput i) where
  line := by
    subst h
    unfold line Line.release dropOutput
    simp only
    rw [map_modify d.outputs i (fun s => StreamFlags.mk s.held s.substream.isSome)
      (g := fun _ => ⟨false, false⟩) fun _ => rfl]
  other := other_of_output rfl
  routing := rfl
  codec := rfl

/-- So is a capture stream. -/
theorem effect_dropInput (h : d.line .input = l) (i : StreamId) :
    d.Effect .input (l.release i) [] (d.dropInput i) where
  line := by
    subst h
    unfold line Line.release dropInput
    simp only
    rw [map_modify d.inputs i (fun s => StreamFlags.mk s.held s.running.isSome)
      (g := fun _ => ⟨false, false⟩) fun _ => rfl]
  other := other_of_input rfl
  routing := rfl
  codec := rfl

/-! ## Standby -/

/-- Standby is one pass with the path off, if the stream was on. -/
theorem effect_standbyOutput (h : d.line .output = l) (i : StreamId) :
    d.Effect .output (l.mark i false) (if l.running i then [false] else [])
      (d.standbyOutput i) := by
  have hrunning := d.running_output i
  rw [h] at hrunning
  unfold standbyOutput
  cases hsub : d.outputSubstream? i with
  | none =>
    have hsame := Effect.mark_running h i
    rw [hsub, Option.isSome_none] at hrunning
    rw [hrunning] at hsame ⊢
    exact hsame
  | some id =>
    rw [hsub, Option.isSome_some] at hrunning
    rw [hrunning]
    have hcard := effect_card h (PcmDriver.close id d.card)
    have hset := hcard.trans (effect_setOutput hcard.line i none)
    exact hset.trans (effect_converge hset.line false)

/-- So it is on the capture path. -/
theorem effect_standbyInput (h : d.line .input = l) (i : StreamId) :
    d.Effect .input (l.mark i false) (if l.running i then [false] else []) (d.standbyInput i) := by
  have hrunning := d.running_input i
  rw [h] at hrunning
  unfold standbyInput
  cases hsub : d.capture? i with
  | none =>
    have hsame := Effect.mark_running h i
    rw [hsub, Option.isSome_none] at hrunning
    rw [hrunning] at hsame ⊢
    exact hsame
  | some c =>
    rw [hsub, Option.isSome_some] at hrunning
    rw [hrunning]
    have hcard := effect_card h (PcmDriver.close c.substream d.card)
    have hset := hcard.trans (effect_setInput hcard.line i none)
    exact hset.trans (effect_converge hset.line false)

/-- A stream that is closed goes into standby first. -/
theorem effect_closeOutput (h : d.line .output = l) (i : StreamId) :
    d.Effect .output ((l.mark i false).forget i) (if l.running i then [false] else [])
      (d.closeOutput i) := by
  have hrest := effect_standbyOutput h i
  have hclose := hrest.trans (effect_forgetOutput hrest.line i)
  rwa [List.append_nil] at hclose

theorem effect_closeInput (h : d.line .input = l) (i : StreamId) :
    d.Effect .input ((l.mark i false).forget i) (if l.running i then [false] else [])
      (d.closeInput i) := by
  have hrest := effect_standbyInput h i
  have hclose := hrest.trans (effect_forgetInput hrest.line i)
  rwa [List.append_nil] at hclose

/-! ## Transfers -/

theorem isOk_ok {ε α : Type} (a : α) : (Except.ok a : Except ε α).isOk = true := rfl

theorem isOk_error {ε α : Type} (e : ε) : (Except.error e : Except ε α).isOk = false := rfl

/-- A stream that cannot be started stays in standby, and its path goes off again. -/
theorem effect_startOutput (h : d.line .output = l) (i : StreamId) (hidle : l.running i = false) :
    d.Effect .output (l.mark i (d.startOutput i).1.isOk)
      (Line.transferPasses false (d.startOutput i).1.isOk) (d.startOutput i).2 := by
  have hsame := Line.mark_self l i
  rw [hidle] at hsame
  have hon := effect_converge h true
  unfold startOutput
  simp only
  rcases PcmDriver.acquire (d.converge .output true).config.card .hifiPlayback playbackFlags .hifi
    (d.converge .output true).card with ⟨e | id, card⟩
  · rw [isOk_error, hsame]
    have hcard := hon.trans (effect_card hon.line card)
    have hoff := hcard.trans (effect_converge hcard.line false)
    exact hoff.trans (effect_note hoff.line _)
  · have hcard := hon.trans (effect_card hon.line card)
    exact hcard.trans (effect_setOutput hcard.line i (some id))

/-- A start is a pass with the path on; one that fails ends in a pass with it off. -/
theorem effect_startInput (h : d.line .input = l) (i : StreamId) (s : InputStream)
    (hidle : l.running i = false) :
    d.Effect .input (l.mark i (d.startInput i s).1.isOk)
      (Line.transferPasses false (d.startInput i s).1.isOk) (d.startInput i s).2 := by
  have hsame := Line.mark_self l i
  rw [hidle] at hsame
  have hon := effect_converge h true
  unfold startInput
  simp only
  rcases PcmDriver.acquire (d.converge .input true).config.card .hifiCapture .none s.config
    (d.converge .input true).card with ⟨e | id, card⟩
  · rw [isOk_error, hsame]
    have hcard := hon.trans (effect_card hon.line card)
    have hoff := hcard.trans (effect_converge hcard.line false)
    exact hoff.trans (effect_note hoff.line _)
  · have hcard := hon.trans (effect_card hon.line card)
    exact hcard.trans (effect_setInput hcard.line i (some _))

/-- Leaving standby, unless the stream runs already. -/
theorem effect_ensureOutput (h : d.line .output = l) (i : StreamId) :
    d.Effect .output (l.mark i (d.ensureOutput i).1.isOk)
      (Line.transferPasses (l.running i) (d.ensureOutput i).1.isOk) (d.ensureOutput i).2 := by
  have hrunning := d.running_output i
  rw [h] at hrunning
  unfold ensureOutput
  cases hsub : d.outputSubstream? i with
  | some id =>
    have hsame := Effect.mark_running h i
    rw [hsub, Option.isSome_some] at hrunning
    rw [hrunning] at hsame ⊢
    exact hsame
  | none =>
    rw [hsub, Option.isSome_none] at hrunning
    rw [hrunning]
    exact effect_startOutput h i hrunning

/-- A stream that is on already is not started again. -/
theorem effect_ensureInput (h : d.line .input = l) (i : StreamId) (s : InputStream) :
    d.Effect .input (l.mark i (d.ensureInput i s).1.isOk)
      (Line.transferPasses (l.running i) (d.ensureInput i s).1.isOk) (d.ensureInput i s).2 := by
  have hrunning := d.running_input i
  rw [h] at hrunning
  unfold ensureInput
  cases hsub : d.capture? i with
  | some c =>
    have hsame := Effect.mark_running h i
    rw [hsub, Option.isSome_some] at hrunning
    rw [hrunning] at hsame ⊢
    exact hsame
  | none =>
    rw [hsub, Option.isSome_none] at hrunning
    rw [hrunning]
    exact effect_startInput h i s hrunning

/-- A stream that a client has runs after a write iff the write succeeded. -/
theorem effect_writeOutput (h : d.line .output = l) {i : StreamId} (hheld : l.held i = true)
    (bytes : List UInt8) :
    d.Effect .output (l.mark i (d.writeOutput i bytes).1.isOk)
      (Line.transferPasses (l.running i) (d.writeOutput i bytes).1.isOk)
      (d.writeOutput i bytes).2 := by
  have hsome := d.isSome_heldOutput? i
  rw [h, hheld] at hsome
  obtain ⟨s, hs⟩ := Option.isSome_iff_exists.1 hsome
  have hensure := effect_ensureOutput h i
  unfold writeOutput
  rw [hs]
  simp only
  rcases hresult : d.ensureOutput i with ⟨e | id, d'⟩
  · rw [hresult] at hensure
    exact hensure
  · rw [hresult] at hensure
    simp only
    rcases PcmDriver.write id bytes (pace id (PcmDriver.patience id d'.card + 1) d'.card)
      with ⟨e | u, card⟩
    · -- the stream started, or ran before, and goes back to standby
      have hcard := hensure.trans (effect_card hensure.line card)
      have hrest := hcard.trans (effect_standbyOutput hcard.line i)
      rwa [isOk_ok, Line.running_mark_self hheld, Line.mark_mark, List.append_nil, if_pos rfl,
        Line.transferPasses_true_concat] at hrest
    · have hcard := hensure.trans (effect_card hensure.line card)
      rwa [List.append_nil] at hcard

/-- A stream that a client has runs after a read iff the read succeeded. -/
theorem effect_readInput (h : d.line .input = l) {i : StreamId} (hheld : l.held i = true)
    (length : Nat) :
    d.Effect .input (l.mark i (d.readInput i length).1.isOk)
      (Line.transferPasses (l.running i) (d.readInput i length).1.isOk)
      (d.readInput i length).2 := by
  have hsome := d.isSome_heldInput? i
  rw [h, hheld] at hsome
  obtain ⟨s, hs⟩ := Option.isSome_iff_exists.1 hsome
  have hensure := effect_ensureInput h i s
  unfold readInput
  rw [hs]
  simp only
  rcases hresult : d.ensureInput i s with ⟨e | c, d'⟩
  · rw [hresult] at hensure
    exact hensure
  · rw [hresult] at hensure
    simp only
    rcases readCapture s.config c length d'.card with ⟨answer, c', card⟩
    have hcard := hensure.trans (effect_card hensure.line card)
    have hset := hcard.trans (effect_setInput hcard.line i (some c'))
    rw [isOk_ok, Option.isSome_some, Line.mark_mark, List.append_nil, List.append_nil] at hset
    cases answer with
    | ok bytes => exact hset
    | error e =>
      -- the stream started, or ran before, and goes back to standby
      have hrest := hset.trans (effect_standbyInput hset.line i)
      rwa [Line.running_mark_self hheld, Line.mark_mark, if_pos rfl,
        Line.transferPasses_true_concat] at hrest

/-- A transfer on a stream that no client has does nothing. -/
theorem writeOutput_of_not_held (h : (d.line .output).held i = false) (bytes : List UInt8) :
    d.writeOutput i bytes = (.error (.invalidArgument .noStream), d) := by
  have hnone := d.isSome_heldOutput? i
  rw [h, Option.isSome_eq_false_iff, Option.isNone_iff_eq_none] at hnone
  simp only [writeOutput, hnone]

theorem readInput_of_not_held (h : (d.line .input).held i = false) (length : Nat) :
    d.readInput i length = (.error (.invalidArgument .noStream), d) := by
  have hnone := d.isSome_heldInput? i
  rw [h, Option.isSome_eq_false_iff, Option.isNone_iff_eq_none] at hnone
  simp only [readInput, hnone]

end

end Device

end HandsetAudio
