import HandsetAudio.Proofs.Device.Steps

/-!
# What any operation does to streams and codec

Clients may use streams that they closed and drop streams that run. What their operations
then do is less orderly than what `step_proceeds` says of the others, but it still is one of
five things (`Outcome`): nothing that a path hears of, a change of the streams of one direction
with passes over their path, a rerouting, a change of the mode, or the start or the end of a
call. Main statement:

> `step_outcome`: every operation is one of these, and the last flag that a path hears of it
> is `lastPass?`.

> `step_behaves`: so any operation changes who has a stream only by opening, closing and
> dropping, and the codec only by calls on its reconcilers.
-/

namespace HandsetAudio

namespace Device

variable {σ μ : Type}

/-- What an operation does to the streams of one direction, as far as it concerns who has
them, which was opened last, and that only a stream that a client has is started. -/
inductive LineStep (l : Line) (op : Operation) (p : Path) : Line → Prop where
  /-- At most, streams left standby or entered it. -/
  | same {l' : Line} (held : ∀ i, l'.held i = l.held i) (last : l'.last = l.last)
    (running : ∀ i, l'.running i = true → l.held i = true ∨ l.running i = true) :
    LineStep l op p l'
  /-- A stream was opened where none was active. -/
  | opened (idle : l.active? = none) : LineStep l op p l.push
  /-- A stream was closed. -/
  | closed {i : StreamId} (hop : op.closes? = some (p, i)) (hheld : l.held i = true) :
    LineStep l op p ((l.mark i false).forget i)
  /-- A stream was dropped. -/
  | dropped {i : StreamId} (hop : op.drops? = some (p, i)) (hheld : l.held i = true) :
    LineStep l op p (l.release i)

namespace LineStep

theorem refl (l : Line) (op : Operation) (p : Path) : LineStep l op p l :=
  .same (fun _ => rfl) rfl fun _ => .inr

/-- Leaving and entering standby does not concern who has a stream. -/
theorem mark {l : Line} {i : StreamId} {b : Bool} (hheld : b = true → l.held i = true)
    (op : Operation) (p : Path) : LineStep l op p (l.mark i b) := by
  refine .same (fun _ => Line.held_mark ..) rfl fun j hj => ?_
  by_cases hij : i = j
  · subst hij
    cases b with
    | true => exact .inl (hheld rfl)
    | false => rw [Line.running_mark_false] at hj; cases hj
  · exact .inr (Line.running_mark_of_ne l hij b ▸ hj)

theorem rest (l : Line) (op : Operation) (p : Path) (i : StreamId) :
    LineStep l op p (l.mark i false) :=
  mark (fun h => absurd h Bool.false_ne_true) op p

theorem standby (l : Line) (op : Operation) (p : Path) : LineStep l op p l.standby := by
  unfold Line.standby
  split
  next => exact .refl ..
  next i _ => exact .rest ..

/-- No stream runs that no client has. -/
theorem attended {l l' : Line} {op : Operation} {p : Path} (h : LineStep l op p l')
    (hl : l.Attended) : l'.Attended := by
  intro j hj
  cases h with
  | same held last running =>
    rw [held]
    exact (running j hj).elim id (hl j)
  | opened idle =>
    rw [Line.running_push] at hj
    rw [Line.held_push, hl j hj, Bool.true_or]
  | @closed i hop hheld =>
    rw [Line.running_forget] at hj
    rw [Line.held_forget, Line.held_mark]
    by_cases hij : i = j
    · exact hij ▸ hheld
    · exact hl j (Line.running_mark_of_ne l hij false ▸ hj)
  | @dropped i hop hheld =>
    by_cases hij : i = j
    · subst hij
      rw [Line.running_release_self] at hj
      cases hj
    · rw [Line.held_release_of_ne l hij]
      exact hl j (Line.running_release_of_ne l hij ▸ hj)

end LineStep

section

variable [PcmDriver σ] [ModemLink μ]

/-- The flag of the last pass that an operation makes over a path, if it makes any. -/
def lastPass? (d : Device σ μ) (op : Operation) (p : Path) : Option Bool :=
  match p, op with
  | _, .setMode code =>
    match Mode.ofCode? code with
    | none => none
    | some mode =>
      if d.routing.mode ≠ mode ∧ d.routing.inCall ≠ (mode == .inCall) then some false else none
  | .output, .routeOutput devices =>
    if d.reroutes .output devices then some (d.line .output).on else none
  | .output, .setOutputParameters i text =>
    if (d.line .output).held i && (routedDevices? text).any (d.reroutes .output) then
      some ((d.line .output).running i)
    else none
  | .input, .setInputParameters i text =>
    if (d.line .input).held i && (routedDevices? text).any (d.reroutes .input) then
      some ((d.line .input).running i)
    else none
  | .output, .write i bytes =>
    if (d.line .output).held i then
      (Line.transferPasses ((d.line .output).running i) (d.writeOutput i bytes).1.isOk).getLast?
    else none
  | .input, .read i length =>
    if (d.line .input).held i then
      (Line.transferPasses ((d.line .input).running i) (d.readInput i length).1.isOk).getLast?
    else none
  | .output, .standbyOutput i | .output, .closeOutput i =>
    if (d.line .output).held i && (d.line .output).running i then some false else none
  | .input, .standbyInput i | .input, .closeInput i =>
    if (d.line .input).held i && (d.line .input).running i then some false else none
  | _, _ => none

end

/-- What an operation does to streams and codec, with the flag of the last pass over each path. -/
inductive Outcome (d : Device σ μ) (op : Operation) : Device σ μ → (Path → Option Bool) → Prop where
  /-- Nothing that a path hears of. -/
  | quiet {d' : Device σ μ} (h : d.Quiet d') : Outcome d op d' fun _ => none
  /-- The streams of one direction change, with passes over their path. -/
  | streams {d' : Device σ μ} {p : Path} {l : Line} {ons : List Bool} (h : d.Effect p l ons d')
    (hline : LineStep (d.line p) op p l) :
    Outcome d op d' fun q => if q = p then ons.getLast? else none
  /-- One half of the devices is replaced. -/
  | rerouted {d' : Device σ μ} {p : Path} {devices : DeviceSet} {on : Bool}
    (h : d.Rerouted p devices on d') : Outcome d op d' fun q => if q = p then some on else none
  /-- The mode changes, but no call starts or ends. -/
  | mode (m : Mode) (hcall : d.routing.inCall = true ↔ m = .inCall) :
    Outcome d op { d with routing := { d.routing with mode := m } } fun _ => none
  /-- A call starts or ends. -/
  | regrouped {d' : Device σ μ} (m : Mode)
    (h : Regrouped { d with routing := { d.routing with mode := m } } d') :
    Outcome d op d' fun _ => some false

namespace Outcome

variable {d d' : Device σ μ} {op : Operation}
  {last last' : Path → Option Bool}

theorem refl (d : Device σ μ) (op : Operation) : d.Outcome op d fun _ => none := .quiet (.refl d)

theorem of_eq (h : d.Outcome op d' last) (hlast : ∀ p, last p = last' p) :
    d.Outcome op d' last' := funext hlast ▸ h

/-- An operation that is done only under a condition. -/
theorem gate {b : Bool} (h : b = true → d.Outcome op d' last) :
    d.Outcome op (if b then d' else d) fun p => if b then last p else none := by
  cases b with
  | true => exact h rfl
  | false => exact .refl ..

/-- Standby of a stream. -/
theorem rests {p : Path} {i : StreamId} {l : Line}
    (h : d.Effect p l (if (d.line p).running i then [false] else []) d')
    (hline : LineStep (d.line p) op p l) :
    d.Outcome op d' fun q => if q = p ∧ (d.line p).running i = true then some false else none := by
  refine (streams h hline).of_eq fun q => ?_
  cases (d.line p).running i <;> simp

theorem rerouteInput (d : Device σ μ) (op : Operation) (devices : DeviceSet) (on : Bool) :
    d.Outcome op (d.rerouteInput devices on) fun q =>
      if q = .input ∧ d.reroutes .input devices = true then some on else none := by
  cases hreroutes : d.reroutes .input devices with
  | false =>
    rw [rerouteInput_of_not_reroutes hreroutes]
    exact (refl d op).of_eq fun q => by simp
  | true => exact (rerouted (rerouted_input hreroutes on)).of_eq fun q => by simp

variable [ModemLink μ]

theorem rerouteOutput (d : Device σ μ) (op : Operation) (devices : DeviceSet) (on : Bool) :
    d.Outcome op (d.rerouteOutput devices on) fun q =>
      if q = .output ∧ d.reroutes .output devices = true then some on else none := by
  cases hreroutes : d.reroutes .output devices with
  | false =>
    rw [rerouteOutput_of_not_reroutes hreroutes]
    exact (refl d op).of_eq fun q => by simp
  | true => exact (rerouted (rerouted_output hreroutes on)).of_eq fun q => by simp

theorem setMode [PcmDriver σ] (d : Device σ μ) (op : Operation) (m : Mode) :
    d.Outcome op (d.setMode m) fun _ =>
      if d.routing.mode ≠ m ∧ d.routing.inCall ≠ (m == .inCall) then some false else none := by
  unfold Device.setMode
  split
  next hsame => exact (refl d op).of_eq fun _ => by simp [hsame]
  next hother =>
    simp only
    split
    next hmode =>
      split
      next hcall =>
        have hsteady : d.routing.inCall = true ↔ m = .inCall := ⟨fun _ => hmode, fun _ => hcall⟩
        exact (mode m hsteady).of_eq fun _ => by simp [hmode, hcall]
      next hcall =>
        have hturns : d.routing.mode ≠ m ∧ d.routing.inCall ≠ (m == .inCall) :=
          ⟨hother, by simpa [hmode] using hcall⟩
        exact (regrouped m (regrouped_enterCall _)).of_eq fun _ => (if_pos hturns).symm
    next hmode =>
      split
      next hcall =>
        have hturns : d.routing.mode ≠ m ∧ d.routing.inCall ≠ (m == .inCall) :=
          ⟨hother, by simp [hmode, hcall]⟩
        exact (regrouped m (regrouped_leaveCall _)).of_eq fun _ => (if_pos hturns).symm
      next hcall =>
        have hsteady : d.routing.inCall = true ↔ m = .inCall :=
          ⟨fun h => absurd h hcall, fun h => absurd h hmode⟩
        exact (mode m hsteady).of_eq fun _ => by simp [hmode, hcall]

end Outcome

section

variable [PcmDriver σ] [ModemLink μ]

/-- **Every operation** does one of five things to streams and codec. -/
theorem step_outcome (d : Device σ μ) (op : Operation) :
    d.Outcome op (d.step op).2 (d.lastPass? op) := by
  have hnothing : (∀ p, d.lastPass? op p = none) → d.Outcome op d (d.lastPass? op) := fun h =>
    (Outcome.refl d op).of_eq fun p => (h p).symm
  cases op with
  | check | setMasterVolume | micMute | parameters | captureBuffer =>
    exact hnothing fun p => by cases p <;> rfl
  | isStandbyOutput i | outputParameters i | setOutputVolume i | renderPosition i | latency i =>
    simp only [step, onOutput_snd, ite_self]
    exact hnothing fun p => by cases p <;> rfl
  | isStandbyInput i | inputParameters i | setInputGain i | lostFrames i =>
    simp only [step, onInput_snd, ite_self]
    exact hnothing fun p => by cases p <;> rfl
  | setMicMute on => exact (Outcome.quiet (d.quiet_setMicMute on)).of_eq fun p => by cases p <;> rfl
  | setParameters text =>
    exact (Outcome.quiet (d.quiet_setParameters text)).of_eq fun p => by cases p <;> rfl
  | setVoiceVolume volume =>
    rw [step_setVoiceVolume_snd]
    exact (Outcome.quiet (d.quiet_setVoiceVolume volume)).of_eq fun p => by cases p <;> rfl
  | setMode code =>
    simp only [step]
    cases hcode : Mode.ofCode? code with
    | none => exact hnothing fun p => by cases p <;> simp [lastPass?, hcode]
    | some m => exact (Outcome.setMode d _ m).of_eq fun p => by cases p <;> simp [lastPass?, hcode]
  | routeOutput devices =>
    refine (Outcome.rerouteOutput d _ devices d.outputOn).of_eq fun p => ?_
    cases p <;> simp [lastPass?, outputOn_eq]
  | openOutput _ =>
    rw [step_openOutput_snd]
    rcases d.effect_openOutput with heq | ⟨hactive, heffect⟩
    · rw [heq]
      exact hnothing fun p => by cases p <;> rfl
    · exact (Outcome.streams heffect (.opened hactive)).of_eq fun p => by cases p <;> rfl
  | openInput _ format =>
    rw [step_openInput_snd]
    rcases d.effect_openInput format with heq | ⟨hactive, heffect⟩
    · rw [heq]
      exact hnothing fun p => by cases p <;> rfl
    · exact (Outcome.streams heffect (.opened hactive)).of_eq fun p => by cases p <;> rfl
  | closeOutput i =>
    simp only [step, onOutput_snd]
    refine (Outcome.gate fun hheld => .rests (effect_closeOutput rfl i) (.closed rfl hheld)).of_eq
      fun p => ?_
    cases p <;> cases hheld : (d.line .output).held i <;> simp [lastPass?, hheld]
  | closeInput i =>
    simp only [step, onInput_snd]
    refine (Outcome.gate fun hheld => .rests (effect_closeInput rfl i) (.closed rfl hheld)).of_eq
      fun p => ?_
    cases p <;> cases hheld : (d.line .input).held i <;> simp [lastPass?, hheld]
  | standbyOutput i =>
    simp only [step, onOutput_snd]
    refine (Outcome.gate fun _ => .rests (effect_standbyOutput rfl i) (.rest ..)).of_eq fun p => ?_
    cases p <;> cases hheld : (d.line .output).held i <;> simp [lastPass?, hheld]
  | standbyInput i =>
    simp only [step, onInput_snd]
    refine (Outcome.gate fun _ => .rests (effect_standbyInput rfl i) (.rest ..)).of_eq fun p => ?_
    cases p <;> cases hheld : (d.line .input).held i <;> simp [lastPass?, hheld]
  | dropOutput i =>
    simp only [step, onOutput_snd]
    refine (Outcome.gate fun hheld => .streams (effect_dropOutput rfl i) (.dropped rfl hheld)).of_eq
      fun p => ?_
    cases p <;> simp [lastPass?]
  | dropInput i =>
    simp only [step, onInput_snd]
    refine (Outcome.gate fun hheld => .streams (effect_dropInput rfl i) (.dropped rfl hheld)).of_eq
      fun p => ?_
    cases p <;> simp [lastPass?]
  | write i bytes =>
    rw [step_write_snd]
    cases hheld : (d.line .output).held i with
    | false =>
      rw [writeOutput_of_not_held hheld]
      exact hnothing fun p => by cases p <;> simp [lastPass?, hheld]
    | true =>
      refine (Outcome.streams (effect_writeOutput rfl hheld bytes)
        (.mark (fun _ => hheld) ..)).of_eq fun p => ?_
      cases p <;> simp [lastPass?, hheld]
  | read i length =>
    rw [step_read_snd]
    cases hheld : (d.line .input).held i with
    | false =>
      rw [readInput_of_not_held hheld]
      exact hnothing fun p => by cases p <;> simp [lastPass?, hheld]
    | true =>
      refine (Outcome.streams (effect_readInput rfl hheld length) (.mark (fun _ => hheld) ..)).of_eq
        fun p => ?_
      cases p <;> simp [lastPass?, hheld]
  | setOutputParameters i text =>
    simp only [step, onOutput_snd]
    unfold setOutputParameters
    cases hrouted : routedDevices? text with
    | none =>
      simp only [ite_self]
      exact hnothing fun p => by cases p <;> simp [lastPass?, hrouted]
    | some devices =>
      refine (Outcome.gate fun _ => .rerouteOutput d _ devices _).of_eq fun p => ?_
      cases p <;> cases hheld : (d.line .output).held i <;>
        simp [lastPass?, hrouted, hheld, running_output]
  | setInputParameters i text =>
    simp only [step, onInput_snd]
    unfold setInputParameters
    cases hrouted : routedDevices? text with
    | none =>
      simp only [ite_self]
      exact hnothing fun p => by cases p <;> simp [lastPass?, hrouted]
    | some devices =>
      refine (Outcome.gate fun _ => .rerouteInput d _ devices _).of_eq fun p => ?_
      cases p <;> cases hheld : (d.line .input).held i <;>
        simp [lastPass?, hrouted, hheld, running_input]

end

/-- What any operation does, careful or not: the streams change as `LineStep` says, and all
that the codec hears are calls on its reconcilers. -/
structure Behaves (d : Device σ μ) (op : Operation) (d' : Device σ μ) : Prop where
  line : ∀ p, LineStep (d.line p) op p (d'.line p)
  reaches : d.codec.Reaches d'.codec

theorem Outcome.behaves {d d' : Device σ μ} {op : Operation} {last : Path → Option Bool}
    (h : d.Outcome op d' last) : d.Behaves op d' := by
  cases h with
  | quiet h => exact ⟨fun p => by rw [h.line]; exact .refl .., by rw [h.codec]; exact .refl _⟩
  | @streams _ p _ _ h hline =>
    refine ⟨fun q => ?_, h.reaches⟩
    by_cases hq : q = p
    · subst hq
      rw [h.line]
      exact hline
    · rw [h.other q hq]
      exact .refl ..
  | rerouted h =>
    exact ⟨fun q => by rw [h.line]; exact .refl .., by rw [h.codec]; exact Codec.reaches_serve ..⟩
  | mode m => exact ⟨fun p => by cases p <;> exact .refl .., .refl _⟩
  | regrouped m h =>
    refine ⟨fun p => ?_, h.reaches⟩
    rw [h.line]
    cases p <;> exact .standby ..

/-- **Any operation** changes who has a stream only by opening, closing and dropping, and
the codec only by calls on its reconcilers. -/
theorem step_behaves [PcmDriver σ] [ModemLink μ] (d : Device σ μ) (op : Operation) :
    d.Behaves op (d.step op).2 := (d.step_outcome op).behaves

end Device

end HandsetAudio
