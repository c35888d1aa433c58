import HandsetAudio.Proofs.Device.Routes

/-!
# What one operation does to the paths

`Carries` is what an operation may do to a path: a pass for the state that it leaves
behind, or nothing at all, and then it changes only what the rows of the path cannot tell.
Which of the two it is can be read off the operation (`passes`). Main statement:

> `step_proceeds`: an operation that respects closed streams does one of the two to each
> path, and keeps the device in order: only active streams run, and the call flag is up
> exactly in the call mode.
-/

namespace HandsetAudio

namespace Operation

/-- The stream that an operation is for, other than to close or drop it. -/
def uses? : Operation → Option (Path × StreamId)
  | .write i _ | .standbyOutput i | .isStandbyOutput i | .setOutputParameters i _
  | .outputParameters i _ | .setOutputVolume i _ _ | .renderPosition i | .latency i =>
    some (.output, i)
  | .read i _ | .standbyInput i | .isStandbyInput i | .setInputParameters i _
  | .inputParameters i _ | .setInputGain i _ | .lostFrames i => some (.input, i)
  | _ => none

/-- The stream that an operation closes. -/
def closes? : Operation → Option (Path × StreamId)
  | .closeOutput i => some (.output, i)
  | .closeInput i => some (.input, i)
  | _ => none

/-- The stream that an operation drops. -/
def drops? : Operation → Option (Path × StreamId)
  | .dropOutput i => some (.output, i)
  | .dropInput i => some (.input, i)
  | _ => none

end Operation

namespace Device

variable {σ μ : Type}

/-- The facts for a path now. -/
def now (d : Device σ μ) (p : Path) : Facts := d.facts (d.line p).on

/-- Only active streams run, and the call flag is up exactly in the call mode. -/
structure Orderly (d : Device σ μ) : Prop where
  sole : ∀ p, (d.line p).Sole
  call : d.routing.inCall = true ↔ d.routing.mode = .inCall

/-- What an operation does to a path: a pass for the state that it leaves behind, or
nothing that the rows of the path could tell. -/
def Carries (d d' : Device σ μ) (p : Path) (passed : Bool) : Prop :=
  if passed then (d'.codec.reconciler p).InLine (d'.now p)
  else d'.codec.reconciler p = d.codec.reconciler p ∧ (d.now p).Alike p (d'.now p)

/-- An operation kept the device in order and carried both paths along. -/
structure Proceeds (d d' : Device σ μ) (passed : Path → Bool) : Prop where
  orderly : d'.Orderly
  carries : ∀ p, d.Carries d' p (passed p)

section

variable {d d' : Device σ μ} {p : Path} {passed : Path → Bool}

/-- A path keeps its facts where its streams, the mode and its devices stay. -/
theorem now_alike (hline : d'.line p = d.line p)
    (hmode : d.routing.mode = .inCall ↔ d'.routing.mode = .inCall)
    (hdevices : p.half d.routing.devices = p.half d'.routing.devices) :
    (d.now p).Alike p (d'.now p) :=
  ⟨hmode, hdevices, by rw [now, now, hline]; rfl⟩

theorem Proceeds.refl (h : d.Orderly) : d.Proceeds d fun _ => false :=
  ⟨h, fun _ => ⟨rfl, .refl ..⟩⟩

theorem Proceeds.quiet (h : d.Orderly) (hquiet : d.Quiet d') : d.Proceeds d' fun _ => false where
  orderly :=
    { sole := fun p => by rw [hquiet.line]; exact h.sole p
      call := by rw [hquiet.inCall, hquiet.mode]; exact h.call }
  carries p := by
    refine ⟨by rw [hquiet.codec], now_alike (hquiet.line p) ?_ ?_⟩
    · rw [hquiet.mode]
    · rw [hquiet.devices]

/-- Passes over one path do not touch the other. -/
theorem reconciler_run_of_ne {q : Path} (c : Codec) (hq : q ≠ p) (ons : List Bool)
    (facts : Bool → Facts) :
    (c.run (ons.map fun on => (p, .converge (facts on)))).reconciler q = c.reconciler q := by
  induction ons generalizing c with
  | nil => rfl
  | cons on ons ih =>
    rw [List.map_cons, Codec.run_cons, ih, Codec.reconciler_serve_of_ne c hq]

/-- The last of the passes decides what the path is in line with. -/
theorem Effect.inLine_concat {l : Line} {init : List Bool} {on : Bool}
    (h : d.Effect p l (init ++ [on]) d') : (d'.codec.reconciler p).InLine (d'.facts on) := by
  rw [facts, h.routing, h.codec, List.map_append, Codec.run_append]
  exact Codec.inLine_serve_self _ p _

/-- An operation on a stream passes for the state that it leaves behind, if the passes
follow the streams. -/
theorem Proceeds.effect {l : Line} {ons : List Bool} (h : d.Orderly) (heffect : d.Effect p l ons d')
    (hsole : l.Sole) (hfollows : (d.line p).Follows l ons) :
    d.Proceeds d' fun q => q == p && !ons.isEmpty where
  orderly :=
    { sole := by
        intro q
        by_cases hq : q = p
        · subst hq
          rw [heffect.line]
          exact hsole
        · rw [heffect.other q hq]
          exact h.sole q
      call := by rw [heffect.routing]; exact h.call }
  carries q := by
    by_cases hq : q = p
    · subst hq
      rw [beq_self_eq_true, Bool.true_and]
      rcases List.eq_nil_or_concat' ons with rfl | ⟨init, on, rfl⟩
      · -- no pass: the streams left the path as it was
        refine ⟨by rw [heffect.codec]; rfl, ?_, ?_, ?_⟩
        · rw [now, now, facts, facts, heffect.routing]
        · rw [now, now, facts, facts, heffect.routing]
        · rw [now, now, facts, facts, heffect.line]
          exact hfollows.symm
      · -- the last pass was for the state at the end
        have hon : l.on = on := Line.follows_concat.1 hfollows
        have hnow : d'.now q = d'.facts on := by rw [now, heffect.line, hon]
        have hpassed : (!(init ++ [on]).isEmpty) = true := by simp
        rw [hpassed, Carries, if_pos rfl, hnow]
        exact heffect.inLine_concat
    · rw [beq_eq_false_iff_ne.2 hq, Bool.false_and]
      refine ⟨?_, now_alike (heffect.other q hq) ?_ ?_⟩
      · rw [heffect.codec, reconciler_run_of_ne _ hq]
      · rw [heffect.routing]
      · rw [heffect.routing]

/-- Rerouting passes over its path, and the other one cannot tell. -/
theorem Proceeds.rerouted {devices : DeviceSet} {on : Bool} (h : d.Orderly)
    (hrerouted : d.Rerouted p devices on d') (hon : on = (d.line p).on) :
    d.Proceeds d' fun q => q == p where
  orderly :=
    { sole := fun q => by rw [hrerouted.line]; exact h.sole q
      call := by rw [hrerouted.inCall, hrerouted.mode]; exact h.call }
  carries q := by
    by_cases hq : q = p
    · subst hq
      have hnow : d'.now q = d'.facts on := by rw [now, hrerouted.line, hon]
      rw [beq_self_eq_true, Carries, if_pos rfl, hnow, hrerouted.codec]
      exact Codec.inLine_serve_self _ q _
    · rw [beq_eq_false_iff_ne.2 hq]
      refine ⟨?_, now_alike (hrerouted.line q) ?_ ?_⟩
      · rw [hrerouted.codec, Codec.reconciler_serve_of_ne _ hq]
      · rw [hrerouted.mode]
      · rw [hrerouted.devices, Path.half_replace_of_ne hq]

/-- Entering or leaving a call passes over both paths. -/
theorem Proceeds.regrouped {e : Device σ μ} (h : ∀ p, (e.line p).Sole) (hregrouped : e.Regrouped d')
    (hcall : d'.routing.inCall = true ↔ d'.routing.mode = .inCall) :
    d.Proceeds d' fun _ => true where
  orderly :=
    { sole := fun p => by rw [hregrouped.line]; exact (h p).standby
      call := hcall }
  carries p := hregrouped.inLine p

/-- An operation that is done only under a condition. -/
theorem Proceeds.gate (h : d.Orderly) {b : Bool} (hstep : b = true → d.Proceeds d' passed) :
    d.Proceeds (if b then d' else d) fun p => b && passed p := by
  cases b with
  | true => exact hstep rfl
  | false => exact Proceeds.refl h

end

/-! ## The operations -/

/-- The operation uses no stream that lost its place, and drops none that runs. -/
structure Minds (d : Device σ μ) (op : Operation) : Prop where
  uses : ∀ p i, op.uses? = some (p, i) → (d.line p).held i = true → (d.line p).last = some i
  drops : ∀ p i, op.drops? = some (p, i) → (d.line p).running i = false

/-- An operation on a playback stream is done if a client has it. -/
theorem onOutput_snd (d e : Device σ μ) (i : StreamId)
    (r : OutputStream → Except AudioError Reply) :
    (d.onOutput i fun s => (r s, e)).2 = if (d.line .output).held i then e else d := by
  rw [← isSome_heldOutput?]
  unfold onOutput
  cases d.heldOutput? i <;> rfl

/-- An operation on a capture stream is done if a client has it. -/
theorem onInput_snd (d e : Device σ μ) (i : StreamId)
    (r : InputStream → Except AudioError Reply) :
    (d.onInput i fun s => (r s, e)).2 = if (d.line .input).held i then e else d := by
  rw [← isSome_heldInput?]
  unfold onInput
  cases d.heldInput? i <;> rfl

section

variable {d : Device σ μ} (h : d.Orderly)

include h

theorem proceeds_openOutput : d.Proceeds d.openOutput.2 fun _ => false := by
  rcases d.effect_openOutput with heq | ⟨hactive, heffect⟩
  · rw [heq]
    exact Proceeds.refl h
  · have hsole := h.sole .output
    have hstep := Proceeds.effect h heffect (hsole.push hactive) (hsole.follows_push hactive)
    simpa using hstep

theorem proceeds_openInput (format : StreamFormat) :
    d.Proceeds (d.openInput format).2 fun _ => false := by
  rcases d.effect_openInput format with heq | ⟨hactive, heffect⟩
  · rw [heq]
    exact Proceeds.refl h
  · have hsole := h.sole .input
    have hstep := Proceeds.effect h heffect (hsole.push hactive) (hsole.follows_push hactive)
    simpa using hstep

theorem proceeds_rerouteInput (devices : DeviceSet) {on : Bool} (hon : on = (d.line .input).on) :
    d.Proceeds (d.rerouteInput devices on) fun p => p == .input && d.reroutes .input devices := by
  cases hreroutes : d.reroutes .input devices with
  | false =>
    rw [rerouteInput_of_not_reroutes hreroutes]
    simpa using Proceeds.refl h
  | true => simpa using Proceeds.rerouted h (rerouted_input hreroutes on) hon

theorem proceeds_rerouteOutput [ModemLink μ] (devices : DeviceSet) {on : Bool}
    (hon : on = (d.line .output).on) :
    d.Proceeds (d.rerouteOutput devices on)
      fun p => p == .output && d.reroutes .output devices := by
  cases hreroutes : d.reroutes .output devices with
  | false =>
    rw [rerouteOutput_of_not_reroutes hreroutes]
    simpa using Proceeds.refl h
  | true => simpa using Proceeds.rerouted h (rerouted_output hreroutes on) hon

/-- Changing the mode passes over the paths iff a call starts or ends. -/
theorem proceeds_setMode [PcmDriver σ] [ModemLink μ] (mode : Mode) :
    d.Proceeds (d.setMode mode) fun _ =>
      d.routing.mode != mode && (d.routing.mode == .inCall || mode == .inCall) := by
  unfold setMode
  by_cases hsame : d.routing.mode = mode
  · rw [if_pos hsame, hsame, bne_self_eq_false]
    exact Proceeds.refl h
  rw [if_neg hsame, bne_iff_ne.2 hsame]
  have hsole : ∀ p, (({ d with routing := { d.routing with mode } } : Device σ μ).line p).Sole := by
    intro p
    have hp := h.sole p
    cases p <;> exact hp
  simp only [Bool.true_and]
  by_cases hmode : mode = .inCall
  · -- a call starts
    have hidle : d.routing.inCall ≠ true := fun hcall => hsame ((h.call.1 hcall).trans hmode.symm)
    rw [if_pos hmode, if_neg hidle, hmode, beq_self_eq_true, Bool.or_true]
    refine Proceeds.regrouped (hmode ▸ hsole) (regrouped_enterCall _) ?_
    rw [inCall_enterCall, mode_enterCall]
    exact ⟨fun _ => rfl, fun _ => rfl⟩
  · rw [if_neg hmode, beq_eq_false_iff_ne.2 hmode, Bool.or_false]
    by_cases hcall : d.routing.inCall = true
    · -- a call ends
      rw [if_pos hcall, h.call.1 hcall, beq_self_eq_true]
      refine Proceeds.regrouped hsole (regrouped_leaveCall _) ?_
      rw [routing_leaveCall]
      simp [hmode]
    · -- from one mode outside a call to another: no pass
      have hother : d.routing.mode ≠ .inCall := fun hm => hcall (h.call.2 hm)
      rw [if_neg hcall, beq_eq_false_iff_ne.2 hother]
      refine ⟨⟨hsole, ?_⟩, fun p => ⟨rfl, now_alike (by cases p <;> rfl) ?_ rfl⟩⟩
      · simp [hcall, hmode]
      · simp [hother, hmode]

end

section

variable [PcmDriver σ] [ModemLink μ]

/-- Whether an operation passes over a path: it enters or leaves a call, reroutes the
path, or wakes one of its streams or puts it in standby. -/
def passes (d : Device σ μ) (p : Path) : Operation → Bool
  | .setMode code =>
    (Mode.ofCode? code).any fun mode =>
      d.routing.mode != mode && (d.routing.mode == .inCall || mode == .inCall)
  | .routeOutput devices => p == .output && d.reroutes .output devices
  | .setOutputParameters i text =>
    (d.line .output).held i &&
      (p == .output && (routedDevices? text).any (d.reroutes .output))
  | .setInputParameters i text =>
    (d.line .input).held i && (p == .input && (routedDevices? text).any (d.reroutes .input))
  | .write i bytes =>
    (d.line .output).held i &&
      (p == .output && !((d.line .output).running i && (d.writeOutput i bytes).1.isOk))
  | .read i length =>
    (d.line .input).held i &&
      (p == .input && !((d.line .input).running i && (d.readInput i length).1.isOk))
  | .standbyOutput i | .closeOutput i =>
    (d.line .output).held i && (p == .output && (d.line .output).running i)
  | .standbyInput i | .closeInput i =>
    (d.line .input).held i && (p == .input && (d.line .input).running i)
  | _ => false

/-- What an operation does, where it answers as a function of the device does. -/
theorem step_write (d : Device σ μ) (i : StreamId) (bytes : List UInt8) :
    d.step (.write i bytes) =
      ((d.writeOutput i bytes).1.map .taken, (d.writeOutput i bytes).2) := by
  simp only [step]
  rcases d.writeOutput i bytes with ⟨_ | _, d'⟩ <;> rfl

theorem step_write_fst (d : Device σ μ) (i : StreamId) (bytes : List UInt8) :
    (d.step (.write i bytes)).1 = (d.writeOutput i bytes).1.map .taken :=
  congrArg Prod.fst (d.step_write i bytes)

theorem step_write_snd (d : Device σ μ) (i : StreamId) (bytes : List UInt8) :
    (d.step (.write i bytes)).2 = (d.writeOutput i bytes).2 :=
  congrArg Prod.snd (d.step_write i bytes)

theorem step_read (d : Device σ μ) (i : StreamId) (length : Nat) :
    d.step (.read i length) =
      ((d.readInput i length).1.map .captured, (d.readInput i length).2) := by
  simp only [step]
  rcases d.readInput i length with ⟨_ | _, d'⟩ <;> rfl

theorem step_read_fst (d : Device σ μ) (i : StreamId) (length : Nat) :
    (d.step (.read i length)).1 = (d.readInput i length).1.map .captured :=
  congrArg Prod.fst (d.step_read i length)

theorem step_read_snd (d : Device σ μ) (i : StreamId) (length : Nat) :
    (d.step (.read i length)).2 = (d.readInput i length).2 :=
  congrArg Prod.snd (d.step_read i length)

theorem step_setVoiceVolume (d : Device σ μ) (volume : Float32) :
    d.step (.setVoiceVolume volume) =
      ((d.setVoiceVolume volume).1.map (fun _ => .done), (d.setVoiceVolume volume).2) := by
  simp only [step]
  rcases d.setVoiceVolume volume with ⟨_ | _, d'⟩ <;> rfl

theorem step_setVoiceVolume_fst (d : Device σ μ) (volume : Float32) :
    (d.step (.setVoiceVolume volume)).1 = (d.setVoiceVolume volume).1.map fun _ => .done :=
  congrArg Prod.fst (d.step_setVoiceVolume volume)

theorem step_setVoiceVolume_snd (d : Device σ μ) (volume : Float32) :
    (d.step (.setVoiceVolume volume)).2 = (d.setVoiceVolume volume).2 :=
  congrArg Prod.snd (d.step_setVoiceVolume volume)

theorem step_openOutput (d : Device σ μ) (devices : DeviceSet) :
    d.step (.openOutput devices) = (d.openOutput.1.map (.opened · .playback), d.openOutput.2) := by
  simp only [step]
  rcases d.openOutput with ⟨_ | _, d'⟩ <;> rfl

theorem step_openOutput_fst (d : Device σ μ) (devices : DeviceSet) :
    (d.step (.openOutput devices)).1 = d.openOutput.1.map (.opened · .playback) :=
  congrArg Prod.fst (d.step_openOutput devices)

theorem step_openOutput_snd (d : Device σ μ) (devices : DeviceSet) :
    (d.step (.openOutput devices)).2 = d.openOutput.2 :=
  congrArg Prod.snd (d.step_openOutput devices)

theorem step_openInput (d : Device σ μ) (devices : DeviceSet) (format : StreamFormat) :
    d.step (.openInput devices format) =
      ((d.openInput format).1.map (.opened · format), (d.openInput format).2) := by
  simp only [step]
  rcases d.openInput format with ⟨_ | _, d'⟩ <;> rfl

theorem step_openInput_fst (d : Device σ μ) (devices : DeviceSet) (format : StreamFormat) :
    (d.step (.openInput devices format)).1 = (d.openInput format).1.map (.opened · format) :=
  congrArg Prod.fst (d.step_openInput devices format)

theorem step_openInput_snd (d : Device σ μ) (devices : DeviceSet) (format : StreamFormat) :
    (d.step (.openInput devices format)).2 = (d.openInput format).2 :=
  congrArg Prod.snd (d.step_openInput devices format)

/-- The passes of a transfer. -/
theorem isEmpty_transferPasses (running ok : Bool) :
    (!(Line.transferPasses running ok).isEmpty) = !(running && ok) := by
  cases running <;> cases ok <;> rfl

/-- The passes of a standby. -/
theorem isEmpty_restPasses (running : Bool) :
    (!(if running then [false] else []).isEmpty) = running := by
  cases running <;> rfl

/-- **One operation.** An operation that minds closed streams passes over a path for the
state that it leaves behind, or does nothing to it that its rows could tell. -/
theorem step_proceeds {d : Device σ μ} (h : d.Orderly) {op : Operation} (hminds : d.Minds op) :
    d.Proceeds (d.step op).2 fun p => d.passes p op := by
  cases op with
  | check | setMasterVolume | micMute | parameters | captureBuffer => exact Proceeds.refl h
  | isStandbyOutput i | outputParameters i | setOutputVolume i | renderPosition i | latency i =>
    simp only [step, passes, onOutput_snd, ite_self]
    exact Proceeds.refl h
  | isStandbyInput i | inputParameters i | setInputGain i | lostFrames i =>
    simp only [step, passes, onInput_snd, ite_self]
    exact Proceeds.refl h
  | setMicMute on => exact Proceeds.quiet h (d.quiet_setMicMute on)
  | setParameters text => exact Proceeds.quiet h (d.quiet_setParameters text)
  | setVoiceVolume volume =>
    rw [step_setVoiceVolume_snd]
    exact Proceeds.quiet h (d.quiet_setVoiceVolume volume)
  | setMode code =>
    simp only [step, passes]
    cases Mode.ofCode? code with
    | none => exact Proceeds.refl h
    | some mode => exact proceeds_setMode h mode
  | routeOutput devices => exact proceeds_rerouteOutput h devices d.outputOn_eq
  | openOutput _ => rw [step_openOutput_snd]; exact proceeds_openOutput h
  | openInput _ format => rw [step_openInput_snd]; exact proceeds_openInput h format
  | closeOutput i =>
    simp only [step, passes, onOutput_snd]
    refine Proceeds.gate h fun _ => ?_
    have hsole := h.sole .output
    have hstep := Proceeds.effect h (effect_closeOutput rfl i)
      ((hsole.rest i).forget (Line.running_mark_false ..)) (hsole.follows_close i)
    simpa only [isEmpty_restPasses] using hstep
  | closeInput i =>
    simp only [step, passes, onInput_snd]
    refine Proceeds.gate h fun _ => ?_
    have hsole := h.sole .input
    have hstep := Proceeds.effect h (effect_closeInput rfl i)
      ((hsole.rest i).forget (Line.running_mark_false ..)) (hsole.follows_close i)
    simpa only [isEmpty_restPasses] using hstep
  | standbyOutput i =>
    simp only [step, passes, onOutput_snd]
    refine Proceeds.gate h fun _ => ?_
    have hsole := h.sole .output
    have hstep :=
      Proceeds.effect h (effect_standbyOutput rfl i) (hsole.rest i) (hsole.follows_rest i)
    simpa only [isEmpty_restPasses] using hstep
  | standbyInput i =>
    simp only [step, passes, onInput_snd]
    refine Proceeds.gate h fun _ => ?_
    have hsole := h.sole .input
    have hstep :=
      Proceeds.effect h (effect_standbyInput rfl i) (hsole.rest i) (hsole.follows_rest i)
    simpa only [isEmpty_restPasses] using hstep
  | dropOutput i =>
    have hidle := hminds.drops .output i rfl
    have hstep : d.Proceeds (d.dropOutput i) fun _ => false := by
      simpa using Proceeds.effect h (effect_dropOutput rfl i) ((h.sole .output).release i)
        (Line.follows_release hidle)
    simp only [step, passes, onOutput_snd]
    split
    next => exact hstep
    next => exact Proceeds.refl h
  | dropInput i =>
    have hidle := hminds.drops .input i rfl
    have hstep : d.Proceeds (d.dropInput i) fun _ => false := by
      simpa using Proceeds.effect h (effect_dropInput rfl i) ((h.sole .input).release i)
        (Line.follows_release hidle)
    simp only [step, passes, onInput_snd]
    split
    next => exact hstep
    next => exact Proceeds.refl h
  | write i bytes =>
    rw [step_write_snd]
    simp only [passes]
    cases hheld : (d.line .output).held i with
    | false =>
      rw [writeOutput_of_not_held hheld]
      exact Proceeds.refl h
    | true =>
      have hlast := hminds.uses .output i rfl hheld
      have hstep := Proceeds.effect h (effect_writeOutput rfl hheld bytes)
        ((h.sole .output).mark hlast hheld _) (Line.follows_transfer hlast hheld _)
      simpa only [isEmpty_transferPasses, Bool.true_and] using hstep
  | read i length =>
    rw [step_read_snd]
    simp only [passes]
    cases hheld : (d.line .input).held i with
    | false =>
      rw [readInput_of_not_held hheld]
      exact Proceeds.refl h
    | true =>
      have hlast := hminds.uses .input i rfl hheld
      have hstep := Proceeds.effect h (effect_readInput rfl hheld length)
        ((h.sole .input).mark hlast hheld _) (Line.follows_transfer hlast hheld _)
      simpa only [isEmpty_transferPasses, Bool.true_and] using hstep
  | setOutputParameters i text =>
    simp only [step, passes, onOutput_snd]
    refine Proceeds.gate h fun hheld => ?_
    unfold setOutputParameters
    cases routedDevices? text with
    | none => simpa using Proceeds.refl h
    | some devices =>
      -- the stream passes its own state on, and that is the path's while it is in place
      have hon : (d.outputSubstream? i).isSome = (d.line .output).on := by
        rw [← running_output, Line.on_of_last (hminds.uses .output i rfl hheld), hheld,
          Bool.true_and]
      exact proceeds_rerouteOutput h devices hon
  | setInputParameters i text =>
    simp only [step, passes, onInput_snd]
    refine Proceeds.gate h fun hheld => ?_
    unfold setInputParameters
    cases routedDevices? text with
    | none => simpa using Proceeds.refl h
    | some devices =>
      have hon : (d.capture? i).isSome = (d.line .input).on := by
        rw [← running_input, Line.on_of_last (hminds.uses .input i rfl hheld), hheld, Bool.true_and]
      exact proceeds_rerouteInput h devices hon

end

end Device

end HandsetAudio
