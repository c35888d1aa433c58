import HandsetAudio.Proofs.Device.Effects

/-!
# What routing and calls do

Rerouting a path replaces its half of the devices and passes over it. Entering or leaving
a call puts the active streams in standby and passes over both paths with the routing
facts that then hold (`Regrouped`); everything that follows, from the modem to the
voice loop, touches neither streams nor controls.
-/

namespace HandsetAudio

namespace Device

variable {σ μ : Type}

/-! ## What neither path hears of -/

section

variable (d : Device σ μ) (p : Path)

@[simp] theorem line_note (text : String) : (d.note text).line p = d.line p := by cases p <;> rfl
@[simp] theorem codec_note (text : String) : (d.note text).codec = d.codec := rfl
@[simp] theorem routing_note (text : String) : (d.note text).routing = d.routing := rfl

@[simp] theorem line_setInCall (on : Bool) : (d.setInCall on).line p = d.line p := by
  cases p <;> rfl
@[simp] theorem codec_setInCall (on : Bool) : (d.setInCall on).codec = d.codec := rfl
@[simp] theorem routing_setInCall (on : Bool) :
    (d.setInCall on).routing = { d.routing with inCall := on } := rfl

@[simp] theorem line_enterCallDevices : d.enterCallDevices.line p = d.line p := by cases p <;> rfl
@[simp] theorem codec_enterCallDevices : d.enterCallDevices.codec = d.codec := rfl

@[simp] theorem line_converge (q : Path) (on : Bool) : (d.converge q on).line p = d.line p := by
  cases p <;> cases q <;> rfl
@[simp] theorem routing_converge (q : Path) (on : Bool) :
    (d.converge q on).routing = d.routing := by
  cases q <;> rfl

section

variable [ModemLink μ]

@[simp] theorem line_send (r : ModemRequest) : (d.send r).line p = d.line p := by cases p <;> rfl
@[simp] theorem codec_send (r : ModemRequest) : (d.send r).codec = d.codec := rfl
@[simp] theorem routing_send (r : ModemRequest) : (d.send r).routing = d.routing := rfl

@[simp] theorem line_pushCallPath : d.pushCallPath.line p = d.line p := d.line_send p _
@[simp] theorem codec_pushCallPath : d.pushCallPath.codec = d.codec := rfl
@[simp] theorem routing_pushCallPath : d.pushCallPath.routing = d.routing := rfl

@[simp] theorem line_pushVoiceVolume : d.pushVoiceVolume.line p = d.line p := d.line_send p _
@[simp] theorem codec_pushVoiceVolume : d.pushVoiceVolume.codec = d.codec := rfl
@[simp] theorem routing_pushVoiceVolume : d.pushVoiceVolume.routing = d.routing := rfl

end

section

variable [PcmDriver σ]

@[simp] theorem line_startLoop : d.startLoop.line p = d.line p := by
  unfold startLoop
  split <;> cases p <;> rfl
@[simp] theorem codec_startLoop : d.startLoop.codec = d.codec := by
  unfold startLoop
  split <;> rfl
@[simp] theorem routing_startLoop : d.startLoop.routing = d.routing := by
  unfold startLoop
  split <;> rfl

@[simp] theorem line_stopLoop : d.stopLoop.line p = d.line p := by cases p <;> rfl
@[simp] theorem codec_stopLoop : d.stopLoop.codec = d.codec := rfl
@[simp] theorem routing_stopLoop : d.stopLoop.routing = d.routing := rfl

end

end

/-- `d'` differs from `d` in nothing that a path hears of. -/
structure Quiet (d d' : Device σ μ) : Prop where
  line : ∀ p, d'.line p = d.line p
  codec : d'.codec = d.codec
  mode : d'.routing.mode = d.routing.mode
  devices : d'.routing.devices = d.routing.devices
  inCall : d'.routing.inCall = d.routing.inCall

theorem Quiet.refl (d : Device σ μ) : d.Quiet d := ⟨fun _ => rfl, rfl, rfl, rfl, rfl⟩

theorem quiet_setMicMute (d : Device σ μ) (on : Bool) : d.Quiet (d.setMicMute on) :=
  ⟨fun p => by cases p <;> rfl, rfl, rfl, rfl, rfl⟩

/-- A call volume is nothing that a path hears of. -/
theorem quiet_setVoiceVolume [ModemLink μ] (d : Device σ μ) (volume : Float32) :
    d.Quiet (d.setVoiceVolume volume).2 := by
  unfold setVoiceVolume
  split
  next =>
    simp only
    split <;> exact ⟨fun p => by cases p <;> rfl, rfl, rfl, rfl, rfl⟩
  next => exact Quiet.refl d

/-- Nor is noise reduction. -/
theorem quiet_setParameters [ModemLink μ] (d : Device σ μ) (text : String) :
    d.Quiet (d.setParameters text) := by
  unfold setParameters
  split
  next => exact Quiet.refl d
  next value _ =>
    simp only
    split
    next => exact Quiet.refl d
    next => split <;> exact ⟨fun p => by cases p <;> rfl, rfl, rfl, rfl, rfl⟩

/-! ## Rerouting -/

/-- Whether routing a path to some devices changes anything. -/
def reroutes (d : Device σ μ) (p : Path) (devices : DeviceSet) : Bool :=
  !((p.half devices).isEmpty || p.half devices == p.half d.routing.devices)

/-- `d'` is `d` after its devices were replaced in one half, with a pass for the new ones. -/
structure Rerouted (d : Device σ μ) (p : Path) (devices : DeviceSet) (on : Bool)
    (d' : Device σ μ) : Prop where
  line : ∀ q, d'.line q = d.line q
  mode : d'.routing.mode = d.routing.mode
  inCall : d'.routing.inCall = d.routing.inCall
  devices : d'.routing.devices = p.replace d.routing.devices (p.half devices)
  codec : d'.codec = d.codec.serve (p, .converge (d'.facts on))

/-- Routing to what is in use already, or to no output at all, changes nothing. -/
theorem rerouteOutput_of_not_reroutes [ModemLink μ] {d : Device σ μ} {devices : DeviceSet}
    (h : d.reroutes .output devices = false) (on : Bool) : d.rerouteOutput devices on = d := by
  unfold reroutes at h
  rw [Bool.not_eq_false'] at h
  unfold rerouteOutput
  exact if_pos h

theorem rerouteInput_of_not_reroutes {d : Device σ μ} {devices : DeviceSet}
    (h : d.reroutes .input devices = false) (on : Bool) : d.rerouteInput devices on = d := by
  unfold reroutes at h
  rw [Bool.not_eq_false'] at h
  unfold rerouteInput
  exact if_pos h

/-- A rerouting of playback is one pass, to the new devices. -/
theorem rerouted_output [ModemLink μ] {d : Device σ μ} {devices : DeviceSet}
    (h : d.reroutes .output devices = true) (on : Bool) :
    d.Rerouted .output devices on (d.rerouteOutput devices on) := by
  unfold reroutes at h
  rw [Bool.not_eq_true'] at h
  have hkeep :
      ¬(devices.outputs.isEmpty || devices.outputs == d.routing.devices.outputs) = true := by
    rw [Bool.not_eq_true]
    exact h
  unfold rerouteOutput
  simp only [if_neg hkeep]
  -- with or without a path for the modem
  split <;> exact ⟨fun q => by cases q <;> rfl, rfl, rfl, rfl, rfl⟩

/-- A rerouting of capture is one pass, to the new devices. -/
theorem rerouted_input {d : Device σ μ} {devices : DeviceSet}
    (h : d.reroutes .input devices = true) (on : Bool) :
    d.Rerouted .input devices on (d.rerouteInput devices on) := by
  unfold reroutes at h
  rw [Bool.not_eq_true'] at h
  have hkeep : ¬(devices.inputs.isEmpty || devices.inputs == d.routing.devices.inputs) = true := by
    rw [Bool.not_eq_true]
    exact h
  unfold rerouteInput
  simp only [if_neg hkeep]
  exact ⟨fun q => by cases q <;> rfl, rfl, rfl, rfl, rfl⟩

/-- Rerouting changes the devices. -/
theorem Rerouted.devices_ne {d d' : Device σ μ} {p : Path} {devices : DeviceSet} {on : Bool}
    (h : d.Rerouted p devices on d') (hreroutes : d.reroutes p devices = true) :
    d'.routing.devices ≠ d.routing.devices := by
  intro heq
  have hhalf : p.half d.routing.devices = p.half devices := by
    rw [← heq, h.devices, Path.half_replace_self, Path.half_half]
  simp [reroutes, hhalf] at hreroutes

/-! ## Calls -/

section

variable [ModemLink μ]

@[simp] theorem line_routeAll (d : Device σ μ) (p : Path) : d.routeAll.line p = d.line p := by
  simp [routeAll]

@[simp] theorem routing_routeAll (d : Device σ μ) : d.routeAll.routing = d.routing := by
  simp [routeAll]

/-- Routing everything passes over both paths with the state that each is in. -/
theorem codec_routeAll (d : Device σ μ) :
    d.routeAll.codec = d.codec.run
      [(.output, .converge (d.facts (d.line .output).on)),
        (.input, .converge (d.facts (d.line .input).on))] := by
  have hfacts : ∀ on on', (d.converge .output on).facts on' = d.facts on' := by
    intro on on'
    unfold facts
    rw [routing_converge]
  simp only [routeAll, codec_pushCallPath, codec_converge, hfacts, outputOn_eq, inputOn_eq,
    Codec.run_cons, Codec.run_nil]

/-- Both paths are in line after everything was routed. -/
theorem inLine_routeAll (d : Device σ μ) (p : Path) :
    (d.routeAll.codec.reconciler p).InLine (d.facts (d.line p).on) := by
  rw [codec_routeAll, Codec.run_cons, Codec.run_cons, Codec.run_nil]
  cases p with
  | output =>
    -- the pass over the capture path came last and left this one alone
    rw [Codec.reconciler_serve_of_ne _ (by decide)]
    exact Codec.inLine_serve_self _ .output _
  | input => exact Codec.inLine_serve_self _ .input _

end

section

variable [PcmDriver σ]

/-- The active playback stream goes into standby with one pass, if it was on. -/
theorem effect_standbyActiveOutput (d : Device σ μ) :
    d.Effect .output (d.line .output).standby (if (d.line .output).on then [false] else [])
      (match d.activeOutput? with
        | none => d
        | some i => d.standbyOutput i) := by
  unfold Line.standby Line.on
  rw [active_output]
  cases d.activeOutput? with
  | none => exact Effect.refl rfl
  | some i => exact effect_standbyOutput rfl i

/-- The active capture stream goes into standby with one pass, if it was on. -/
theorem effect_standbyActiveInput (d : Device σ μ) :
    d.Effect .input (d.line .input).standby (if (d.line .input).on then [false] else [])
      (match d.activeInput? with
        | none => d
        | some i => d.standbyInput i) := by
  unfold Line.standby Line.on
  rw [active_input]
  cases d.activeInput? with
  | none => exact Effect.refl rfl
  | some i => exact effect_standbyInput rfl i

/-- What standby of a stream keeps, standby of the active ones keeps. -/
theorem standbyAll_induction {P : Device σ μ → Prop} {d : Device σ μ} (start : P d)
    (output : ∀ e i, P e → P (e.standbyOutput i)) (input : ∀ e i, P e → P (e.standbyInput i)) :
    P d.standbyAll := by
  unfold standbyAll
  cases d.activeOutput? with
  | none =>
    dsimp only
    cases d.activeInput? with
    | none => exact start
    | some j => exact input d j start
  | some i =>
    have hd := output d i start
    dsimp only
    cases (d.standbyOutput i).activeInput? with
    | none => exact hd
    | some j => exact input _ j hd

section

variable {P : Device σ μ → Prop} {d : Device σ μ} {i : StreamId}

/-- What starting, the transfer and standby keep, a write keeps. -/
theorem writeOutput_induction {bytes : List UInt8} (start : P d)
    (ensure : ∀ s, d.heldOutput? i = some s → P (d.ensureOutput i).2)
    (write : ∀ s id d', d.heldOutput? i = some s → d.ensureOutput i = (.ok id, d') → P d' →
      P { d' with card := (PcmDriver.write id bytes
        (pace id (PcmDriver.patience id d'.card + 1) d'.card)).2 })
    (standby : ∀ e, P e → P (e.standbyOutput i)) : P (d.writeOutput i bytes).2 := by
  unfold writeOutput
  cases hheld : d.heldOutput? i with
  | none => exact start
  | some s =>
    have hensure := ensure s hheld
    simp only
    rcases hresult : d.ensureOutput i with ⟨e | id, d'⟩
    · rw [hresult] at hensure
      exact hensure
    · rw [hresult] at hensure
      have hwrite := write s id d' hheld hresult hensure
      simp only
      rcases hwritten : PcmDriver.write id bytes
        (pace id (PcmDriver.patience id d'.card + 1) d'.card) with ⟨e | u, card⟩
      · rw [hwritten] at hwrite
        exact standby _ hwrite
      · rw [hwritten] at hwrite
        exact hwrite

/-- What starting, the transfer, taking its samples and standby keep, a read keeps. -/
theorem readInput_induction {length : Nat} (start : P d)
    (ensure : ∀ s, d.heldInput? i = some s → P (d.ensureInput i s).2)
    (read : ∀ s c d', d.heldInput? i = some s → d.ensureInput i s = (.ok c, d') → P d' →
      P { d' with card := (readCapture s.config c length d'.card).2.2 })
    (take : ∀ s c d' answer c' card, d.heldInput? i = some s → d.ensureInput i s = (.ok c, d') →
      readCapture s.config c length d'.card = (answer, c', card) → P { d' with card } →
      P ({ d' with card }.setInput i (some c')))
    (standby : ∀ e, P e → P (e.standbyInput i)) : P (d.readInput i length).2 := by
  unfold readInput
  cases hheld : d.heldInput? i with
  | none => exact start
  | some s =>
    have hensure := ensure s hheld
    simp only
    rcases hresult : d.ensureInput i s with ⟨e | c, d'⟩
    · rw [hresult] at hensure
      exact hensure
    · rw [hresult] at hensure
      have hread := read s c d' hheld hresult hensure
      simp only
      rcases htaken : readCapture s.config c length d'.card with ⟨answer, c', card⟩
      rw [htaken] at hread
      have htake := take s c d' answer c' card hheld hresult htaken hread
      cases answer with
      | error e => exact standby _ htake
      | ok bytes => exact htake

end

/-- The passes of standby of the active streams: one over each path that is in use. -/
def standbyPasses (d : Device σ μ) : List (Path × Reconciler.Call) :=
  (if (d.line .output).on then [(.output, .converge (d.facts false))] else []) ++
    if (d.line .input).on then [(.input, .converge (d.facts false))] else []

/-- Every active stream in standby. -/
theorem standbyAll_spec (d : Device σ μ) :
    (∀ p, d.standbyAll.line p = (d.line p).standby) ∧ d.standbyAll.routing = d.routing ∧
      d.standbyAll.codec = d.codec.run d.standbyPasses := by
  have ho := d.effect_standbyActiveOutput
  have hi := effect_standbyActiveInput
    (match d.activeOutput? with
      | none => d
      | some i => d.standbyOutput i)
  have hinput := ho.other .input (by decide)
  refine ⟨fun p => ?_, hi.routing.trans ho.routing, ?_⟩
  · cases p with
    | output => exact (hi.other .output (by decide)).trans ho.line
    | input => exact hi.line.trans (by rw [hinput])
  · refine hi.codec.trans ?_
    rw [hinput, ho.codec, ← Codec.run_append]
    unfold standbyPasses facts
    rw [ho.routing]
    cases (d.line .output).on <;> cases (d.line .input).on <;> rfl

/-- The codec goes through the passes of both streams. -/
theorem reaches_standbyAll (d : Device σ μ) : d.codec.Reaches d.standbyAll.codec :=
  ⟨_, d.standbyAll_spec.2.2⟩

variable [ModemLink μ]

/-- What entering or leaving a call does to the paths: their active streams are in standby,
and both are in line. -/
structure Regrouped (d d' : Device σ μ) : Prop where
  line : ∀ p, d'.line p = (d.line p).standby
  inLine : ∀ p, (d'.codec.reconciler p).InLine (d'.facts (d'.line p).on)
  reaches : d.codec.Reaches d'.codec

/-- The start of a call passes over both paths once all streams are in standby. -/
theorem regrouped_enterCall (d : Device σ μ) : d.Regrouped d.enterCall := by
  obtain ⟨hline, -⟩ := d.standbyAll_spec
  have hreaches := d.reaches_standbyAll
  have hroute := d.standbyAll.enterCallDevices.codec_routeAll
  have hinLine := d.standbyAll.enterCallDevices.inLine_routeAll
  refine ⟨fun p => ?_, fun p => ?_, ?_⟩
  · simp [enterCall, hline]
  · simpa [enterCall, facts] using hinLine p
  · have hcodec : d.enterCall.codec = d.standbyAll.enterCallDevices.routeAll.codec := by
      simp [enterCall]
    rw [hcodec, hroute]
    exact hreaches.trans (Codec.reaches_run ..)

/-- The end of a call does so, too. -/
theorem regrouped_leaveCall (d : Device σ μ) : d.Regrouped d.leaveCall := by
  obtain ⟨hline, -⟩ := (d.setInCall false).stopLoop.standbyAll_spec
  have hreaches := (d.setInCall false).stopLoop.reaches_standbyAll
  have hroute := (d.setInCall false).stopLoop.standbyAll.codec_routeAll
  have hinLine := (d.setInCall false).stopLoop.standbyAll.inLine_routeAll
  refine ⟨fun p => ?_, fun p => ?_, ?_⟩
  · simp [leaveCall, hline]
  · simpa [leaveCall, facts] using hinLine p
  · have hcodec : d.leaveCall.codec = (d.setInCall false).stopLoop.standbyAll.routeAll.codec := by
      simp [leaveCall]
    rw [codec_stopLoop, codec_setInCall] at hreaches
    rw [hcodec, hroute]
    exact hreaches.trans (Codec.reaches_run ..)

theorem mode_enterCall (d : Device σ μ) : d.enterCall.routing.mode = d.routing.mode := by
  obtain ⟨-, hrouting, -⟩ := d.standbyAll_spec
  simp [enterCall, enterCallDevices, hrouting]

/-- A call that was entered runs, even if its loop did not start. -/
theorem inCall_enterCall (d : Device σ μ) : d.enterCall.routing.inCall = true := by
  simp [enterCall]

theorem routing_leaveCall (d : Device σ μ) :
    d.leaveCall.routing = { d.routing with inCall := false } := by
  obtain ⟨-, hrouting, -⟩ := (d.setInCall false).stopLoop.standbyAll_spec
  simp [leaveCall, hrouting]

end

end Device

end HandsetAudio
