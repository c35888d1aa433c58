import HandsetAudio.Proofs.Device.Conversation
import HandsetAudio.Proofs.Device.Paths

/-!
# The routing facts

The facts are a machine of their own: an operation changes them as `Routing.apply` says,
whatever the streams, the mixer, the card and the modem do meanwhile (`routing_step`). What
reaches them are raw masks, numbers of modes and parameter strings. Main statement:

> `facts_wellFormed`: throughout every run the devices are outputs and inputs, some of each,
> the call flag is up exactly in the call mode, and the call volume is the last one that was
> accepted. An operation changes the half of the devices that it reroutes; only the start of a
> call changes another one.
-/

namespace HandsetAudio

/-- The path whose half of the devices an operation asks to replace. -/
def Operation.reroutes? : Operation → Option Path
  | .routeOutput _ | .setOutputParameters .. => some .output
  | .setInputParameters .. => some .input
  | _ => none

/-- The call volume that an operation sets; it must lie between 0 and 1. -/
def Operation.volume? : Operation → Option Float32
  | .setVoiceVolume v => if 0.0 ≤ v ∧ v ≤ 1.0 then some v else none
  | _ => none

namespace Routing

/-- The devices are outputs and inputs, there are some of each, and a call is up exactly in
the call mode. -/
structure WellFormed (r : Routing) : Prop where
  devices : r.devices ⊆ DeviceSet.allOutputs ∪ DeviceSet.allInputs
  half : ∀ p : Path, (p.half r.devices).isEmpty = false
  call : r.inCall = true ↔ r.mode = .inCall

theorem wellFormed_default : ({} : Routing).WellFormed := by
  refine ⟨by decide, ?_, by decide⟩
  intro p
  cases p <;> decide

end Routing

/-- Every turn of the facts leaves them well-formed. -/
theorem Turn.wellFormed {steps : UInt32} {r r' : Routing} {rs : List ModemRequest}
    (h : Turn steps r r' rs) (hr : r.WellFormed) : r'.WellFormed := by
  have hcall := h.inCall_iff hr.call
  have hout := h.outputs_isEmpty (hr.half .output)
  cases h with
  | still | micMute | voiceVolume | nrec | mode | leave => exact ⟨hr.devices, hr.half, hcall⟩
  | outputs s hsome hother =>
    refine ⟨Path.replace_subset .output hr.devices _, ?_, hcall⟩
    intro p
    cases p with
    | output => exact hout
    | input =>
      show (r.devices.withOutputs s.outputs).inputs.isEmpty = false
      rw [DeviceSet.inputs_withOutputs]
      exact hr.half .input
  | inputs s hsome hother =>
    refine ⟨Path.replace_subset .input hr.devices _, ?_, hcall⟩
    intro p
    cases p with
    | output => exact hout
    | input =>
      have hhalf := Path.half_replace_self .input r.devices (Path.half .input s)
      rw [Path.half_half] at hhalf
      show (Path.half .input (Path.replace .input r.devices (Path.half .input s))).isEmpty = false
      rw [hhalf]
      exact hsome
  | enter hmode hidle =>
    refine ⟨DeviceSet.callEntry_subset hr.devices, ?_, hcall⟩
    intro p
    cases p with
    | output => exact hout
    | input => exact DeviceSet.callEntry_inputs (hr.half .input)

/-! ## The facts as a machine of their own -/

namespace Routing

/-- The facts after a path was asked to serve some devices; an empty or unchanged half is
ignored. -/
def route (r : Routing) (p : Path) (devices : DeviceSet) : Routing :=
  if (p.half devices).isEmpty || p.half devices == p.half r.devices then r
  else { r with devices := p.replace r.devices (p.half devices) }

/-- The facts after the mode was chosen; a call that starts leaves the loudspeaker. -/
def select (r : Routing) (m : Mode) : Routing :=
  if r.mode = m then r
  else if m = .inCall then
    if r.inCall then { r with mode := m }
    else { r with mode := m, devices := r.devices.callEntry, inCall := true }
  else { r with mode := m, inCall := false }

/-- The facts after an operation was done. -/
def apply (r : Routing) : Operation → Routing
  | .setMode code => (Mode.ofCode? code).elim r r.select
  | .setVoiceVolume v => if 0.0 ≤ v ∧ v ≤ 1.0 then { r with voiceVolume := v } else r
  | .setMicMute on => { r with micMute := on }
  | .setParameters text =>
    ((Params.parse text).get? Params.nrecKey).elim r fun value =>
      { r with nrec := value == Params.onValue }
  | .routeOutput devices => r.route .output devices
  | .setOutputParameters _ text => (Device.routedDevices? text).elim r (r.route .output)
  | .setInputParameters _ text => (Device.routedDevices? text).elim r (r.route .input)
  | _ => r

variable (r : Routing)

/-- Routing one path leaves the half of the other as it is. -/
theorem half_route_of_ne {p q : Path} (h : q ≠ p) (devices : DeviceSet) :
    q.half (r.route p devices).devices = q.half r.devices := by
  unfold route
  split
  next => rfl
  next => exact Path.half_replace_of_ne h r.devices _

@[simp] theorem voiceVolume_route (p : Path) (devices : DeviceSet) :
    (r.route p devices).voiceVolume = r.voiceVolume := by
  unfold route
  split <;> rfl

@[simp] theorem voiceVolume_select (m : Mode) : (r.select m).voiceVolume = r.voiceVolume := by
  unfold select
  split
  next => rfl
  next =>
    split
    next => split <;> rfl
    next => rfl

/-- Choosing a mode changes devices only where a call starts. -/
theorem entersCall_select {m : Mode} (h : (r.select m).devices ≠ r.devices) :
    r.entersCall (r.select m) = true := by
  unfold select at h ⊢
  split at h
  next => exact absurd rfl h
  next hother =>
    rw [if_neg hother]
    split at h
    next hmode =>
      rw [if_pos hmode]
      split at h
      next => exact absurd rfl h
      next hidle =>
        rw [if_neg hidle]
        simp [entersCall, ← hmode, hother]
    next => exact absurd rfl h

/-- An operation that reroutes a path routes it to some devices, or does nothing. -/
theorem apply_of_reroutes {op : Operation} {p : Path} (h : op.reroutes? = some p) :
    r.apply op = r ∨ ∃ devices, r.apply op = r.route p devices := by
  cases op with
  | routeOutput devices =>
    obtain rfl := Option.some.inj h
    exact .inr ⟨devices, rfl⟩
  | setOutputParameters i text =>
    obtain rfl := Option.some.inj h
    simp only [apply]
    cases Device.routedDevices? text with
    | none => exact .inl rfl
    | some devices => exact .inr ⟨devices, rfl⟩
  | setInputParameters i text =>
    obtain rfl := Option.some.inj h
    simp only [apply]
    cases Device.routedDevices? text with
    | none => exact .inl rfl
    | some devices => exact .inr ⟨devices, rfl⟩
  | _ => cases h

/-- Rerouting keeps the mode. -/
theorem mode_apply_of_reroutes {op : Operation} {p : Path} (h : op.reroutes? = some p) :
    (r.apply op).mode = r.mode := by
  rcases r.apply_of_reroutes h with hsame | ⟨devices, hroute⟩
  · rw [hsame]
  · rw [hroute, route]
    split <;> rfl

/-- An operation stores the volume that it sets and keeps the stored one otherwise. -/
theorem voiceVolume_apply (op : Operation) :
    (r.apply op).voiceVolume = op.volume?.getD r.voiceVolume := by
  cases hop : op.reroutes? with
  | some p =>
    have hnone : op.volume? = none := by
      cases op with
      | setVoiceVolume v => cases hop
      | _ => rfl
    rw [hnone]
    rcases r.apply_of_reroutes hop with hsame | ⟨devices, hroute⟩
    · rw [hsame]
      rfl
    · rw [hroute, voiceVolume_route]
      rfl
  | none =>
    cases op with
    | routeOutput | setOutputParameters | setInputParameters => cases hop
    | setVoiceVolume v =>
      simp only [apply, Operation.volume?]
      split <;> rfl
    | setMode code =>
      simp only [apply]
      cases Mode.ofCode? code with
      | none => rfl
      | some m => exact r.voiceVolume_select m
    | setParameters text =>
      simp only [apply]
      cases (Params.parse text).get? Params.nrecKey <;> rfl
    | _ => rfl

/-- A half that an operation changes is the one that it reroutes, unless a call starts. -/
theorem half_apply {op : Operation} {p : Path}
    (h : p.half (r.apply op).devices ≠ p.half r.devices) :
    op.reroutes? = some p ∨ r.entersCall (r.apply op) = true := by
  cases hop : op.reroutes? with
  | some q =>
    refine .inl (congrArg some ?_)
    by_contra hne
    apply h
    rcases r.apply_of_reroutes hop with hsame | ⟨devices, hroute⟩
    · rw [hsame]
    · rw [hroute, r.half_route_of_ne fun heq => hne heq.symm]
  | none =>
    -- of the other operations only a change of the mode can replace devices
    cases op with
    | routeOutput | setOutputParameters | setInputParameters => cases hop
    | setMode code =>
      simp only [apply] at h ⊢
      cases hcode : Mode.ofCode? code with
      | none =>
        rw [hcode] at h
        exact absurd rfl h
      | some m =>
        rw [hcode] at h
        exact .inr (r.entersCall_select fun heq => h (congrArg p.half heq))
    | setVoiceVolume v =>
      simp only [apply] at h
      split at h <;> exact absurd rfl h
    | setParameters text =>
      simp only [apply] at h
      cases hvalue : (Params.parse text).get? Params.nrecKey <;> rw [hvalue] at h <;>
        exact absurd rfl h
    | _ => exact absurd rfl h

end Routing

namespace Device

variable {σ μ : Type}

/-- Rerouting changes the facts alike on both paths. -/
theorem routing_rerouteInput (d : Device σ μ) (devices : DeviceSet) (on : Bool) :
    (d.rerouteInput devices on).routing = d.routing.route .input devices := by
  unfold rerouteInput
  exact apply_ite Device.routing _ _ _

variable [ModemLink μ]

theorem routing_rerouteOutput (d : Device σ μ) (devices : DeviceSet) (on : Bool) :
    (d.rerouteOutput devices on).routing = d.routing.route .output devices := by
  unfold rerouteOutput
  refine (apply_ite Device.routing _ _ _).trans ?_
  -- with or without a path for the modem
  have hpush : ∀ e : Device σ μ, (if e.routing.inCall then e.pushCallPath else e).routing =
      e.routing := by
    intro e
    split <;> rfl
  simp only [hpush]
  rfl

theorem routing_setParameters (d : Device σ μ) (text : String) :
    (d.setParameters text).routing = d.routing.apply (.setParameters text) := by
  simp only [setParameters, Routing.apply]
  cases (Params.parse text).get? Params.nrecKey with
  | none => rfl
  | some value =>
    simp only
    split
    next hsame => simp [← hsame]
    next => split <;> rfl

theorem routing_setVoiceVolume (d : Device σ μ) (v : Float32) :
    (d.setVoiceVolume v).2.routing = d.routing.apply (.setVoiceVolume v) := by
  simp only [setVoiceVolume, Routing.apply]
  split
  next => simp only; split <;> rfl
  next => rfl

variable [PcmDriver σ]

theorem routing_setMode (d : Device σ μ) (m : Mode) :
    (d.setMode m).routing = d.routing.select m := by
  unfold setMode Routing.select
  split
  next => rfl
  next =>
    split
    next =>
      simp only
      split
      next => rfl
      next => exact routing_enterCall _
    next =>
      simp only
      split
      next => exact routing_leaveCall _
      next hidle => simp [hidle]

/-- **One operation** changes the facts as it says, unless it is for a stream that no client
has. -/
theorem routing_step (d : Device σ μ) (op : Operation) :
    (d.step op).2.routing =
      if op.uses?.all (fun s => (d.line s.1).held s.2) then d.routing.apply op else d.routing := by
  -- what streams do leaves the facts as they are
  have hgate : ∀ {d' : Device σ μ} (b : Bool), d.SameCall d' →
      (if b then d' else d).routing = d.routing := fun b h => (SameCall.gate b h).routing
  cases op with
  | check | setMasterVolume | micMute | parameters | captureBuffer | setMicMute => rfl
  | isStandbyOutput i | outputParameters i | setOutputVolume i | renderPosition i | latency i =>
    simp only [step, onOutput_snd, ite_self]
    exact (ite_self _).symm
  | isStandbyInput i | inputParameters i | setInputGain i | lostFrames i =>
    simp only [step, onInput_snd, ite_self]
    exact (ite_self _).symm
  | setMode code =>
    simp only [step]
    show _ = d.routing.apply (.setMode code)
    simp only [Routing.apply]
    cases Mode.ofCode? code with
    | none => rfl
    | some m => exact d.routing_setMode m
  | setVoiceVolume v =>
    rw [step_setVoiceVolume_snd]
    exact d.routing_setVoiceVolume v
  | setParameters text => exact d.routing_setParameters text
  | routeOutput devices => exact d.routing_rerouteOutput devices _
  | openOutput _ =>
    rw [step_openOutput_snd]
    exact d.sameCall_openOutput.routing
  | openInput _ format =>
    rw [step_openInput_snd]
    exact (d.sameCall_openInput format).routing
  | closeOutput i =>
    simp only [step, onOutput_snd]
    exact hgate _ (d.sameCall_closeOutput i)
  | closeInput i =>
    simp only [step, onInput_snd]
    exact hgate _ (d.sameCall_closeInput i)
  | dropOutput i =>
    simp only [step, onOutput_snd]
    exact hgate _ (d.sameCall_dropOutput i)
  | dropInput i =>
    simp only [step, onInput_snd]
    exact hgate _ (d.sameCall_dropInput i)
  | write i bytes =>
    rw [step_write_snd, (d.sameCall_writeOutput i bytes).routing]
    exact (ite_self _).symm
  | read i length =>
    rw [step_read_snd, (d.sameCall_readInput i length).routing]
    exact (ite_self _).symm
  | standbyOutput i =>
    simp only [step, onOutput_snd]
    rw [hgate _ (d.sameCall_standbyOutput i)]
    exact (ite_self _).symm
  | standbyInput i =>
    simp only [step, onInput_snd]
    rw [hgate _ (d.sameCall_standbyInput i)]
    exact (ite_self _).symm
  | setOutputParameters i text =>
    simp only [step, onOutput_snd]
    refine (apply_ite Device.routing _ _ _).trans ?_
    simp only [Operation.uses?, Option.all_some, Routing.apply, setOutputParameters]
    cases routedDevices? text with
    | none => rfl
    | some devices =>
      simp only [routing_rerouteOutput]
      rfl
  | setInputParameters i text =>
    simp only [step, onInput_snd]
    refine (apply_ite Device.routing _ _ _).trans ?_
    simp only [Operation.uses?, Option.all_some, Routing.apply, setInputParameters]
    cases routedDevices? text with
    | none => rfl
    | some devices =>
      simp only [routing_rerouteInput]
      rfl

/-- An operation stores the volume that it sets. -/
theorem voiceVolume_step (d : Device σ μ) (op : Operation) :
    (d.step op).2.routing.voiceVolume = op.volume?.getD d.routing.voiceVolume := by
  rw [routing_step]
  split
  next => exact d.routing.voiceVolume_apply op
  next hunused =>
    -- an operation on a stream sets no volume
    cases op with
    | setVoiceVolume v => exact absurd rfl hunused
    | _ => rfl

/-- A half that an operation changes is the one that it reroutes, unless a call starts. -/
theorem half_step (d : Device σ μ) {op : Operation} {p : Path}
    (h : p.half (d.step op).2.routing.devices ≠ p.half d.routing.devices) :
    op.reroutes? = some p ∨ d.routing.entersCall (d.step op).2.routing = true := by
  rw [routing_step] at h ⊢
  split at h
  next hheld =>
    rw [if_pos hheld]
    exact d.routing.half_apply h
  next => exact absurd rfl h

/-- Rerouting keeps the mode. -/
theorem mode_of_reroutes (d : Device σ μ) {op : Operation} {p : Path}
    (h : op.reroutes? = some p) : (d.step op).2.routing.mode = d.routing.mode := by
  rw [routing_step]
  split
  next => exact d.routing.mode_apply_of_reroutes h
  next => rfl

/-! ## Runs -/

/-- The call volume that an event sets. -/
def Event.volume? : Event σ μ → Option Float32
  | .operation op => op.volume?
  | _ => none

/-- A fact that events set, and that nothing else changes, is what it was set to last. -/
theorem play_lastSet {α : Type} (fact : Routing → α) {set? : Event σ μ → Option α}
    (hset : ∀ (d : Device σ μ) e, fact (d.happen e).routing = (set? e).getD (fact d.routing))
    (d : Device σ μ) (events : List (Event σ μ)) : fact (d.play events).routing =
      (events.filterMap set?).getLast?.getD (fact d.routing) := by
  induction events using List.reverseRecOn with
  | nil => rfl
  | append_singleton events e ih =>
    rw [play_concat, hset, ih, List.filterMap_append, List.getLast?_append]
    cases he : set? e <;> simp [he]

/-- The stored call volume is the one that was set last. -/
theorem voiceVolume_play (d : Device σ μ) (events : List (Event σ μ)) :
    (d.play events).routing.voiceVolume =
      (events.filterMap Event.volume?).getLast?.getD d.routing.voiceVolume :=
  play_lastSet Routing.voiceVolume (fun d e => by
    cases e with
    | operation op => exact d.voiceVolume_step op
    | card | modem => rfl) d events

/-- **Routing facts**: in every run of an open device, whatever masks, numbers and texts reach
it, the facts are well-formed, and the call volume is the default or the last one that was
accepted. Rerouting one path leaves the half of the other as it is; a half changes only where
it is rerouted or a call starts, and both change only where a call starts. -/
theorem facts_wellFormed {config : Config} {mixer : Mixer} {card : σ} {link : μ}
    {d₀ : Device σ μ} (hopen : Device.acquire config mixer card link = .ok d₀)
    (events : List (Event σ μ)) :
    let d := d₀.play events
    d.routing.WellFormed ∧
      d.routing.voiceVolume = (events.filterMap Event.volume?).getLast?.getD 1.0 ∧
      ∀ op : Operation,
        let changes (p : Path) : Prop :=
          p.half (d.step op).2.routing.devices ≠ p.half d.routing.devices
        (∀ p q, op.reroutes? = some p → q ≠ p → ¬changes q) ∧
          (∀ p, changes p →
            op.reroutes? = some p ∨ d.routing.entersCall (d.step op).2.routing = true) ∧
          ((∀ p, changes p) → d.routing.entersCall (d.step op).2.routing = true) := by
  intro d
  have hdefault : d₀.routing = {} := (acquire_spec hopen).1
  refine ⟨?_, ?_, ?_⟩
  · apply routing_play Turn.wellFormed _ events
    rw [hdefault]
    exact Routing.wellFormed_default
  · have hvolume := d₀.voiceVolume_play events
    rw [hdefault] at hvolume
    exact hvolume
  · intro op changes
    have hchanges : ∀ p, changes p →
        op.reroutes? = some p ∨ d.routing.entersCall (d.step op).2.routing = true :=
      fun p => d.half_step
    refine ⟨?_, hchanges, ?_⟩
    · intro p q hop hne hq
      rcases hchanges q hq with hsame | henters
      · rw [hop] at hsame
        exact hne (Option.some.inj hsame).symm
      · -- a rerouting keeps the mode, so no call starts
        have hmode : (d.step op).2.routing.mode = d.routing.mode := d.mode_of_reroutes hop
        rw [Routing.entersCall_of_mode hmode] at henters
        cases henters
    · intro hboth
      rcases hchanges .output (hboth .output) with hout | henters
      · rcases hchanges .input (hboth .input) with hin | henters
        · rw [hout] at hin
          cases hin
        · exact henters
      · exact henters

/-- A call entered from the loudspeaker and a far-off microphone, both asked for with masks
that name more than this hardware has. -/
theorem facts_wellFormed_from_speaker :
    let events : List (Event SoftCard ModemRecorder) := [
      .operation (.setVoiceVolume 0.5),
      .operation (.setVoiceVolume 2.0),
      .operation (.routeOutput ⟨0xFFFF0001⟩),
      .operation (.routeOutput ⟨0x7F000002⟩),
      .operation (.openInput ⟨0xFFFFFFFF⟩ { rate := 8000, channels := 1 }),
      .operation (.setInputParameters 0 "routing=-2143289344")]
    let d := inSoftware.play events
    Device.acquire {} .ofTables {} {} = .ok inSoftware ∧ d.routing.WellFormed ∧
      d.routing.devices = ⟨0x80400002⟩ ∧ d.routing.voiceVolume = 0.5 ∧
      (d.step (.setMode 2)).2.routing.devices = .earpiece ∪ .builtinMic ∧
      d.routing.entersCall (d.step (.setMode 2)).2.routing = true := by
  intro events d
  obtain ⟨hwellFormed, hvolume, hchanges⟩ := facts_wellFormed acquire_inSoftware events
  have hbefore : d.routing.devices = ⟨0x80400002⟩ := by decide +kernel
  have hafter : (d.step (.setMode 2)).2.routing.devices = .earpiece ∪ .builtinMic := by
    decide +kernel
  have hset : events.filterMap Event.volume? = [0.5] := by rfl
  refine ⟨acquire_inSoftware, hwellFormed, hbefore, ?_, hafter, ?_⟩
  · rw [hvolume, hset]
    rfl
  · apply (hchanges (.setMode 2)).2.2
    intro p
    rw [hafter, hbefore]
    cases p <;> decide

end Device

end HandsetAudio
