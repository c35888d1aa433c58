import HandsetAudio.Proofs.Device.Runs
import HandsetAudio.Proofs.Modem.Requests
import HandsetAudio.Proofs.Pcm.Loop

/-!
# What an operation says to the modem

The modem hears of an operation only where the routing facts change, and what it hears is
decided by that change. `Turn` lists the changes with their requests; streams can open,
run and fail as they like without one (`SameCall`). Main statement:

> `step_turns`: every operation makes one turn, and the modem client sends its requests in
> order and nothing else.
> `play_talk`: a run makes a chain of turns (`Talk`) as long as the modem is left alone.

What holds of the facts and the modem along a run is therefore a matter of nine cases. Two
that hold of the facts in every run: a call is up exactly in the call mode
(`inCall_iff_play`), and there is an output (`outputs_play`).
-/

namespace HandsetAudio

/-- A change of the routing facts, with what it makes the device say to a modem of `steps`
volume levels. -/
inductive Turn (steps : UInt32) (r : Routing) : Routing → List ModemRequest → Prop where
  /-- Nothing changes. -/
  | still : Turn steps r r []
  | micMute (on : Bool) : Turn steps r { r with micMute := on } []
  | voiceVolume (v : Float32) (hrange : 0.0 ≤ v ∧ v ≤ 1.0) :
    Turn steps r { r with voiceVolume := v }
      (if r.mode = .inCall then [.volume r.soundCurve (volumeLevel v steps)] else [])
  | nrec (b : Bool) (hother : r.nrec ≠ b) :
    Turn steps r { r with nrec := b }
      (if r.inCall then [.path ({ r with nrec := b } : Routing).callPath] else [])
  | outputs (s : DeviceSet) (hsome : s.outputs.isEmpty = false)
    (hother : s.outputs ≠ r.devices.outputs) :
    Turn steps r { r with devices := r.devices.withOutputs s.outputs }
      (if r.inCall then
        [.path ({ r with devices := r.devices.withOutputs s.outputs } : Routing).callPath] else [])
  | inputs (s : DeviceSet) (hsome : s.inputs.isEmpty = false)
    (hother : s.inputs ≠ r.devices.inputs) :
    Turn steps r { r with devices := r.devices.withInputs s.inputs } []
  /-- The mode changes, but no call starts or ends. -/
  | mode (m : Mode) (hother : r.mode ≠ m) (hcall : r.inCall = true ↔ m = .inCall) :
    Turn steps r { r with mode := m } []
  /-- A call starts. -/
  | enter (hmode : r.mode ≠ .inCall) (hcall : r.inCall = false) :
    Turn steps r { r with mode := .inCall, devices := r.devices.callEntry, inCall := true }
      [.path (r.devices.callEntry.callPath r.nrec), .clock .start,
        .volume r.devices.callEntry.soundCurve (volumeLevel r.voiceVolume steps)]
  /-- A call ends. -/
  | leave (m : Mode) (hother : r.mode ≠ m) (hmode : m ≠ .inCall) (hcall : r.inCall = true) :
    Turn steps r { r with mode := m, inCall := false } [.path r.callPath]

namespace Turn

variable {steps : UInt32} {r r' : Routing} {rs : List ModemRequest}

/-- A call is up exactly in the call mode. -/
theorem inCall_iff (h : Turn steps r r' rs) (hr : r.inCall = true ↔ r.mode = .inCall) :
    r'.inCall = true ↔ r'.mode = .inCall := by
  cases h with
  | still | micMute | voiceVolume | nrec | outputs | inputs => exact hr
  | mode m hother hcall => exact hcall
  | enter => exact ⟨fun _ => rfl, fun _ => rfl⟩
  | leave m hother hmode => exact ⟨fun h => (nomatch h), fun h => absurd h hmode⟩

/-- There is an output to play on. -/
theorem outputs_isEmpty (h : Turn steps r r' rs) (hr : r.devices.outputs.isEmpty = false) :
    r'.devices.outputs.isEmpty = false := by
  cases h with
  | still | micMute | voiceVolume | nrec | mode | leave => exact hr
  | outputs s hsome =>
    rw [DeviceSet.outputs_withOutputs, DeviceSet.outputs_outputs]
    exact hsome
  | inputs s =>
    rw [DeviceSet.outputs_withInputs]
    exact hr
  | enter => exact DeviceSet.callEntry_outputs hr

end Turn

/-- Turns one after the other, with everything that was said. -/
inductive Talk (steps : UInt32) (r : Routing) : Routing → List ModemRequest → Prop where
  | nil : Talk steps r r []
  | concat {r' r'' : Routing} {rs rs' : List ModemRequest} (htalk : Talk steps r r' rs)
    (hturn : Turn steps r' r'' rs') : Talk steps r r'' (rs ++ rs')

namespace Device

variable {σ μ : Type}

/-! ## Streams say nothing -/

/-- What belongs to calls is as it was: facts, modem and voice loop. -/
structure SameCall (d d' : Device σ μ) : Prop where
  config : d'.config = d.config
  routing : d'.routing = d.routing
  modem : d'.modem = d.modem
  loop : d'.loop = d.loop

theorem SameCall.refl (d : Device σ μ) : d.SameCall d := ⟨rfl, rfl, rfl, rfl⟩

theorem SameCall.trans {d d' d'' : Device σ μ} (h : d.SameCall d') (h' : d'.SameCall d'') :
    d.SameCall d'' :=
  ⟨h'.config.trans h.config, h'.routing.trans h.routing, h'.modem.trans h.modem,
    h'.loop.trans h.loop⟩

theorem SameCall.gate {d d' : Device σ μ} (b : Bool) (h : d.SameCall d') :
    d.SameCall (if b then d' else d) := by
  cases b with
  | true => exact h
  | false => exact .refl d

/-- A pass leaves the call and its loop alone. -/
theorem sameCall_converge (d : Device σ μ) (p : Path) (on : Bool) :
    d.SameCall (d.converge p on) := by
  cases p <;> exact ⟨rfl, rfl, rfl, rfl⟩

theorem sameCall_convergeAll (d : Device σ μ) :
    d.SameCall ((d.converge .output d.outputOn).converge .input d.inputOn) :=
  (d.sameCall_converge .output d.outputOn).trans (sameCall_converge _ .input d.inputOn)

theorem sameCall_forgetOutput (d : Device σ μ) (i : StreamId) : d.SameCall (d.forgetOutput i) := by
  unfold forgetOutput
  split <;> exact ⟨rfl, rfl, rfl, rfl⟩

theorem sameCall_forgetInput (d : Device σ μ) (i : StreamId) : d.SameCall (d.forgetInput i) := by
  unfold forgetInput
  split <;> exact ⟨rfl, rfl, rfl, rfl⟩

theorem sameCall_openOutput (d : Device σ μ) : d.SameCall d.openOutput.2 := by
  unfold openOutput
  split <;> exact ⟨rfl, rfl, rfl, rfl⟩

theorem sameCall_openInput (d : Device σ μ) (format : StreamFormat) :
    d.SameCall (d.openInput format).2 := by
  unfold openInput
  split
  next => exact .refl d
  next => split <;> exact ⟨rfl, rfl, rfl, rfl⟩

section

variable [PcmDriver σ] (d : Device σ μ)

theorem sameCall_dropOutput (i : StreamId) : d.SameCall (d.dropOutput i) := ⟨rfl, rfl, rfl, rfl⟩

theorem sameCall_dropInput (i : StreamId) : d.SameCall (d.dropInput i) := ⟨rfl, rfl, rfl, rfl⟩

/-- Standby leaves them alone, too. -/
theorem sameCall_standbyOutput (i : StreamId) : d.SameCall (d.standbyOutput i) := by
  unfold standbyOutput
  split <;> exact ⟨rfl, rfl, rfl, rfl⟩

theorem sameCall_standbyInput (i : StreamId) : d.SameCall (d.standbyInput i) := by
  unfold standbyInput
  split <;> exact ⟨rfl, rfl, rfl, rfl⟩

theorem sameCall_closeOutput (i : StreamId) : d.SameCall (d.closeOutput i) :=
  (d.sameCall_standbyOutput i).trans (sameCall_forgetOutput _ i)

theorem sameCall_closeInput (i : StreamId) : d.SameCall (d.closeInput i) :=
  (d.sameCall_standbyInput i).trans (sameCall_forgetInput _ i)

/-- So does a start, whether it fails or not. -/
theorem sameCall_ensureOutput (i : StreamId) : d.SameCall (d.ensureOutput i).2 := by
  unfold ensureOutput
  split
  next => exact .refl d
  next =>
    unfold startOutput
    simp only
    split <;> exact ⟨rfl, rfl, rfl, rfl⟩

theorem sameCall_ensureInput (i : StreamId) (s : InputStream) :
    d.SameCall (d.ensureInput i s).2 := by
  unfold ensureInput
  split
  next => exact .refl d
  next =>
    unfold startInput
    simp only
    split <;> exact ⟨rfl, rfl, rfl, rfl⟩

theorem sameCall_writeOutput (i : StreamId) (bytes : List UInt8) :
    d.SameCall (d.writeOutput i bytes).2 :=
  writeOutput_induction (.refl d) (fun _ _ => d.sameCall_ensureOutput i)
    (fun _ _ _ _ _ h => h.trans ⟨rfl, rfl, rfl, rfl⟩)
    (fun e h => h.trans (e.sameCall_standbyOutput i))

theorem sameCall_readInput (i : StreamId) (length : Nat) :
    d.SameCall (d.readInput i length).2 :=
  readInput_induction (.refl d) (fun s _ => d.sameCall_ensureInput i s)
    (fun _ _ _ _ _ h => h.trans ⟨rfl, rfl, rfl, rfl⟩)
    (fun _ _ _ _ _ _ _ _ _ h => h.trans ⟨rfl, rfl, rfl, rfl⟩)
    (fun e h => h.trans (e.sameCall_standbyInput i))

theorem sameCall_standbyAll : d.SameCall d.standbyAll :=
  standbyAll_induction (.refl d) (fun e i h => h.trans (e.sameCall_standbyOutput i))
    (fun e i h => h.trans (e.sameCall_standbyInput i))

end

/-! ## What is said where -/

section

variable (d : Device σ μ)

@[simp] theorem modem_note (text : String) : (d.note text).modem = d.modem := rfl
@[simp] theorem modem_setInCall (on : Bool) : (d.setInCall on).modem = d.modem := rfl
@[simp] theorem modem_enterCallDevices : d.enterCallDevices.modem = d.modem := rfl

@[simp] theorem modem_converge (p : Path) (on : Bool) : (d.converge p on).modem = d.modem :=
  (d.sameCall_converge p on).modem

@[simp] theorem modem_startLoop [PcmDriver σ] : d.startLoop.modem = d.modem := by
  unfold startLoop
  split <;> rfl

@[simp] theorem modem_stopLoop [PcmDriver σ] : d.stopLoop.modem = d.modem := rfl

variable [ModemLink μ]

@[simp] theorem modem_send (r : ModemRequest) : (d.send r).modem = (d.modem.send r).2 := rfl

@[simp] theorem modem_pushCallPath :
    d.pushCallPath.modem = (d.modem.send (.path d.routing.callPath)).2 := rfl

@[simp] theorem modem_pushVoiceVolume :
    d.pushVoiceVolume.modem =
      (d.modem.send (.volume d.routing.soundCurve
        (volumeLevel d.routing.voiceVolume d.modem.volumeSteps))).2 := rfl

@[simp] theorem modem_routeAll :
    d.routeAll.modem = (d.modem.send (.path d.routing.callPath)).2 := by
  simp [routeAll]

@[simp] theorem loop_routeAll : d.routeAll.loop = d.loop := d.sameCall_convergeAll.loop

@[simp] theorem config_routeAll : d.routeAll.config = d.config := d.sameCall_convergeAll.config

end

section

variable [PcmDriver σ] [ModemLink μ]

/-- The facts of a call that starts. -/
theorem routing_enterCall (d : Device σ μ) :
    d.enterCall.routing =
      { d.routing with devices := d.routing.devices.callEntry, inCall := true } := by
  simp [enterCall, enterCallDevices, d.sameCall_standbyAll.routing]

/-- What a call that starts has to say. -/
theorem modem_enterCall (d : Device σ μ) :
    d.enterCall.modem = d.modem.sendAll
      [.path (d.routing.devices.callEntry.callPath d.routing.nrec), .clock .start,
        .volume d.routing.devices.callEntry.soundCurve
          (volumeLevel d.routing.voiceVolume d.modem.volumeSteps)] := by
  simp [enterCall, enterCallDevices, d.sameCall_standbyAll.routing, d.sameCall_standbyAll.modem,
    Routing.callPath, Routing.soundCurve]

/-- What a call that ends has to say. -/
theorem modem_leaveCall (d : Device σ μ) :
    d.leaveCall.modem = d.modem.sendAll [.path d.routing.callPath] := by
  have hsame := (d.setInCall false).stopLoop.sameCall_standbyAll
  simp [leaveCall, hsame.routing, hsame.modem, Routing.callPath]

omit [ModemLink μ] in
/-- The device has the voice loop that a start leaves. -/
theorem loop_startLoop (d : Device σ μ) :
    d.startLoop.loop = (d.loop.start d.config.card d.card).2.1 := by
  unfold startLoop
  split
  next hresult => rw [hresult]
  next hresult => rw [note, hresult]

/-- A call starts with a whole voice loop or with none. -/
theorem loop_enterCall (d : Device σ μ) :
    d.enterCall.loop.isActive = true ∨ d.enterCall.loop = {} := by
  let e := d.standbyAll.enterCallDevices.routeAll
  have hstart : d.enterCall.loop = e.startLoop.loop := rfl
  rw [hstart, loop_startLoop]
  rcases e.loop.start_cases e.config.card e.card with ⟨-, down, up, hloop⟩ | ⟨-, hloop⟩
  · exact .inl (by rw [hloop]; rfl)
  · exact .inr hloop

/-- No voice loop is left when a call ends. -/
theorem loop_leaveCall (d : Device σ μ) : d.leaveCall.loop = {} := by
  have hrested := (d.setInCall false).stopLoop.sameCall_standbyAll.loop
  exact (loop_routeAll _).trans hrested

end

/-! ## One operation -/

section

variable [ModemLink μ] {d d' : Device σ μ}

/-- The facts make one turn from `d` to `d'`, and the modem client sends its requests. The
voice loop is touched by turns into a call and out of it only; it is whole after that, or
gone, and after the latter it is gone. -/
structure Turns (d d' : Device σ μ) : Prop where
  said : ∃ rs, Turn d.modem.volumeSteps d.routing d'.routing rs ∧ d'.modem = d.modem.sendAll rs
  loop : (d'.loop = d.loop ∧ d'.routing.inCall = d.routing.inCall) ∨
    (d'.routing.inCall = true ∧ d'.loop.isActive = true) ∨ d'.loop = {}

/-- A turn that leaves the voice loop alone. -/
theorem Turns.aside {rs : List ModemRequest}
    (hturn : Turn d.modem.volumeSteps d.routing d'.routing rs)
    (hmodem : d'.modem = d.modem.sendAll rs) (hloop : d'.loop = d.loop)
    (hcall : d'.routing.inCall = d.routing.inCall) : d.Turns d' :=
  ⟨⟨rs, hturn, hmodem⟩, .inl ⟨hloop, hcall⟩⟩

theorem Turns.of_sameCall (h : d.SameCall d') : d.Turns d' := by
  have hstill : Turn d.modem.volumeSteps d.routing d'.routing [] := by
    rw [h.routing]
    exact .still
  exact .aside hstill h.modem h.loop (by rw [h.routing])

theorem Turns.gate {b : Bool} (h : b = true → d.Turns d') : d.Turns (if b then d' else d) := by
  cases b with
  | true => exact h rfl
  | false => exact .of_sameCall (.refl d)

/-- A change of the facts that the modem hears of during a call. -/
theorem Turns.pushInCall {e : Device σ μ} (hmodem : e.modem = d.modem) (hloop : e.loop = d.loop)
    (hcall : e.routing.inCall = d.routing.inCall)
    (hturn : Turn d.modem.volumeSteps d.routing e.routing
      (if e.routing.inCall then [.path e.routing.callPath] else [])) :
    d.Turns (if e.routing.inCall then e.pushCallPath else e) := by
  cases hup : e.routing.inCall with
  | true =>
    rw [hup] at hturn
    exact .aside hturn (by rw [← hmodem]; rfl) hloop hcall
  | false =>
    rw [hup] at hturn
    exact .aside hturn hmodem hloop hcall

theorem turns_rerouteOutput (d : Device σ μ) (devices : DeviceSet) (on : Bool) :
    d.Turns (d.rerouteOutput devices on) := by
  unfold rerouteOutput
  simp only
  split
  next => exact .of_sameCall (.refl d)
  next hchanged =>
    simp only [Bool.or_eq_true, beq_iff_eq, not_or, Bool.not_eq_true] at hchanged
    refine .pushInCall (modem_converge ..) rfl rfl ?_
    rw [routing_converge]
    exact .outputs devices hchanged.1 hchanged.2

theorem turns_rerouteInput (d : Device σ μ) (devices : DeviceSet) (on : Bool) :
    d.Turns (d.rerouteInput devices on) := by
  unfold rerouteInput
  simp only
  split
  next => exact .of_sameCall (.refl d)
  next hchanged =>
    simp only [Bool.or_eq_true, beq_iff_eq, not_or, Bool.not_eq_true] at hchanged
    exact .aside (.inputs devices hchanged.1 hchanged.2) rfl rfl rfl

theorem turns_setParameters (d : Device σ μ) (text : String) : d.Turns (d.setParameters text) := by
  unfold setParameters
  split
  next => exact .of_sameCall (.refl d)
  next value _ =>
    simp only
    split
    next => exact .of_sameCall (.refl d)
    next hother =>
      exact Turns.pushInCall (d := d)
        (e := { d with routing := { d.routing with nrec := value == Params.onValue } })
        rfl rfl rfl (.nrec _ hother)

/-- A volume is asked for during a call only. -/
theorem turns_setVoiceVolume (d : Device σ μ) (volume : Float32) :
    d.Turns (d.setVoiceVolume volume).2 := by
  unfold setVoiceVolume
  split
  next hrange =>
    have hturn : Turn d.modem.volumeSteps d.routing { d.routing with voiceVolume := volume } _ :=
      .voiceVolume volume hrange
    simp only
    split
    next hmode =>
      rw [if_pos hmode] at hturn
      exact .aside hturn rfl rfl rfl
    next hmode =>
      rw [if_neg hmode] at hturn
      exact .aside hturn rfl rfl rfl
  next => exact .of_sameCall (.refl d)

/-- Setting a mode enters a call, leaves one, or does neither. -/
theorem turns_setMode [PcmDriver σ] (d : Device σ μ) (mode : Mode) : d.Turns (d.setMode mode) := by
  unfold setMode
  split
  next => exact .of_sameCall (.refl d)
  next hother =>
    simp only
    split
    next hmode =>
      subst hmode
      split
      next hcall => exact .aside (.mode _ hother ⟨fun _ => rfl, fun _ => hcall⟩) rfl rfl rfl
      next hcall =>
        refine ⟨⟨_, ?_, modem_enterCall _⟩,
          .inr ((loop_enterCall _).imp_left fun hwhole => ⟨inCall_enterCall _, hwhole⟩)⟩
        rw [routing_enterCall]
        exact .enter hother (by simpa using hcall)
    next hmode =>
      split
      next hcall =>
        refine ⟨⟨_, ?_, modem_leaveCall _⟩, .inr (.inr (loop_leaveCall _))⟩
        rw [routing_leaveCall]
        exact .leave mode hother hmode hcall
      next hcall =>
        exact .aside (.mode mode hother ⟨fun h => absurd h hcall, fun h => absurd h hmode⟩)
          rfl rfl rfl

/-- **One operation** makes one turn. -/
theorem step_turns [PcmDriver σ] (d : Device σ μ) (op : Operation) : d.Turns (d.step op).2 := by
  cases op with
  | check | setMasterVolume | micMute | parameters | captureBuffer =>
    exact .of_sameCall (.refl d)
  | isStandbyOutput i | outputParameters i | setOutputVolume i | renderPosition i | latency i =>
    simp only [step, onOutput_snd, ite_self]
    exact .of_sameCall (.refl d)
  | isStandbyInput i | inputParameters i | setInputGain i | lostFrames i =>
    simp only [step, onInput_snd, ite_self]
    exact .of_sameCall (.refl d)
  | setMicMute on => exact .aside (.micMute on) rfl rfl rfl
  | setParameters text => exact d.turns_setParameters text
  | setVoiceVolume volume =>
    rw [step_setVoiceVolume_snd]
    exact d.turns_setVoiceVolume volume
  | setMode code =>
    simp only [step]
    cases Mode.ofCode? code with
    | none => exact .of_sameCall (.refl d)
    | some mode => exact d.turns_setMode mode
  | routeOutput devices => exact d.turns_rerouteOutput devices _
  | openOutput _ =>
    rw [step_openOutput_snd]
    exact .of_sameCall d.sameCall_openOutput
  | openInput _ format =>
    rw [step_openInput_snd]
    exact .of_sameCall (d.sameCall_openInput format)
  | closeOutput i =>
    simp only [step, onOutput_snd]
    exact .of_sameCall (.gate _ (d.sameCall_closeOutput i))
  | closeInput i =>
    simp only [step, onInput_snd]
    exact .of_sameCall (.gate _ (d.sameCall_closeInput i))
  | dropOutput i =>
    simp only [step, onOutput_snd]
    exact .of_sameCall (.gate _ (d.sameCall_dropOutput i))
  | dropInput i =>
    simp only [step, onInput_snd]
    exact .of_sameCall (.gate _ (d.sameCall_dropInput i))
  | standbyOutput i =>
    simp only [step, onOutput_snd]
    exact .of_sameCall (.gate _ (d.sameCall_standbyOutput i))
  | standbyInput i =>
    simp only [step, onInput_snd]
    exact .of_sameCall (.gate _ (d.sameCall_standbyInput i))
  | write i bytes =>
    rw [step_write_snd]
    exact .of_sameCall (d.sameCall_writeOutput i bytes)
  | read i length =>
    rw [step_read_snd]
    exact .of_sameCall (d.sameCall_readInput i length)
  | setOutputParameters i text =>
    simp only [step, onOutput_snd]
    refine .gate fun _ => ?_
    unfold setOutputParameters
    split
    next => exact .of_sameCall (.refl d)
    next devices _ => exact d.turns_rerouteOutput devices _
  | setInputParameters i text =>
    simp only [step, onInput_snd]
    refine .gate fun _ => ?_
    unfold setInputParameters
    split
    next => exact .of_sameCall (.refl d)
    next devices _ => exact d.turns_rerouteInput devices _

end

/-! ## Runs -/

/-- The event leaves the modem alone, up to what the device has to say. -/
def Event.sparesModem : Event σ μ → Bool
  | .modem _ => false
  | _ => true

section

variable [PcmDriver σ] [ModemLink μ]

theorem happen_turns (d : Device σ μ) {e : Event σ μ} (hspares : e.sparesModem = true) :
    d.Turns (d.happen e) := by
  cases e with
  | operation op => exact d.step_turns op
  | card change => exact .of_sameCall ⟨rfl, rfl, rfl, rfl⟩
  | modem change => cases hspares

theorem play_concat (d : Device σ μ) (events : List (Event σ μ)) (e : Event σ μ) :
    d.play (events ++ [e]) = (d.play events).happen e := by
  rw [play, List.foldl_concat]
  rfl

/-- **A run** that leaves the modem alone makes a chain of turns, and the modem client sends
all their requests. -/
theorem play_talk (d : Device σ μ) {events : List (Event σ μ)}
    (hspares : ∀ e ∈ events, e.sparesModem = true) :
    ∃ rs, Talk d.modem.volumeSteps d.routing (d.play events).routing rs ∧
      (d.play events).modem = d.modem.sendAll rs := by
  -- the last event comes last in the talk
  induction events using List.reverseRecOn with
  | nil => exact ⟨[], .nil, rfl⟩
  | append_singleton events e ih =>
    obtain ⟨rs, htalk, hmodem⟩ := ih fun e' he' => hspares e' (List.mem_append_left _ he')
    have hlast : e.sparesModem = true := hspares e (List.mem_append_right _ List.mem_cons_self)
    obtain ⟨rs', hturn, hmodem'⟩ := ((d.play events).happen_turns hlast).said
    rw [hmodem, ModemClient.volumeSteps_sendAll] at hturn
    rw [play_concat]
    refine ⟨rs ++ rs', htalk.concat hturn, ?_⟩
    rw [hmodem', hmodem, ModemClient.sendAll_append]

/-- What every turn keeps holds of the facts throughout a run. -/
theorem routing_play {P : Routing → Prop}
    (hturn : ∀ {steps r r' rs}, Turn steps r r' rs → P r → P r') {d : Device σ μ}
    (h : P d.routing) (events : List (Event σ μ)) : P (d.play events).routing := by
  induction events generalizing d with
  | nil => exact h
  | cons e events ih =>
    refine ih (d := d.happen e) ?_
    cases e with
    | operation op =>
      obtain ⟨rs, hop, -⟩ := (d.step_turns op).said
      exact hturn hop h
    | card | modem => exact h

/-- No voice loop is left outside a call. -/
def LoopInCall (d : Device σ μ) : Prop := d.routing.inCall = false → d.loop = {}

/-- Every run keeps the loop within calls. -/
theorem LoopInCall.play {d : Device σ μ} (h : d.LoopInCall) (events : List (Event σ μ)) :
    (d.play events).LoopInCall := by
  induction events generalizing d with
  | nil => exact h
  | cons e events ih =>
    refine ih (d := d.happen e) ?_
    cases e with
    | operation op =>
      intro hidle
      have hidle' : (d.step op).2.routing.inCall = false := hidle
      rcases (d.step_turns op).loop with ⟨hsame, hcall⟩ | ⟨hup, -⟩ | hnone
      · exact hsame.trans (h (hcall.symm.trans hidle'))
      · rw [hup] at hidle'
        cases hidle'
      · exact hnone
    | card | modem => exact h

/-- The voice loop has both substreams or none. -/
def LoopWhole (d : Device σ μ) : Prop := d.loop.isActive = true ∨ d.loop = {}

/-- Every run keeps the loop whole. -/
theorem LoopWhole.play {d : Device σ μ} (h : d.LoopWhole) (events : List (Event σ μ)) :
    (d.play events).LoopWhole := by
  induction events generalizing d with
  | nil => exact h
  | cons e events ih =>
    refine ih (d := d.happen e) ?_
    cases e with
    | operation op =>
      rcases (d.step_turns op).loop with ⟨hsame, -⟩ | ⟨-, hactive⟩ | hnone
      · have hwhole : (d.step op).2.loop.isActive = true ∨ (d.step op).2.loop = {} := by
          rw [hsame]
          exact h
        exact hwhole
      · exact .inl hactive
      · exact .inr hnone
    | card | modem => exact h

variable {config : Config} {mixer : Mixer} {card : σ} {link : μ} {d : Device σ μ}
  (hopen : Device.acquire config mixer card link = .ok d) (events : List (Event σ μ))

include hopen

/-- A call is up exactly in the call mode. -/
theorem inCall_iff_play : (d.play events).routing.inCall = true ↔
    (d.play events).routing.mode = .inCall := by
  refine routing_play Turn.inCall_iff ?_ events
  rw [(acquire_spec hopen).1]
  decide

theorem loop_play : (d.play events).LoopInCall :=
  LoopInCall.play (fun _ => (acquire_pcm hopen).2.1) events

theorem loopWhole_play : (d.play events).LoopWhole :=
  LoopWhole.play (.inr (acquire_pcm hopen).2.1) events

/-- There always is an output to play on. -/
theorem outputs_play : (d.play events).routing.devices.outputs.isEmpty = false := by
  refine routing_play Turn.outputs_isEmpty ?_ events
  rw [(acquire_spec hopen).1]
  decide

end

end Device

end HandsetAudio
