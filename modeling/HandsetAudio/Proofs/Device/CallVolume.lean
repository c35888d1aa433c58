import HandsetAudio.Proofs.Device.CallEntry
import HandsetAudio.Proofs.Device.Conversation

/-!
# The volume that the modem knows

The modem has a volume for each curve and is told one of them at a time: that of the curve in
use when a call starts, and when the volume is set in the call mode. Rerouting leads to another
curve and tells the path alone, so the curve in use can be one that was never told of
(`volume_lags_behind_headset`). Main statement:

> `told_volume_in_call`: with a modem that takes every request, the volume that it was asked for
> last is, in every call, the stored one, on the curve that was in use when it was told
> (`curveTold`).
-/

namespace HandsetAudio

/-- The volume in a request, with its curve. -/
def ModemRequest.volume? : ModemRequest → Option (SoundCurve × Int)
  | .volume curve level => some (curve, level)
  | _ => none

/-- The volume that was asked for last, with its curve. -/
def lastVolume? (rs : List ModemRequest) : Option (SoundCurve × Int) :=
  (rs.filterMap ModemRequest.volume?).getLast?

theorem lastVolume?_append (rs rs' : List ModemRequest) :
    lastVolume? (rs ++ rs') = (lastVolume? rs').or (lastVolume? rs) := by
  rw [lastVolume?, List.filterMap_append, List.getLast?_append]
  rfl

/-- The volume of a call, on the curve in use. -/
def Routing.volume (r : Routing) (steps : UInt32) : SoundCurve × Int :=
  (r.soundCurve, volumeLevel r.voiceVolume steps)

namespace Device

variable {σ μ : Type}

section

variable [ModemLink μ] {d d' : Device σ μ}

/-- From `d` to `d'` the modem is told the volume if `told`. Otherwise it hears of paths and the
clock at most, and a call that is up was up before, with the same volume. -/
structure TellsVolume (d d' : Device σ μ) (told : Bool) : Prop where
  said : ∃ rs, d'.modem = d.modem.sendAll rs ∧
    lastVolume? rs = if told then some (d'.routing.volume d.modem.volumeSteps) else none
  stored : told = false → d'.routing.inCall = true →
    d.routing.inCall = true ∧ d'.routing.voiceVolume = d.routing.voiceVolume

/-- Nothing is said, and nothing changes that the volume of a call could mind. -/
theorem TellsVolume.silent (hmodem : d'.modem = d.modem)
    (hcall : d'.routing.inCall = d.routing.inCall)
    (hstored : d'.routing.voiceVolume = d.routing.voiceVolume) : d.TellsVolume d' false :=
  ⟨⟨[], hmodem, rfl⟩, fun _ hup => ⟨hcall ▸ hup, hstored⟩⟩

/-- The path alone is told. -/
theorem TellsVolume.path {p : CallPath} (hmodem : d'.modem = d.modem.sendAll [.path p])
    (hstored : d'.routing.inCall = true →
      d.routing.inCall = true ∧ d'.routing.voiceVolume = d.routing.voiceVolume) :
    d.TellsVolume d' false :=
  ⟨⟨[.path p], hmodem, rfl⟩, fun _ => hstored⟩

theorem TellsVolume.of_sameCall (h : d.SameCall d') : d.TellsVolume d' false :=
  .silent h.modem (by rw [h.routing]) (by rw [h.routing])

theorem TellsVolume.gate {b : Bool} (h : b = true → d.TellsVolume d' false) :
    d.TellsVolume (if b then d' else d) false := by
  cases b with
  | true => exact h rfl
  | false => exact .of_sameCall (.refl d)

/-- A change of the facts of which the modem is told the path during a call. -/
theorem TellsVolume.pushInCall {e : Device σ μ} (hmodem : e.modem = d.modem)
    (hcall : e.routing.inCall = d.routing.inCall)
    (hstored : e.routing.voiceVolume = d.routing.voiceVolume) :
    d.TellsVolume (if e.routing.inCall then e.pushCallPath else e) false := by
  cases hup : e.routing.inCall with
  | true =>
    refine .path (p := e.routing.callPath) ?_ fun _ => ⟨hcall ▸ hup, hstored⟩
    rw [← hmodem]
    rfl
  | false => exact .silent hmodem hcall hstored

/-! ## Single operations -/

theorem tellsVolume_rerouteOutput (d : Device σ μ) (devices : DeviceSet) (on : Bool) :
    d.TellsVolume (d.rerouteOutput devices on) false := by
  unfold rerouteOutput
  simp only
  split
  next => exact .of_sameCall (.refl d)
  next => exact .pushInCall (modem_converge ..) rfl rfl

theorem tellsVolume_rerouteInput (d : Device σ μ) (devices : DeviceSet) (on : Bool) :
    d.TellsVolume (d.rerouteInput devices on) false := by
  unfold rerouteInput
  simp only
  split
  next => exact .of_sameCall (.refl d)
  next => exact .silent rfl rfl rfl

theorem tellsVolume_setParameters (d : Device σ μ) (text : String) :
    d.TellsVolume (d.setParameters text) false := by
  unfold setParameters
  split
  next => exact .of_sameCall (.refl d)
  next value _ =>
    simp only
    split
    next => exact .of_sameCall (.refl d)
    next =>
      exact TellsVolume.pushInCall (d := d)
        (e := { d with routing := { d.routing with nrec := value == Params.onValue } }) rfl rfl rfl

/-- The operation tells the modem the volume: it sets the volume in the call mode, or a call
starts. -/
def tellsVolume [PcmDriver σ] (d : Device σ μ) : Operation → Bool
  | .setVoiceVolume v => decide (0.0 ≤ v ∧ v ≤ 1.0) && decide (d.routing.mode = .inCall)
  | .setMode code => d.routing.entersCall (d.step (.setMode code)).2.routing
  | _ => false

theorem tellsVolume_setVoiceVolume (d : Device σ μ) (hcall : d.routing.inCall = true →
    d.routing.mode = .inCall) (v : Float32) : d.TellsVolume (d.setVoiceVolume v).2
      (decide (0.0 ≤ v ∧ v ≤ 1.0) && decide (d.routing.mode = .inCall)) := by
  unfold setVoiceVolume
  by_cases hrange : 0.0 ≤ v ∧ v ≤ 1.0
  · simp only [hrange]
    by_cases hmode : d.routing.mode = .inCall
    · simp only [hmode]
      exact ⟨⟨[.volume d.routing.soundCurve (volumeLevel v d.modem.volumeSteps)], rfl, rfl⟩,
        fun h => (nomatch h)⟩
    · simp only [hmode]
      -- outside of the call mode no call is up
      exact ⟨⟨[], rfl, rfl⟩, fun _ hup => absurd (hcall hup) hmode⟩
  · simp only [hrange]
    exact .of_sameCall (.refl d)

/-- A call that starts tells the volume last. -/
theorem tellsVolume_inCall [PcmDriver σ] {d : Device σ μ} (hmode : d.routing.mode ≠ .inCall) :
    d.TellsVolume d.inCallMode.enterCall
      (d.routing.entersCall d.inCallMode.enterCall.routing) := by
  have henters : d.routing.entersCall d.inCallMode.enterCall.routing = true := by
    rw [routing_enterCall]
    simp [Routing.entersCall, inCallMode, hmode]
  rw [henters]
  refine ⟨⟨_, d.inCallMode.modem_enterCall, ?_⟩, fun h => absurd h (by decide)⟩
  rw [routing_enterCall]
  rfl

/-- A call that ends tells the path, and none is up afterwards. -/
theorem tellsVolume_leaveCall [PcmDriver σ] {d e : Device σ μ} (hmodem : e.modem = d.modem)
    (hmode : e.routing.mode ≠ .inCall) :
    d.TellsVolume e.leaveCall (d.routing.entersCall e.leaveCall.routing) := by
  have hsaid := e.modem_leaveCall
  rw [hmodem] at hsaid
  have henters : d.routing.entersCall e.leaveCall.routing = false := by
    rw [routing_leaveCall]
    simp [Routing.entersCall, hmode]
  rw [henters]
  refine .path hsaid fun hup => ?_
  rw [routing_leaveCall] at hup
  cases hup

theorem tellsVolume_setMode [PcmDriver σ] (d : Device σ μ)
    (hcall : d.routing.inCall = true ↔ d.routing.mode = .inCall) (mode : Mode) :
    d.TellsVolume (d.setMode mode) (d.routing.entersCall (d.setMode mode).routing) := by
  by_cases hother : d.routing.mode = mode
  · have hsame : d.setMode mode = d := if_pos hother
    rw [hsame, Routing.entersCall_of_mode rfl]
    exact .of_sameCall (.refl d)
  by_cases hmode : mode = .inCall
  · subst hmode
    have hidle : d.routing.inCall = false := by
      rw [← Bool.not_eq_true, hcall]
      exact hother
    rw [setMode_inCall hother hidle]
    exact tellsVolume_inCall hother
  unfold setMode
  rw [if_neg hother, if_neg hmode]
  simp only
  split
  next hup => exact tellsVolume_leaveCall rfl hmode
  next hidle =>
    have henters : d.routing.entersCall { d.routing with mode } = false := by
      simp [Routing.entersCall, hmode]
    rw [henters]
    exact TellsVolume.silent (d := d) rfl rfl rfl

/-- **One operation** tells the volume where it is said to. -/
theorem step_tellsVolume [PcmDriver σ] (d : Device σ μ)
    (hcall : d.routing.inCall = true ↔ d.routing.mode = .inCall) (op : Operation) :
    d.TellsVolume (d.step op).2 (d.tellsVolume op) := by
  cases op with
  | check | setMasterVolume | micMute | parameters | captureBuffer =>
    exact .of_sameCall (.refl d)
  | isStandbyOutput i | outputParameters i | setOutputVolume i | renderPosition i | latency i =>
    simp only [step, onOutput_snd, ite_self]
    exact .of_sameCall (.refl d)
  | isStandbyInput i | inputParameters i | setInputGain i | lostFrames i =>
    simp only [step, onInput_snd, ite_self]
    exact .of_sameCall (.refl d)
  | setMicMute on => exact .silent rfl rfl rfl
  | setParameters text => exact d.tellsVolume_setParameters text
  | setVoiceVolume v =>
    rw [step_setVoiceVolume_snd]
    exact d.tellsVolume_setVoiceVolume hcall.1 v
  | setMode code =>
    simp only [tellsVolume, step]
    cases Mode.ofCode? code with
    | none =>
      simp only
      rw [Routing.entersCall_of_mode rfl]
      exact .of_sameCall (.refl d)
    | some mode => exact d.tellsVolume_setMode hcall mode
  | routeOutput devices => exact d.tellsVolume_rerouteOutput devices _
  | openOutput _ =>
    rw [step_openOutput_snd]
    exact .of_sameCall d.sameCall_openOutput
  | openInput _ format =>
    rw [step_openInput_snd]
    exact .of_sameCall (d.sameCall_openInput format)
  | closeOutput i =>
    simp only [step, onOutput_snd]
    exact .gate fun _ => .of_sameCall (d.sameCall_closeOutput i)
  | closeInput i =>
    simp only [step, onInput_snd]
    exact .gate fun _ => .of_sameCall (d.sameCall_closeInput i)
  | dropOutput i =>
    simp only [step, onOutput_snd]
    exact .gate fun _ => .of_sameCall (d.sameCall_dropOutput i)
  | dropInput i =>
    simp only [step, onInput_snd]
    exact .gate fun _ => .of_sameCall (d.sameCall_dropInput i)
  | standbyOutput i =>
    simp only [step, onOutput_snd]
    exact .gate fun _ => .of_sameCall (d.sameCall_standbyOutput i)
  | standbyInput i =>
    simp only [step, onInput_snd]
    exact .gate fun _ => .of_sameCall (d.sameCall_standbyInput i)
  | write i bytes =>
    rw [step_write_snd]
    exact .of_sameCall (d.sameCall_writeOutput i bytes)
  | read i length =>
    rw [step_read_snd]
    exact .of_sameCall (d.sameCall_readInput i length)
  | setOutputParameters i text =>
    simp only [step, onOutput_snd]
    refine .gate fun _ => ?_
    unfold setOutputParameters
    split
    next => exact .of_sameCall (.refl d)
    next devices _ => exact d.tellsVolume_rerouteOutput devices _
  | setInputParameters i text =>
    simp only [step, onInput_snd]
    refine .gate fun _ => ?_
    unfold setInputParameters
    split
    next => exact .of_sameCall (.refl d)
    next devices _ => exact d.tellsVolume_rerouteInput devices _

end

/-! ## Runs -/

section

variable [PcmDriver σ] [ModemLink μ]

/-- The event tells the modem the volume. -/
def volumeTold (d : Device σ μ) : Event σ μ → Bool
  | .operation op => d.tellsVolume op
  | _ => false

/-- The curve that was in use when a run told the modem the volume last, or the one from before. -/
def curveTold (d : Device σ μ) (before : Option SoundCurve) :
    List (Event σ μ) → Option SoundCurve
  | [] => before
  | e :: events =>
    (d.happen e).curveTold
      (if d.volumeTold e then some (d.happen e).routing.soundCurve else before) events

/-- During a call, the last volume in a log of requests is the stored one on the curve `told`. -/
structure VolumeKnown (d : Device σ μ) (told : Option SoundCurve) (log : List ModemRequest) :
    Prop where
  call : d.routing.inCall = true ↔ d.routing.mode = .inCall
  last : d.routing.inCall = true → ∃ curve, told = some curve ∧
    lastVolume? log = some (curve, volumeLevel d.routing.voiceVolume d.modem.volumeSteps)

omit [PcmDriver σ] in
/-- What is told becomes known, and what is not told was known before. -/
theorem VolumeKnown.tells {d d' : Device σ μ} {before : Option SoundCurve}
    {log : List ModemRequest} {told : Bool} (h : d.VolumeKnown before log)
    (htells : d.TellsVolume d' told)
    (hcall : d'.routing.inCall = true ↔ d'.routing.mode = .inCall) :
    ∃ rs, d'.modem = d.modem.sendAll rs ∧
      d'.VolumeKnown (if told then some d'.routing.soundCurve else before) (log ++ rs) := by
  obtain ⟨rs, hmodem, hrs⟩ := htells.said
  refine ⟨rs, hmodem, hcall, fun hup => ?_⟩
  have hsteps : d'.modem.volumeSteps = d.modem.volumeSteps := by
    rw [hmodem, ModemClient.volumeSteps_sendAll]
  rw [lastVolume?_append, hrs, hsteps]
  cases told with
  | true => exact ⟨d'.routing.soundCurve, rfl, rfl⟩
  | false =>
    obtain ⟨hwas, hstored⟩ := htells.stored rfl hup
    obtain ⟨curve, hbefore, hlast⟩ := h.last hwas
    rw [hstored]
    exact ⟨curve, hbefore, hlast⟩

/-- **Each run** that leaves the modem alone keeps the volume known. -/
theorem VolumeKnown.play {Willing : μ → Prop} {taken : μ → List ModemRequest}
    (htakes : TakesAll Willing taken) {d : Device σ μ} (hwilling : Willing d.modem.link)
    {before : Option SoundCurve} (h : d.VolumeKnown before (taken d.modem.link))
    {events : List (Event σ μ)} (hspares : ∀ e ∈ events, e.sparesModem = true) :
    (d.play events).VolumeKnown (d.curveTold before events)
      (taken (d.play events).modem.link) := by
  induction events generalizing d before with
  | nil => exact h
  | cons e events ih =>
    have hrest : ∀ e ∈ events, e.sparesModem = true := fun e he =>
      hspares e (List.mem_cons_of_mem _ he)
    cases e with
    | operation op =>
      have hcall : (d.step op).2.routing.inCall = true ↔ (d.step op).2.routing.mode = .inCall := by
        obtain ⟨rs, hturn, -⟩ := (d.step_turns op).said
        exact hturn.inCall_iff h.call
      obtain ⟨rs, hmodem, hknown⟩ := h.tells (d.step_tellsVolume h.call op) hcall
      obtain ⟨hwilling', htaken⟩ := htakes.sendAll hwilling rs
      rw [← hmodem] at hwilling' htaken
      rw [← htaken] at hknown
      exact ih (d := (d.step op).2) hwilling' hknown hrest
    | card change =>
      have hsame : VolumeKnown { d with card := change d.card } before (taken d.modem.link) :=
        ⟨h.call, h.last⟩
      exact ih (d := { d with card := change d.card }) hwilling hsame hrest
    | modem change => exact absurd (hspares _ List.mem_cons_self) (by simp [Event.sparesModem])

/-- **The volume in a call**: whatever was done to the device before, the volume that a modem was
asked for last has the level of the stored one, on the curve that was in use when the modem was
told. It is the curve in use now unless playback was rerouted to another one since. -/
theorem told_volume_in_call {Willing : μ → Prop} {taken : μ → List ModemRequest}
    (htakes : TakesAll Willing taken) {config : Config} {mixer : Mixer} {card : σ} {link : μ}
    {d₀ : Device σ μ} (hopen : Device.acquire config mixer card link = .ok d₀)
    (hwilling : Willing d₀.modem.link) {events : List (Event σ μ)}
    (hspares : ∀ e ∈ events, e.sparesModem = true)
    (hcall : (d₀.play events).routing.inCall = true) :
    let d := d₀.play events
    let level := volumeLevel d.routing.voiceVolume config.volumeSteps
    ∃ curve, d₀.curveTold none events = some curve ∧
      lastVolume? (taken d.modem.link) = some (curve, level) ∧
      (lastVolume? (taken d.modem.link) = some (d.routing.soundCurve, level) ↔
        curve = d.routing.soundCurve) := by
  intro d level
  have hidle : d₀.routing.inCall = false := by
    rw [(acquire_spec hopen).1]
  have hbefore : d₀.VolumeKnown none (taken d₀.modem.link) := by
    refine ⟨?_, fun hup => ?_⟩
    · rw [(acquire_spec hopen).1]
      decide
    · rw [hidle] at hup
      cases hup
  obtain ⟨curve, htold, hlast⟩ := (hbefore.play htakes hwilling hspares).last hcall
  have hsteps : d.modem.volumeSteps = config.volumeSteps := by
    obtain ⟨rs, -, hmodem⟩ := d₀.play_talk hspares
    rw [hmodem, ModemClient.volumeSteps_sendAll]
    exact ModemClient.volumeSteps_acquire (acquire_client hopen).2
  rw [hsteps] at hlast
  refine ⟨curve, htold, hlast, ?_⟩
  rw [hlast, Option.some.injEq, Prod.mk.injEq]
  exact and_iff_left rfl

end

/-- A call that moves to a wired headset and on to a Bluetooth one, where the volume is set. -/
theorem told_volume_of_bluetooth :
    let events : List (Event SoftCard ModemRecorder) := [
      .operation (.setVoiceVolume 0.2),
      .operation (.setMode 2),
      .operation (.routeOutput .wiredHeadset),
      .operation (.openOutput .speaker),
      .operation (.setOutputParameters 0 "routing=32"),
      .operation (.setVoiceVolume 0.5),
      .operation (.write 0 [0, 0, 0, 0])]
    inSoftware.modem.link.Accepting ∧ (∀ e ∈ events, e.sparesModem = true) ∧
      (inSoftware.play events).routing.inCall = true ∧
      lastVolume? (ModemEvent.requests (inSoftware.play events).modem.link.events) =
        some (.bluetoothVoice, volumeLevel 0.5 5) := by
  intro events
  have haccepting : inSoftware.modem.link.Accepting := ⟨rfl, rfl⟩
  have hspares : ∀ e ∈ events, e.sparesModem = true := by decide
  have hcall : (inSoftware.play events).routing.inCall = true := by decide +kernel
  obtain ⟨curve, htold, hlast, -⟩ :=
    told_volume_in_call ModemRecorder.takesAll acquire_inSoftware haccepting hspares hcall
  have hcurve : inSoftware.curveTold none events = some .bluetoothVoice := by decide +kernel
  have hstored : (inSoftware.play events).routing.voiceVolume = 0.5 := by rfl
  obtain rfl := Option.some.inj (htold.symm.trans hcurve)
  rw [hstored] at hlast
  exact ⟨haccepting, hspares, hcall, hlast⟩

/-- A call that moves to a wired headset has told the volume of the earpiece alone. -/
theorem volume_lags_behind_headset :
    let events : List (Event SoftCard ModemRecorder) := [
      .operation (.setMode 2),
      .operation (.routeOutput .wiredHeadset)]
    let d := inSoftware.play events
    let level := volumeLevel d.routing.voiceVolume 5
    Device.acquire {} .ofTables {} {} = .ok inSoftware ∧ inSoftware.modem.link.Accepting ∧
      (∀ e ∈ events, e.sparesModem = true) ∧ d.routing.inCall = true ∧
      lastVolume? (ModemEvent.requests d.modem.link.events) ≠
        some (d.routing.soundCurve, level) := by
  intro events d level
  refine ⟨acquire_inSoftware, ⟨rfl, rfl⟩, by decide, by decide +kernel, fun hlast => ?_⟩
  -- the curves differ, whatever the level is
  have htold : (lastVolume? (ModemEvent.requests d.modem.link.events)).map Prod.fst =
      some .voice := by decide +kernel
  have hcurve : d.routing.soundCurve = .headset := by decide +kernel
  rw [hlast, hcurve] at htold
  cases htold

end Device

end HandsetAudio
