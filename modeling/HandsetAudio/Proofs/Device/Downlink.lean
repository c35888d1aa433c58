import HandsetAudio.Proofs.Device.CallEntry
import HandsetAudio.Proofs.Device.Power
import HandsetAudio.Proofs.Mixer.Moments

/-!
# The loudspeaker while the downlink goes on

A call leaves the loudspeaker, but it does so only after the active streams were put in standby,
and the call mode is set before. If playback was in use, the pass of its standby is the first one
in the call mode: it switches the modem's downlink on and keeps whatever a call keeps, the
loudspeaker among it. Main statement:

> `downlink_goes_on`: whenever a call entry switches the downlink on, the loudspeaker holds what it
> held before if playback was in use, and is off if it was not.

So a call entered while music plays on the loudspeaker starts there (`downlink_on_loudspeaker`).
-/

namespace HandsetAudio

open ControlRule DeviceSet

/-! ## The rows -/

/-- The switch of the loudspeaker, which is the last one of its rows. -/
def speakerSwitch : ControlRule := (level "Speaker Switch" 1 .all speaker).keptInCall

/-- The switches that mix the modem's downlink in. -/
def downlinkSwitches : List ControlRule := [
  (level "DAC1R Mixer AIF2 Switch" 1 .inCall allOutputs).keptInCall,
  (level "DAC1L Mixer AIF2 Switch" 1 .inCall allOutputs).keptInCall]

theorem getElem?_speakerSwitch : outputTable[21]? = some speakerSwitch := by decide

/-- The downlink stands far upstream of the loudspeaker. -/
theorem downlinkSwitches_upstream :
    ∀ rule ∈ downlinkSwitches, rule.once = false ∧ ∃ i < 21, outputTable[i]? = some rule := by
  decide

theorem desired_speakerSwitch (f : Facts) : speakerSwitch.desired f =
    ((f.on || decide (f.mode = .inCall)) && speaker.intersects f.devices) := by
  simp [speakerSwitch, keptInCall, level, desired]

/-- The write switches the downlink on, in part. -/
def SlotWrite.RaisesDownlink (w : SlotWrite) : Prop :=
  ∃ rule ∈ downlinkSwitches, w ∈ rule.writes .ofTables true

/-- The facts are those of a call with an output to play on. -/
structure Facts.OnCall (f : Facts) : Prop where
  mode : f.mode = .inCall
  hasOutput : f.devices.outputs.isEmpty = false

/-- In a call, with an output to play on, the downlink is wanted. -/
theorem Facts.OnCall.desired_downlink {f : Facts} (h : f.OnCall) {rule : ControlRule}
    (hrule : rule ∈ downlinkSwitches) : rule.desired f = true := by
  have hmeet := intersects_allOutputs h.hasOutput
  have hshape : rule.modes = .inCall ∧ rule.devices = allOutputs ∧ rule.excluded = ∅ ∧
      rule.keep = .inCall := by
    revert rule
    decide
  obtain ⟨hmodes, hdevices, hexcluded, hkeep⟩ := hshape
  simp [desired, hmodes, hdevices, hexcluded, hkeep, h.mode, hmeet]

/-- Outside a call, the downlink is not wanted. -/
theorem not_desired_downlink {f : Facts} (h : f.mode ≠ .inCall) {rule : ControlRule}
    (hrule : rule ∈ downlinkSwitches) : rule.desired f = false := by
  have hmodes : rule.modes = .inCall := by
    revert rule
    decide
  simp [desired, hmodes, h]

/-! ## Passes for a call -/

/-- The call is a pass for a call with an output to play on. -/
def PassesOnCall (call : Path × Reconciler.Call) : Prop :=
  ∃ f : Facts, call.2 = .converge f ∧ f.OnCall

namespace Codec

section

variable {c : Codec} (h : c.Sound)

include h

/-- On the mixer at hand as on the one made for the tables. -/
theorem Sound.writes_eq (rule : ControlRule) (on : Bool) :
    rule.writes c.mixer on = rule.writes .ofTables on :=
  ControlRule.writes_congr h.1.layout on rule

/-- Once it is on, the downlink is not written any more. -/
theorem Sound.downlink_stays {f : Facts} (hline : (c.reconciler .output).InLine f) (hf : f.OnCall)
    {calls : List (Path × Reconciler.Call)} (hcalls : ∀ call ∈ calls, PassesOnCall call) :
    ∀ w ∈ c.writes calls, ¬w.RaisesDownlink := by
  induction calls generalizing c f with
  | nil => exact fun w hw => (nomatch hw)
  | cons call calls ih =>
    obtain ⟨p, call⟩ := call
    obtain ⟨f', rfl, hf'⟩ := hcalls _ List.mem_cons_self
    have hrest : ∀ call ∈ calls, PassesOnCall call := fun call hc =>
      hcalls call (List.mem_cons_of_mem _ hc)
    intro w hw hraises
    rcases List.mem_append.1 hw with hw | hw
    · obtain ⟨rule, hrule, hwrites⟩ := hraises
      obtain ⟨hsteady, i, -, hi⟩ := downlinkSwitches_upstream rule hrule
      rw [← h.writes_eq] at hwrites
      cases p with
      | output =>
        have hsame : rule.desired f = rule.desired f' := by
          rw [hf.desired_downlink hrule, hf'.desired_downlink hrule]
        exact h.not_written hline (List.mem_of_getElem? hi) hsteady hsame true w hw hwrites
      | input =>
        exact h.not_written_of_ne (q := .output) (by decide) _ (List.mem_of_getElem? hi) true w hw
          hwrites
    · cases p with
      | output =>
        exact ih (h.serve (.output, .converge f')) (inLine_serve_self c .output f') hf' hrest w hw
          hraises
      | input => exact ih (h.serve (.input, .converge f')) hline hf hrest w hw hraises

/-- **The first playback pass of a call** switches the downlink on, and meanwhile the loudspeaker
holds what it held before, or is off already if it is not wanted any more. -/
theorem Sound.downlink_raised {f : Facts} (hline : (c.reconciler .output).InLine f)
    (hmode : f.mode ≠ .inCall) {calls : List (Path × Reconciler.Call)}
    (hcalls : ∀ call ∈ calls, PassesOnCall call) {f' : Facts}
    (hfirst : calls.find? (·.1 = .output) = some (.output, .converge f')) :
    c.mixer.Whenever (c.writes calls) SlotWrite.RaisesDownlink
        (fun m => m.Holds speakerSwitch (speakerSwitch.desired f && speakerSwitch.desired f')) ∧
      ∀ rule ∈ downlinkSwitches, ∃ w ∈ c.writes calls, w ∈ rule.writes .ofTables true := by
  induction calls generalizing c with
  | nil => cases hfirst
  | cons call calls ih =>
    obtain ⟨p, call⟩ := call
    have hrest : ∀ call ∈ calls, PassesOnCall call := fun call hc =>
      hcalls call (List.mem_cons_of_mem _ hc)
    cases p with
    | output =>
      obtain ⟨g, rfl, hg⟩ := hcalls _ List.mem_cons_self
      obtain rfl : g = f' := by simpa using hfirst
      refine ⟨.append ?_ (Mixer.whenever_of_not ?_), fun rule hrule => ?_⟩
      · intro before w after hsplit hraises
        obtain ⟨rule, hrule, hwrites⟩ := hraises
        obtain ⟨-, i, hi, hup⟩ := downlinkSwitches_upstream rule hrule
        rw [← h.writes_eq] at hwrites
        exact h.whenever_raised (p := .output) hup getElem?_speakerSwitch hi rfl hline g before w
          after hsplit hwrites
      · exact (h.serve _).downlink_stays (inLine_serve_self c .output g) hg hrest
      · obtain ⟨hsteady, i, -, hi⟩ := downlinkSwitches_upstream rule hrule
        obtain ⟨w, hw, hwrites⟩ := h.exists_written hline (List.mem_of_getElem? hi) hsteady
          (not_desired_downlink hmode hrule) (hg.desired_downlink hrule)
        exact ⟨w, List.mem_append_left _ hw, h.writes_eq rule true ▸ hwrites⟩
    | input =>
      have hfirst' : calls.find? (·.1 = .output) = some (.output, .converge f') := by
        simpa using hfirst
      obtain ⟨hwhenever, hraised⟩ := ih (h.serve (.input, call)) hline hrest hfirst'
      refine ⟨.append (Mixer.whenever_of_not ?_) ?_, fun rule hrule => ?_⟩
      · rintro w hw ⟨rule, hrule, hwrites⟩
        obtain ⟨-, i, -, hi⟩ := downlinkSwitches_upstream rule hrule
        rw [← h.writes_eq] at hwrites
        exact h.not_written_of_ne (q := .output) (by decide) _ (List.mem_of_getElem? hi) true w hw
          hwrites
      · rw [← h.mixer_serve]
        exact hwhenever
      · obtain ⟨w, hw, hwrites⟩ := hraised rule hrule
        exact ⟨w, List.mem_append_right _ hw, hwrites⟩

end

end Codec

/-! ## Entering a call -/

namespace Device

section

variable {σ μ : Type}

/-- The passes of a call entry; the mode is set already. -/
def entryPasses (d : Device σ μ) : List (Path × Reconciler.Call) :=
  d.standbyPasses ++
    [(.output, .converge ⟨d.routing.mode, d.routing.devices.callEntry, false⟩),
      (.input, .converge ⟨d.routing.mode, d.routing.devices.callEntry, false⟩)]

/-- In the call mode, with an output to play on, these are passes for a call. -/
theorem passesOnCall_entry {d : Device σ μ} (hmode : d.routing.mode = .inCall)
    (houtputs : d.routing.devices.outputs.isEmpty = false) :
    ∀ call ∈ d.entryPasses, PassesOnCall call := by
  have hstandby : ∀ (p : Path) (on : Bool),
      ∀ call ∈ if on then [(p, .converge (d.facts false))] else [], PassesOnCall call := by
    intro p on call hcall
    cases on with
    | false => cases hcall
    | true => exact List.mem_singleton.1 hcall ▸ ⟨_, rfl, hmode, houtputs⟩
  have hentry : ∀ p : Path, PassesOnCall
      (p, .converge ⟨d.routing.mode, d.routing.devices.callEntry, false⟩) := fun p =>
    ⟨_, rfl, hmode, callEntry_outputs houtputs⟩
  intro call hcall
  rcases List.mem_append.1 hcall with hcall | hcall
  · rcases List.mem_append.1 hcall with hcall | hcall <;> exact hstandby _ _ call hcall
  · simp only [List.mem_cons, List.not_mem_nil, or_false] at hcall
    rcases hcall with rfl | rfl <;> exact hentry _

/-- The first playback pass is that of standby if playback is in use. -/
theorem find?_entryPasses (d : Device σ μ) : d.entryPasses.find? (·.1 = .output) =
    some (.output, .converge (if (d.line .output).on then d.facts false else
      ⟨d.routing.mode, d.routing.devices.callEntry, false⟩)) := by
  unfold entryPasses standbyPasses
  cases (d.line .output).on <;> cases (d.line .input).on <;> rfl

variable [PcmDriver σ] [ModemLink μ]

theorem codec_enterCall (d : Device σ μ) : d.enterCall.codec = d.codec.run d.entryPasses := by
  obtain ⟨hline, hrouting, hcodec⟩ := d.standbyAll_spec
  have hentered : d.enterCall.codec = d.standbyAll.enterCallDevices.routeAll.codec := by
    simp [enterCall]
  have hfacts : ∀ on, d.standbyAll.enterCallDevices.facts on =
      ⟨d.routing.mode, d.routing.devices.callEntry, on⟩ := by
    intro on
    simp [facts, enterCallDevices, hrouting]
  rw [hentered, codec_routeAll, codec_enterCallDevices, hcodec, ← Codec.run_append]
  simp only [line_enterCallDevices, hline, Line.on_standby, hfacts]
  rfl

/-- Outside a call, these passes are what setting the call mode makes of the codec. -/
theorem codec_entered {config : Config} {mixer : Mixer} {card : σ} {link : μ} {d₀ : Device σ μ}
    (hopen : Device.acquire config mixer card link = .ok d₀) {events : List (Event σ μ)}
    (hmode : (d₀.play events).routing.mode ≠ .inCall) :
    ((d₀.play events).step (.setMode 2)).2.codec =
      (d₀.play events).codec.run (d₀.play events).inCallMode.entryPasses := by
  have hidle : (d₀.play events).routing.inCall = false := by
    rw [← Bool.not_eq_true, inCall_iff_play hopen events]
    exact hmode
  show ((d₀.play events).setMode .inCall).codec = _
  rw [setMode_inCall hmode hidle]
  exact codec_enterCall _

end

section

variable {σ μ : Type} [PcmDriver σ] [ModemLink μ] {config : Config} {card : σ} {link : μ}
  {d₀ : Device σ μ} (hopen : Device.acquire config .ofTables card link = .ok d₀)
  {events : List (Event σ μ)} (hmode : (d₀.play events).routing.mode ≠ .inCall)

/-- Whether the loudspeaker is on after a run that ends outside a call: the last pass powered the
path, and the devices name it. -/
def loud (d₀ : Device σ μ) (events : List (Event σ μ)) : Bool :=
  d₀.powered .output false events && speaker.intersects (d₀.play events).routing.devices

/-- The writes of a call entry. -/
def entryWrites (d : Device σ μ) : List SlotWrite := d.codec.writes d.inCallMode.entryPasses

omit [PcmDriver σ] [ModemLink μ] in
theorem desired_speakerSwitch_idle {d : Device σ μ} (h : d.routing.mode ≠ .inCall) (on : Bool) :
    speakerSwitch.desired (d.facts on) = (on && speaker.intersects d.routing.devices) := by
  rw [desired_speakerSwitch, facts, decide_eq_false h, Bool.or_false]

include hopen hmode

theorem holds_loud : (d₀.play events).mixer.Holds speakerSwitch (d₀.loud events) := by
  rw [loud, ← desired_speakerSwitch_idle hmode]
  exact (sound_play hopen events).holds_of_inLine (inLine_output_play hopen events)
    (List.mem_of_getElem? getElem?_speakerSwitch) rfl

theorem mixer_entered : ((d₀.play events).step (.setMode 2)).2.mixer =
    (d₀.play events).mixer.perform (d₀.play events).entryWrites :=
  (congrArg Codec.mixer (codec_entered hopen hmode)).trans ((sound_play hopen events).mixer_run _)

/-- A call entry switches the downlink on, with the loudspeaker as it was if playback is in use
and with the loudspeaker off if it is not. -/
theorem downlink_entered :
    (d₀.play events).mixer.Whenever (d₀.play events).entryWrites SlotWrite.RaisesDownlink
        (fun m => m.Holds speakerSwitch ((d₀.play events).outputOn && d₀.loud events)) ∧
      ∀ rule ∈ downlinkSwitches,
        ∃ w ∈ (d₀.play events).entryWrites, w ∈ rule.writes .ofTables true := by
  have hfirst := find?_entryPasses (d₀.play events).inCallMode
  have hon : ((d₀.play events).inCallMode.line .output).on = (d₀.play events).outputOn :=
    (d₀.play events).outputOn_eq.symm
  rw [hon] at hfirst
  obtain ⟨hwhenever, hraised⟩ := (sound_play hopen events).downlink_raised
    (inLine_output_play hopen events) hmode
    (passesOnCall_entry (d := (d₀.play events).inCallMode) rfl (outputs_play hopen events)) hfirst
  refine ⟨?_, hraised⟩
  rw [desired_speakerSwitch_idle hmode] at hwhenever
  -- the first playback pass keeps the loudspeaker on if it still sees the devices of before
  cases hplaying : (d₀.play events).outputOn with
  | true =>
    have hseen : speakerSwitch.desired ((d₀.play events).inCallMode.facts false) =
        speaker.intersects (d₀.play events).routing.devices := desired_speakerSwitch _
    rw [hplaying, if_pos rfl, hseen, Bool.and_assoc, Bool.and_self] at hwhenever
    rw [Bool.true_and]
    exact hwhenever
  | false =>
    rw [hplaying, if_neg Bool.false_ne_true, desired_speakerSwitch, callEntry_speaker,
      Bool.and_false, Bool.and_false] at hwhenever
    exact hwhenever

end

/-- **The loudspeaker while the downlink goes on**: on the mixer made for the tables, whatever run
came before, setting the call mode performs writes of which none is refused and which switch the
downlink on. Whenever they do, the loudspeaker holds what it held before (`loud`) if playback was
in use, and is off if playback was not. -/
theorem downlink_goes_on {σ μ : Type} [PcmDriver σ] [ModemLink μ] {config : Config} {card : σ}
    {link : μ} {d₀ : Device σ μ} (hopen : Device.acquire config .ofTables card link = .ok d₀)
    {events : List (Event σ μ)} (hmode : (d₀.play events).routing.mode ≠ .inCall) :
    let d := d₀.play events
    let call := (d.step (.setMode 2)).2
    d.mixer.Holds speakerSwitch (d₀.loud events) ∧
      ∃ writes, call.mixer = d.mixer.perform writes ∧ (∀ w ∈ writes, d.mixer.Accepts w) ∧
        (∀ rule ∈ downlinkSwitches, ∃ w ∈ writes, w ∈ rule.writes .ofTables true) ∧
        ∀ before w after, writes = before ++ w :: after → w.RaisesDownlink →
          (d.mixer.perform before).Holds speakerSwitch (d.outputOn && d₀.loud events) := by
  intro d call
  obtain ⟨hwhenever, hraised⟩ := downlink_entered hopen hmode
  exact ⟨holds_loud hopen hmode, d.entryWrites, mixer_entered hopen hmode,
    (sound_play hopen events).accepts_run _, hraised, hwhenever⟩

/-- Once playback on the loudspeaker went through standby, a call starts with the loudspeaker
off. -/
theorem downlink_goes_on_after_standby :
    let events : List (Event SoftCard ModemRecorder) := [
      .operation (.openOutput .speaker),
      .operation (.write 0 [0, 0, 0, 0]),
      .operation (.standbyOutput 0)]
    let d := inSoftware.play events
    d.routing.mode ≠ .inCall ∧ speaker.intersects d.routing.devices = true ∧
      ∃ writes, (d.step (.setMode 2)).2.mixer = d.mixer.perform writes ∧
        (∃ w ∈ writes, w.RaisesDownlink) ∧
        ∀ before w after, writes = before ++ w :: after → w.RaisesDownlink →
          (d.mixer.perform before).Holds speakerSwitch false := by
  intro events d
  have hmode : d.routing.mode ≠ .inCall := by decide +kernel
  have hidle : d.outputOn = false := by decide +kernel
  obtain ⟨-, writes, hmixer, -, hraised, hwhenever⟩ := downlink_goes_on acquire_inSoftware hmode
  rw [hidle, Bool.false_and] at hwhenever
  obtain ⟨w, hw, hwrites⟩ := hraised _ List.mem_cons_self
  exact ⟨hmode, by decide +kernel, writes, hmixer, ⟨w, hw, _, List.mem_cons_self, hwrites⟩,
    hwhenever⟩

/-- A call entered while music plays on the loudspeaker switches the downlink on with the
loudspeaker on. -/
theorem downlink_on_loudspeaker :
    let events : List (Event SoftCard ModemRecorder) := [
      .operation (.openOutput .speaker),
      .operation (.write 0 [0, 0, 0, 0])]
    let d := inSoftware.play events
    Device.acquire {} .ofTables {} {} = .ok inSoftware ∧ d.routing.mode ≠ .inCall ∧
      ∃ before w after, (d.step (.setMode 2)).2.mixer = d.mixer.perform (before ++ w :: after) ∧
        w.RaisesDownlink ∧ (d.mixer.perform before).Holds speakerSwitch true := by
  intro events d
  have hmode : d.routing.mode ≠ .inCall := by decide +kernel
  have hloud : (d.outputOn && inSoftware.loud events) = true := by decide +kernel
  obtain ⟨hwhenever, hraised⟩ := downlink_entered acquire_inSoftware hmode
  rw [hloud] at hwhenever
  obtain ⟨w, hw, hwrites⟩ := hraised _ List.mem_cons_self
  obtain ⟨before, after, hsplit⟩ := List.append_of_mem hw
  have hraises : w.RaisesDownlink := ⟨_, List.mem_cons_self, hwrites⟩
  have hmixer := mixer_entered acquire_inSoftware hmode
  rw [hsplit] at hmixer
  exact ⟨acquire_inSoftware, hmode, before, w, after, hmixer, hraises,
    hwhenever before w after hsplit hraises⟩

end Device

end HandsetAudio
