import HandsetAudio.Modem.Recorder
import HandsetAudio.Pcm.SoftCard
import HandsetAudio.Proofs.Device.Runs

/-!
# What the mixer holds throughout a careful run

On the mixer made for the tables, after every event of a careful run:

> `output_follows`: the playback controls hold what mode, devices and the active stream
> want.
> `input_follows_iff`: the capture controls hold what they wanted at the last pass over the
> capture path; that is what they want now unless a microphone is listened to and another
> one would have to be picked.

> `capture_silent_while_idle`: outside a call, capture controls are off unless an active
> stream is out of standby.

The second cannot be had without its condition (`input_lags_behind_speakerphone`): playback
is rerouted, and modes other than the call mode are changed, without a pass over the
capture path, whose rows mind both.
-/

namespace HandsetAudio

open ControlRule

namespace Device

/-- A device with the default settings on the mixer made for the tables, a software card and
a modem that takes every request. -/
def inSoftware : Device SoftCard ModemRecorder :=
  (Device.acquire {} .ofTables {} {}).toOption.get rfl

theorem acquire_inSoftware : Device.acquire {} .ofTables {} {} = .ok inSoftware := rfl

section

variable {σ μ : Type} [PcmDriver σ] [ModemLink μ] {config : Config} {card : σ} {link : μ}
  {d₀ : Device σ μ} (hopen : Device.acquire config .ofTables card link = .ok d₀)
  {events : List (Event σ μ)} (hcareful : d₀.Careful [] events)

include hopen

/-- Whatever happens, every row of the tables can be seen on the mixer. -/
theorem shows_play (events : List (Event σ μ)) {p : Path} {rule : ControlRule}
    (hrule : rule ∈ p.table) : (d₀.play events).mixer.Shows rule := by
  have hsound := sound_play hopen events
  exact (Mixer.shows_congr hsound.1.layout).2 (shows_ofTables rule (Path.mem_tables hrule))

include hcareful

/-- The facts of the last pass over a path, and the facts of the moment, look alike to it. -/
theorem seen_alike_now (p : Path) :
    (d₀.seen p (d₀.now p) events).Alike p ((d₀.play events).now p) := by
  obtain ⟨closed, hsettled⟩ := (settled_acquire hopen).play hcareful
  exact hsettled.alike p

/-- Rows that are not set once hold what the last pass over their path was for. -/
theorem holds_seen {p : Path} {rule : ControlRule} (hrule : rule ∈ p.table)
    (hsteady : rule.once = false) :
    (d₀.play events).mixer.Holds rule (rule.desired (d₀.seen p (d₀.now p) events)) := by
  obtain ⟨closed, hsettled⟩ := (settled_acquire hopen).play hcareful
  have hsound := sound_play hopen events
  exact hsound.holds_of_inLine (hsettled.inLine p) hrule hsteady

/-- **The playback path** follows mode, devices and the active stream: after every event of
a careful run, every slot of every row that is not set once holds the row's target if the
row is wanted, and zero if it is not. -/
theorem output_follows {rule : ControlRule} (hrule : rule ∈ outputTable)
    (hsteady : rule.once = false) :
    (d₀.play events).mixer.Shows rule ∧
      (d₀.play events).mixer.Holds rule
        (rule.desired ((d₀.play events).facts (d₀.play events).outputOn)) := by
  have halike := seen_alike_now hopen hcareful .output
  have hholds := holds_seen hopen hcareful (p := .output) hrule hsteady
  refine ⟨shows_play hopen events (p := .output) hrule, ?_⟩
  rw [outputOn_eq]
  rwa [desired_output_of_alike halike hrule hsteady] at hholds

end

/-- In a call whose output moves to the loudspeaker, after a write that failed on the way,
the loudspeaker is on and the earpiece off. -/
theorem output_follows_to_speaker :
    let events : List (Event SoftCard ModemRecorder) := [
      .operation (.openOutput .speaker),
      .card fun card => card.refuseLane .hifiPlayback,
      .operation (.write 0 [0, 0, 0, 0]),
      .card fun card => card.allowLane .hifiPlayback,
      .operation (.setMode 2),
      .operation (.write 0 [0, 0, 0, 0]),
      .operation (.routeOutput .speaker)]
    let amplifier := (level "Speaker Switch" 1 .all .speaker).keptInCall
    let receiver := (level "Earpiece Switch" 1 .all .earpiece).keptInCall
    inSoftware.Careful [] events ∧ amplifier ∈ outputTable ∧ receiver ∈ outputTable ∧
      (inSoftware.play events).mixer.Holds amplifier true ∧
      (inSoftware.play events).mixer.Holds receiver false := by
  intro events amplifier receiver
  have hcareful : inSoftware.Careful [] events := by decide +kernel
  have hamplifier : amplifier ∈ outputTable := by decide
  have hreceiver : receiver ∈ outputTable := by decide
  obtain ⟨-, hon⟩ := output_follows acquire_inSoftware hcareful hamplifier rfl
  obtain ⟨-, hoff⟩ := output_follows acquire_inSoftware hcareful hreceiver rfl
  have hwanted : amplifier.desired
      ((inSoftware.play events).facts (inSoftware.play events).outputOn) = true := by
    decide +kernel
  have hunwanted : receiver.desired
      ((inSoftware.play events).facts (inSoftware.play events).outputOn) = false := by
    decide +kernel
  rw [hwanted] at hon
  rw [hunwanted] at hoff
  exact ⟨hcareful, hamplifier, hreceiver, hon, hoff⟩

/-- **The capture path** holds, after every event of a careful run, what the facts of the
last pass over it want. That is what the facts of the moment want unless a microphone is
listened to and mode and outputs pick another one by now. -/
theorem input_follows_iff {σ μ : Type} [PcmDriver σ] [ModemLink μ] {config : Config} {card : σ}
    {link : μ} {d₀ : Device σ μ} (hopen : Device.acquire config .ofTables card link = .ok d₀)
    {events : List (Event σ μ)} (hcareful : d₀.Careful [] events) :
    let seen := d₀.seen .input (d₀.now .input) events
    let d := d₀.play events
    let now := d.facts d.inputOn
    (∀ rule ∈ inputTable, rule.once = false →
        d.mixer.Shows rule ∧ d.mixer.Holds rule (rule.desired seen)) ∧
      ((∀ rule ∈ inputTable, rule.once = false → d.mixer.Holds rule (rule.desired now)) ↔
        (now.listening = true →
          seen.mainMic = now.mainMic ∧ seen.secondMic = now.secondMic)) := by
  intro seen d now
  have hnow : now = d.now .input := by
    show d.facts d.inputOn = d.facts (d.line .input).on
    rw [inputOn_eq]
  have halike : seen.Alike .input now := by
    rw [hnow]
    exact seen_alike_now hopen hcareful .input
  have hshows : ∀ rule ∈ inputTable, d.mixer.Shows rule := fun rule hrule =>
    shows_play hopen events (p := .input) hrule
  have hholds : ∀ rule ∈ inputTable, rule.once = false →
      d.mixer.Holds rule (rule.desired seen) := fun rule hrule hsteady =>
    holds_seen hopen hcareful (p := .input) hrule hsteady
  refine ⟨fun rule hrule hsteady => ⟨hshows rule hrule, hholds rule hrule hsteady⟩, ?_⟩
  rw [← halike.listening, ← desired_input_iff halike]
  constructor
  · intro hcurrent rule hrule hsteady
    exact (hshows rule hrule).holds_inj (hholds rule hrule hsteady)
      (hcurrent rule hrule hsteady)
  · intro hsame rule hrule hsteady
    rw [← hsame rule hrule hsteady]
    exact hholds rule hrule hsteady

/-- Once capture went through standby in a call on the loudspeaker, the second microphone is
on and the main one off. -/
theorem input_follows_after_standby :
    let events : List (Event SoftCard ModemRecorder) := [
      .operation (.openInput .builtinMic ⟨44100, 1⟩),
      .operation (.setMode 2),
      .operation (.read 0 4),
      .operation (.routeOutput .speaker),
      .operation (.standbyInput 0)]
    inSoftware.Careful [] events ∧
      (inSoftware.play events).mixer.Holds mainMicSwitch false ∧
      (inSoftware.play events).mixer.Holds secondMicSwitch true := by
  intro events
  have hcareful : inSoftware.Careful [] events := by decide +kernel
  obtain ⟨-, hiff⟩ := input_follows_iff acquire_inSoftware hcareful
  have hall := hiff.2 (by decide +kernel)
  have hmain := hall mainMicSwitch mainMicSwitch_mem rfl
  have hsecond := hall secondMicSwitch secondMicSwitch_mem rfl
  have hunwanted : mainMicSwitch.desired
      ((inSoftware.play events).facts (inSoftware.play events).inputOn) = false := by
    decide +kernel
  have hwanted : secondMicSwitch.desired
      ((inSoftware.play events).facts (inSoftware.play events).inputOn) = true := by
    decide +kernel
  rw [hunwanted] at hmain
  rw [hwanted] at hsecond
  exact ⟨hcareful, hmain, hsecond⟩

/-- A call that moves to the loudspeaker keeps the main microphone on and the second one off,
though mode and outputs want it the other way around. -/
theorem input_lags_behind_speakerphone :
    let events : List (Event SoftCard ModemRecorder) := [
      .operation (.setMode 2),
      .operation (.routeOutput .speaker)]
    let d := inSoftware.play events
    Device.acquire {} .ofTables {} {} = .ok inSoftware ∧ inSoftware.Careful [] events ∧
      (mainMicSwitch ∈ inputTable ∧ mainMicSwitch.once = false ∧
        mainMicSwitch.desired (d.facts d.inputOn) = false ∧
        ¬ d.mixer.Holds mainMicSwitch false) ∧
      (secondMicSwitch ∈ inputTable ∧ secondMicSwitch.once = false ∧
        secondMicSwitch.desired (d.facts d.inputOn) = true ∧
        ¬ d.mixer.Holds secondMicSwitch true) := by
  intro events d
  have hcareful : inSoftware.Careful [] events := by decide +kernel
  -- the last pass over the capture path was that of the call entry, on the earpiece
  have hmain : d.mixer.Holds mainMicSwitch true := by
    have h := holds_seen acquire_inSoftware hcareful (p := .input) mainMicSwitch_mem rfl
    have hpicked : mainMicSwitch.desired
        (inSoftware.seen .input (inSoftware.now .input) events) = true := by decide +kernel
    rwa [hpicked] at h
  have hsecond : d.mixer.Holds secondMicSwitch false := by
    have h := holds_seen acquire_inSoftware hcareful (p := .input) secondMicSwitch_mem rfl
    have hpicked : secondMicSwitch.desired
        (inSoftware.seen .input (inSoftware.now .input) events) = false := by decide +kernel
    rwa [hpicked] at h
  refine ⟨acquire_inSoftware, hcareful, ⟨mainMicSwitch_mem, rfl, by decide +kernel, ?_⟩,
    secondMicSwitch_mem, rfl, by decide +kernel, ?_⟩
  · intro hoff
    have hshows := shows_play acquire_inSoftware events (p := .input) mainMicSwitch_mem
    cases hshows.holds_inj hmain hoff
  · intro hon
    have hshows := shows_play acquire_inSoftware events (p := .input) secondMicSwitch_mem
    cases hshows.holds_inj hsecond hon

/-- **No microphone is live while idle**: outside a call, with no active capture stream or
one in standby, every capture control that is not set once is off, whatever careful run came
before. -/
theorem capture_silent_while_idle {σ μ : Type} [PcmDriver σ] [ModemLink μ] {config : Config}
    {card : σ} {link : μ} {d₀ : Device σ μ}
    (hopen : Device.acquire config .ofTables card link = .ok d₀)
    {events : List (Event σ μ)} (hcareful : d₀.Careful [] events)
    (hmode : (d₀.play events).routing.mode ≠ .inCall)
    (hidle : (d₀.play events).inputStandby? ≠ some false)
    {rule : ControlRule} (hrule : rule ∈ inputTable) (hsteady : rule.once = false) :
    (d₀.play events).mixer.Shows rule ∧ (d₀.play events).mixer.Holds rule false := by
  have hoff : ((d₀.play events).now .input).on = false := by
    show ((d₀.play events).line .input).on = false
    rw [← inputOn_eq]
    exact beq_eq_false_iff_ne.2 hidle
  -- the last pass over the path was for a state as idle as this one
  have halike := seen_alike_now hopen hcareful .input
  have hunwanted : rule.desired (d₀.seen .input (d₀.now .input) events) = false :=
    not_desired_idle (Path.mem_tables (p := .input) hrule) hsteady
      (fun hcall => hmode (halike.call.1 hcall)) (halike.on.trans hoff)
  have hholds := holds_seen hopen hcareful (p := .input) hrule hsteady
  rw [hunwanted] at hholds
  exact ⟨shows_play hopen events (p := .input) hrule, hholds⟩

/-- After a conversation, a call on the loudspeaker and a read that failed in it, both
microphones are off. -/
theorem capture_silent_after_failed_read :
    let events : List (Event SoftCard ModemRecorder) := [
      .operation (.openInput .builtinMic ⟨44100, 1⟩),
      .operation (.setMode 3),
      .operation (.read 0 4),
      .operation (.setMode 2),
      .operation (.routeOutput .speaker),
      .operation (.read 0 4),
      .card fun card => card.refuseTransfers true,
      .operation (.read 0 4),
      .operation (.setMode 1),
      .operation (.routeOutput .earpiece)]
    inSoftware.Careful [] events ∧ (inSoftware.play events).routing.mode ≠ .inCall ∧
      (inSoftware.play events).inputStandby? = some true ∧
      (inSoftware.play events).mixer.Holds mainMicSwitch false ∧
      (inSoftware.play events).mixer.Holds secondMicSwitch false := by
  intro events
  have hcareful : inSoftware.Careful [] events := by decide +kernel
  have hmode : (inSoftware.play events).routing.mode ≠ .inCall := by decide +kernel
  have hstandby : (inSoftware.play events).inputStandby? = some true := by decide +kernel
  have hidle : (inSoftware.play events).inputStandby? ≠ some false := by decide +kernel
  obtain ⟨-, hmain⟩ :=
    capture_silent_while_idle acquire_inSoftware hcareful hmode hidle mainMicSwitch_mem rfl
  obtain ⟨-, hsecond⟩ :=
    capture_silent_while_idle acquire_inSoftware hcareful hmode hidle secondMicSwitch_mem rfl
  exact ⟨hcareful, hmode, hstandby, hmain, hsecond⟩

end Device

end HandsetAudio
