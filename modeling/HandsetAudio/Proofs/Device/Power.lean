import HandsetAudio.Proofs.Device.Substreams

/-!
# What powers the playback path

A playback stream passes over the path when it starts and when it rests, each time for itself
alone. So it is the last pass that powers the path, and not what plays: a stream that is dropped
while it runs makes no pass any more, and one that is used again after it was closed runs without
the device counting it. Main statement:

> `playback_power`: in every run, the rows of the playback path are as mode, devices and the flag
> of the last pass (`powered`) want them. They are as what plays would want them exactly where
> the flag tells whether something plays, and in a careful run it does.

The condition is needed on both sides (`power_without_playback`).
-/

namespace HandsetAudio

open ControlRule DeviceSet

/-! ## The playback rows -/

/-- The first switch of the playback path that no mode keeps on. -/
def directSwitch : ControlRule := level "DAC1R Mixer AIF1.1 Switch" 1 .all allOutputs

theorem directSwitch_mem : directSwitch ∈ outputTable := by decide

/-- With an output to play on, the switch is wanted exactly while the path is in use. -/
theorem desired_directSwitch {f : Facts} (houtputs : f.devices.outputs.isEmpty = false) :
    directSwitch.desired f = f.on := by
  have hmeet := intersects_allOutputs houtputs
  simp [desired, directSwitch, level, hmeet]

namespace Codec

variable {c : Codec}

/-- Playback rows that are in line with some facts are so with all that look alike to them. -/
theorem inLine_output_of_alike (hrules : (c.rig .output).rules = outputTable) {f f' : Facts}
    (halike : f.Alike .output f') (h : (c.reconciler .output).InLine f) :
    (c.reconciler .output).InLine f' := by
  intro t ht hsteady hinert
  have hrule : t.rule ∈ outputTable := hrules ▸ List.mem_map_of_mem ht
  rw [← desired_output_of_alike halike hrule hsteady]
  exact h t ht hsteady hinert

/-- With an output to play on, playback rows cannot be in line with a path in use and with an
idle one. -/
theorem Sound.on_eq_of_inLine (h : c.Sound) {f f' : Facts}
    (houtputs : f.devices.outputs.isEmpty = false) (houtputs' : f'.devices.outputs.isEmpty = false)
    (hline : (c.reconciler .output).InLine f) (hline' : (c.reconciler .output).InLine f') :
    f.on = f'.on := by
  have hmem : directSwitch ∈ (c.rig .output).rules := by
    rw [h.1.rules .output]
    exact directSwitch_mem
  obtain ⟨t, ht, hrule⟩ := List.mem_map.1 hmem
  have hsteady : t.rule.once = false := by rw [hrule]; rfl
  have happlied := hline t ht hsteady (h.not_inert ht)
  have happlied' := hline' t ht hsteady (h.not_inert ht)
  rw [hrule, desired_directSwitch houtputs] at happlied
  rw [hrule, desired_directSwitch houtputs'] at happlied'
  exact happlied.symm.trans happlied'

end Codec

namespace Device

/-! ## The last pass -/

section

variable {σ μ : Type} {d d' : Device σ μ} {op : Operation} {last : Path → Option Bool}

/-- **After any operation**, whoever made it, the playback path is in line with the flag of the
last pass over it. -/
theorem Outcome.inLine_output (h : d.Outcome op d' last)
    (hrules : (d.codec.rig .output).rules = outputTable)
    (hcall : d.routing.inCall = true ↔ d.routing.mode = .inCall) {on : Bool}
    (hline : (d.codec.reconciler .output).InLine (d.facts on)) :
    (d'.codec.reconciler .output).InLine (d'.facts ((last .output).getD on)) := by
  cases h with
  | quiet h =>
    rw [h.codec, facts, h.mode, h.devices]
    exact hline
  | @streams _ p _ ons h _ =>
    have hfacts : ∀ b, d'.facts b = d.facts b := fun b => by rw [facts, facts, h.routing]
    dsimp only
    by_cases hp : Path.output = p
    · subst hp
      rw [if_pos rfl]
      rcases List.eq_nil_or_concat' ons with rfl | ⟨init, b, rfl⟩
      · rw [hfacts, h.codec]
        exact hline
      · rw [List.getLast?_concat]
        exact h.inLine_concat
    · rw [if_neg hp, hfacts, h.codec, reconciler_run_of_ne _ hp]
      exact hline
  | @rerouted _ p _ b h =>
    dsimp only
    by_cases hp : Path.output = p
    · subst hp
      rw [if_pos rfl, h.codec]
      exact Codec.inLine_serve_self _ .output _
    · -- the other half of the devices does not concern the playback rows
      rw [if_neg hp, h.codec, Codec.reconciler_serve_of_ne _ hp]
      have hmode : d.routing.mode = .inCall ↔ d'.routing.mode = .inCall := by rw [h.mode]
      have hhalf : Path.output.half d.routing.devices = Path.output.half d'.routing.devices := by
        rw [h.devices, Path.half_replace_of_ne hp]
      have halike : (d.facts on).Alike .output (d'.facts on) := ⟨hmode, hhalf, rfl⟩
      exact Codec.inLine_output_of_alike hrules halike hline
  | mode m hsteady =>
    have hmode : (d.facts on).mode = .inCall ↔ m = .inCall := hcall.symm.trans hsteady
    exact Codec.inLine_output_of_alike hrules ⟨hmode, rfl, rfl⟩ hline
  | regrouped m h =>
    have hline' := h.inLine .output
    rw [h.line, Line.on_standby] at hline'
    exact hline'

end

section

variable {σ μ : Type} [PcmDriver σ] [ModemLink μ]

/-- The flag of the last pass that an event makes over a path, if it makes any. -/
def lastFlag? (d : Device σ μ) (p : Path) : Event σ μ → Option Bool
  | .operation op => d.lastPass? op p
  | _ => none

/-- The flag of the last pass over a path in a run, or what it was before. -/
def powered (d : Device σ μ) (p : Path) (before : Bool) : List (Event σ μ) → Bool
  | [] => before
  | e :: events => (d.happen e).powered p ((d.lastFlag? p e).getD before) events

theorem powered_concat (d : Device σ μ) (p : Path) (before : Bool) (events : List (Event σ μ))
    (e : Event σ μ) : d.powered p before (events ++ [e]) =
      ((d.play events).lastFlag? p e).getD (d.powered p before events) := by
  induction events generalizing d before with
  | nil => rfl
  | cons e' events ih => exact ih (d.happen e') _

/-- Whether a substream is open for playback. -/
def playing [PcmLedger σ] (d : Device σ μ) : Bool :=
  decide (0 < PcmLedger.openCount d.card .hifiPlayback)

omit [PcmDriver σ] [ModemLink μ] in
/-- Where only the active stream runs, the path is in use exactly while something plays. -/
theorem Owns.on_eq_playing [PcmLedger σ] {d : Device σ μ} (h : d.Owns)
    (hsole : (d.line .output).Sole) : (d.line .output).on = d.playing := by
  have hplays : d.playing = true ↔ ∃ i, (d.line .output).running i = true := by
    rw [playing, decide_eq_true_iff, h.openCount_playback, Int.natCast_pos, List.countP_pos_iff]
    constructor
    · rintro ⟨s, hs, hsub⟩
      obtain ⟨i, hi⟩ := List.mem_iff_getElem?.1 hs
      exact ⟨i, by rw [running_output, outputSubstream?, hi]; exact hsub⟩
    · rintro ⟨i, hi⟩
      rw [running_output] at hi
      obtain ⟨id, hid⟩ := Option.isSome_iff_exists.1 hi
      obtain ⟨s, hs, hsub⟩ := outputSubstream?_eq_some hid
      exact ⟨s, List.mem_of_getElem? hs, by rw [hsub]; rfl⟩
  rw [Bool.eq_iff_iff, hplays]
  constructor
  · intro hon
    by_contra hidle
    rw [Line.on_eq_false fun i => by simpa using not_exists.1 hidle i] at hon
    cases hon
  · rintro ⟨i, hi⟩
    exact hsole.on_of_running hi

end

/-! ## Runs -/

section

variable {σ μ : Type} [PcmDriver σ] [ModemLink μ] {config : Config} {card : σ} {link : μ}
  {d₀ : Device σ μ} (hopen : Device.acquire config .ofTables card link = .ok d₀)

include hopen

/-- **Every run** leaves the playback path in line with the flag of the last pass over it. -/
theorem inLine_output_play (events : List (Event σ μ)) :
    ((d₀.play events).codec.reconciler .output).InLine
      ((d₀.play events).facts (d₀.powered .output false events)) := by
  induction events using List.reverseRecOn with
  | nil =>
    have hstart := (settled_acquire hopen).inLine .output
    rwa [now, (acquire_spec hopen).2.1 .output] at hstart
  | append_singleton events e ih =>
    rw [powered_concat, play_concat]
    cases e with
    | operation op =>
      exact ((d₀.play events).step_outcome op).inLine_output
        ((sound_play hopen events).1.rules .output) (inCall_iff_play hopen events) ih
    | card | modem => exact ih

/-- In a careful run the flag of the last pass tells whether the path is in use. -/
theorem powered_of_careful {events : List (Event σ μ)} (hcareful : d₀.Careful [] events) :
    d₀.powered .output false events = ((d₀.play events).line .output).on := by
  obtain ⟨closed, hsettled⟩ := (settled_acquire hopen).play hcareful
  have hsound := sound_play hopen events
  have hnow := Codec.inLine_output_of_alike (hsound.1.rules .output) (hsettled.alike .output)
    (hsettled.inLine .output)
  exact hsound.on_eq_of_inLine (outputs_play hopen events) (outputs_play hopen events)
    (inLine_output_play hopen events) hnow

end

/-- **Power follows the last pass**: on the mixer made for the tables, and a card that keeps
account of its substreams, after every run, whichever streams were closed, used again or dropped
in it, the rows of the playback path that are not set once are as mode, devices and the flag of
the last pass over the path want them. So they are as what plays would want them exactly where
that flag tells whether a substream is open for playback, and in a careful run it does. -/
theorem playback_power {σ μ : Type} [PcmDriver σ] [PcmLedger σ] [LawfulLedger σ] [ModemLink μ]
    {config : Config} {card : σ} {link : μ} {d₀ : Device σ μ}
    (hopen : Device.acquire config .ofTables card link = .ok d₀)
    (hfree : ∀ lane, PcmLedger.openCount card lane = 0) {events : List (Event σ μ)}
    (hspares : ∀ e ∈ events, e.SparesCard) :
    let d := d₀.play events
    let follows := fun on => ∀ t ∈ d.outputPath.rows, t.rule.once = false →
      t.applied = t.rule.desired (d.facts on)
    d.outputPath.rows.map (·.rule) = outputTable ∧
      follows (d₀.powered .output false events) ∧
      (follows d.playing ↔ d₀.powered .output false events = d.playing) ∧
      (d₀.Careful [] events → d₀.powered .output false events = d.playing) := by
  intro d follows
  have hsound : d.codec.Sound := sound_play hopen events
  have hfollows : ∀ on, follows on ↔ (d.codec.reconciler .output).InLine (d.facts on) := fun on =>
    ⟨fun h t ht hsteady _ => h t ht hsteady,
      fun h t ht hsteady => h t ht hsteady (hsound.not_inert (p := .output) ht)⟩
  have hpowered := inLine_output_play hopen events
  refine ⟨hsound.1.rules .output, (hfollows _).2 hpowered, ⟨fun hplays => ?_, fun heq => ?_⟩,
    fun hcareful => ?_⟩
  · exact hsound.on_eq_of_inLine (outputs_play hopen events) (outputs_play hopen events) hpowered
      ((hfollows _).1 hplays)
  · rw [← heq]
    exact (hfollows _).2 hpowered
  · obtain ⟨closed, hsettled⟩ := (settled_acquire hopen).play hcareful
    rw [powered_of_careful hopen hcareful]
    exact (owns_play hopen hfree hspares).on_eq_playing (hsettled.orderly.sole .output)

/-- After a write that failed, in a call that moved to the loudspeaker, the path is powered for
the stream that plays again. -/
theorem playback_power_in_call :
    let events : List (Event SoftCard ModemRecorder) := [
      .operation (.openOutput .speaker),
      .operation (.write 0 [0, 0, 0, 0]),
      .card fun card => card.refuseTransfers true,
      .operation (.write 0 [0, 0, 0, 0]),
      .card fun card => card.refuseTransfers false,
      .operation (.setMode 2),
      .operation (.write 0 [0, 0, 0, 0]),
      .operation (.routeOutput .speaker)]
    let d := inSoftware.play events
    inSoftware.Careful [] events ∧ d.playing = true ∧
      inSoftware.powered .output false events = true ∧
      ∀ t ∈ d.outputPath.rows, t.rule.once = false → t.applied = t.rule.desired (d.facts true) := by
  intro events d
  have hspares : ∀ e ∈ events, e.SparesCard := by
    intro e he
    simp only [events, List.mem_cons, List.not_mem_nil, or_false] at he
    rcases he with rfl | rfl | rfl | rfl | rfl | rfl | rfl | rfl
    all_goals first | exact trivial | exact fun c => SoftCard.keeps_of_substreams rfl
  have hcareful : inSoftware.Careful [] events := by decide +kernel
  have hplaying : d.playing = true := by decide +kernel
  obtain ⟨-, hfollows, -, hagree⟩ := playback_power acquire_inSoftware (fun _ => rfl) hspares
  have hpowered : inSoftware.powered .output false events = true := (hagree hcareful).trans hplaying
  rw [hpowered] at hfollows
  exact ⟨hcareful, hplaying, hpowered, hfollows⟩

/-- A stream that is dropped while it plays leaves the path powered with nothing to play, and one
that plays after it was closed is cut off when playback is routed elsewhere. -/
theorem power_without_playback :
    let dropped := inSoftware.play [
      .operation (.openOutput .speaker),
      .operation (.write 0 [0, 0, 0, 0]),
      .operation (.dropOutput 0)]
    let reused := inSoftware.play [
      .operation (.openOutput .speaker),
      .operation (.closeOutput 0),
      .operation (.write 0 [0, 0, 0, 0]),
      .operation (.routeOutput .earpiece)]
    Device.acquire {} .ofTables {} {} = .ok inSoftware ∧
      (dropped.playing = false ∧ ∃ t ∈ dropped.outputPath.rows, t.rule.once = false ∧
        t.applied = true ∧ t.rule.desired (dropped.facts false) = false) ∧
      (reused.playing = true ∧ ∃ t ∈ reused.outputPath.rows, t.rule.once = false ∧
        t.applied = false ∧ t.rule.desired (reused.facts true) = true) := by
  intro dropped reused
  exact ⟨acquire_inSoftware, by decide +kernel, by decide +kernel⟩

end Device

end HandsetAudio
