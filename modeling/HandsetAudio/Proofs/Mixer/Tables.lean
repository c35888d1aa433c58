import HandsetAudio.Proofs.DeviceSet
import HandsetAudio.Proofs.Mixer.RunLaw

/-!
# The two tables and the mixer made for them

What the proofs about the device use of `outputTable`, `inputTable` and
`Mixer.ofTables`. That names are distinct and that every row can be written is looked up
row by row; so is the shape of the rows, from which follows what they can tell apart:

> `desired_output_of_alike`: the playback rows see whether a call is on, the outputs, and
> whether the path is in use.
> `desired_input_iff`: the capture rows also see which microphone the mode and the outputs
> pick.
-/

namespace HandsetAudio

open DeviceSet ControlRule

namespace Mixer

/-- The slots of the row's control tell whether the row is on. -/
def Shows (m : Mixer) (rule : ControlRule) : Prop :=
  ∃ id value, rule.resolve m = .ok (id, value) ∧ 0 < m.slots id ∧ value ≠ 0

instance (m : Mixer) (rule : ControlRule) : Decidable (m.Shows rule) :=
  match h : rule.resolve m with
  | .ok (id, value) => decidable_of_iff (0 < m.slots id ∧ value ≠ 0) (by simp [Shows, h])
  | .error _ => isFalse (by simp [Shows, h])

theorem shows_congr {m m' : Mixer} (h : m.layout = m'.layout) {rule : ControlRule} :
    m.Shows rule ↔ m'.Shows rule := by
  unfold Shows
  simp only [rule.resolve_congr h, slots_congr h]

/-- Slots that tell whether a row is on cannot tell both. -/
theorem Shows.holds_inj {m : Mixer} {rule : ControlRule} {a b : Bool} (h : m.Shows rule)
    (ha : m.Holds rule a) (hb : m.Holds rule b) : a = b := by
  obtain ⟨id, value, hresolve, hpos, hne⟩ := h
  obtain ⟨ida, va, hra, hslotsa⟩ := ha
  obtain ⟨idb, vb, hrb, hslotsb⟩ := hb
  rw [hresolve] at hra hrb
  obtain ⟨rfl, rfl⟩ := Prod.mk.inj (Except.ok.inj hra)
  obtain ⟨rfl, rfl⟩ := Prod.mk.inj (Except.ok.inj hrb)
  have hva := hslotsa 0 hpos
  have hvb := hslotsb 0 hpos
  rw [hva] at hvb
  cases a <;> cases b <;> simp_all

end Mixer

/-! ## Row by row -/

set_option maxRecDepth 10000 in
theorem nodup_names_tables : ((outputTable ++ inputTable).map (·.name)).Nodup := by
  decide +kernel

/-- The mixer made for the tables has what their rows ask for. -/
theorem serves_and_shows_ofTables : ∀ rule ∈ outputTable ++ inputTable,
    Mixer.ofTables.Serves rule ∧ Mixer.ofTables.Shows rule := by
  decide +kernel

theorem serves_ofTables : ∀ rule ∈ outputTable ++ inputTable, Mixer.ofTables.Serves rule :=
  fun rule hrule => (serves_and_shows_ofTables rule hrule).1

theorem shows_ofTables : ∀ rule ∈ outputTable ++ inputTable, Mixer.ofTables.Shows rule :=
  fun rule hrule => (serves_and_shows_ofTables rule hrule).2

/-- A playback row that is not set once minds outputs only, and of the modes only a call. -/
theorem shape_outputTable : ∀ rule ∈ outputTable, rule.once = false →
    (rule.modes = .all ∨ rule.modes = .inCall) ∧ (rule.keep = ∅ ∨ rule.keep = .inCall) ∧
      rule.devices ∩ allOutputs = rule.devices ∧ rule.excluded = ∅ := by
  decide +kernel

/-- A capture row that is not set once belongs to the main microphone, the second
microphone, the capture converter, or the modem's uplink. -/
theorem shape_inputTable : ∀ rule ∈ inputTable, rule.once = false →
    (rule.modes, rule.devices, rule.excluded, rule.keep) ∈
      [(ModeSet.voice, builtinMic, speaker, ModeSet.inCall),
        (ModeSet.all, builtinMic, earpiece, ModeSet.inCall),
        (ModeSet.all, allInputs, ∅, ∅),
        (ModeSet.inCall, allInputs, ∅, ModeSet.inCall)] := by
  decide +kernel

/-- Rows that are not set once are kept on in a call only, if at all. -/
theorem keep_tables : ∀ rule ∈ outputTable ++ inputTable, rule.once = false →
    rule.keep = ∅ ∨ rule.keep = .inCall := by
  intro rule hrule hsteady
  rcases List.mem_append.1 hrule with hout | hin
  · exact (shape_outputTable rule hout hsteady).2.1
  · have hshape := shape_inputTable rule hin hsteady
    simp only [List.mem_cons, Prod.mk.injEq, List.not_mem_nil, or_false] at hshape
    rcases hshape with h | h | h | h <;> simp [h]

/-- The rows of one path have distinct names. -/
theorem Path.nodup_names_table (p : Path) : (p.table.map (·.name)).Nodup := by
  have h := nodup_names_tables
  rw [List.map_append] at h
  cases p with
  | output => exact h.of_append_left
  | input => exact h.of_append_right

/-- No control is driven by both paths. -/
theorem Path.name_ne_of_ne {p q : Path} (h : p ≠ q) {rule rule' : ControlRule}
    (hrule : rule ∈ p.table) (hrule' : rule' ∈ q.table) : rule.name ≠ rule'.name := by
  have hdisjoint := nodup_names_tables
  rw [List.map_append, List.nodup_append] at hdisjoint
  have hne := hdisjoint.2.2
  cases p <;> cases q
  · exact absurd rfl h
  · exact hne _ (List.mem_map_of_mem hrule) _ (List.mem_map_of_mem hrule')
  · exact (hne _ (List.mem_map_of_mem hrule') _ (List.mem_map_of_mem hrule)).symm
  · exact absurd rfl h

theorem Path.mem_tables {p : Path} {rule : ControlRule} (h : rule ∈ p.table) :
    rule ∈ outputTable ++ inputTable := by
  cases p with
  | output => exact List.mem_append_left _ h
  | input => exact List.mem_append_right _ h

/-! ## What rows can tell apart -/

@[simp] theorem ModeSet.contains_all (m : Mode) : ModeSet.all.contains m = true := by
  cases m <;> rfl

@[simp] theorem ModeSet.contains_inCall (m : Mode) :
    ModeSet.inCall.contains m = decide (m = .inCall) := by
  cases m <;> rfl

@[simp] theorem ModeSet.contains_empty (m : Mode) : (∅ : ModeSet).contains m = false := by
  cases m <;> rfl

/-- Outside a call nothing is wanted of a path that is not in use. -/
theorem not_desired_idle {rule : ControlRule} (hrule : rule ∈ outputTable ++ inputTable)
    (hsteady : rule.once = false) {f : Facts} (hmode : f.mode ≠ .inCall) (hoff : f.on = false) :
    rule.desired f = false := by
  have hkeep : rule.keep.contains f.mode = false := by
    rcases keep_tables rule hrule hsteady with hk | hk <;> simp [hk, hmode]
  simp [desired, hoff, hkeep, hsteady]

/-- Facts that differ in nothing but the other path's devices and the mode outside a
call. -/
structure Facts.Alike (p : Path) (f f' : Facts) : Prop where
  call : f.mode = .inCall ↔ f'.mode = .inCall
  devices : p.half f.devices = p.half f'.devices
  on : f.on = f'.on

theorem Facts.Alike.refl (p : Path) (f : Facts) : f.Alike p f := ⟨Iff.rfl, rfl, rfl⟩

theorem Facts.Alike.trans {p : Path} {f g h : Facts} (hfg : f.Alike p g) (hgh : g.Alike p h) :
    f.Alike p h :=
  ⟨hfg.call.trans hgh.call, hfg.devices.trans hgh.devices, hfg.on.trans hgh.on⟩

/-- Playback rows do not tell alike facts apart. -/
theorem desired_output_of_alike {f f' : Facts} (h : f.Alike .output f') {rule : ControlRule}
    (hrule : rule ∈ outputTable) (hsteady : rule.once = false) :
    rule.desired f = rule.desired f' := by
  obtain ⟨hmodes, hkeep, hdevices, hexcluded⟩ := shape_outputTable rule hrule hsteady
  have hmeet : rule.devices.intersects f.devices = rule.devices.intersects f'.devices :=
    intersects_congr hdevices h.devices
  have hcall : decide (f.mode = .inCall) = decide (f'.mode = .inCall) := by simp only [h.call]
  have hmode : rule.modes.contains f.mode = rule.modes.contains f'.mode := by
    rcases hmodes with hm | hm <;> simp [hm, hcall]
  have hkept : rule.keep.contains f.mode = rule.keep.contains f'.mode := by
    rcases hkeep with hk | hk <;> simp [hk, hcall]
  simp only [desired, hexcluded, empty_intersects, hmeet, hmode, hkept, h.on]

/-- The first switch of the main microphone's rows. -/
def mainMicSwitch : ControlRule :=
  ((level "IN1L Switch" 1 .voice builtinMic).excluding speaker).keptInCall

/-- The first switch of the second microphone's rows. -/
def secondMicSwitch : ControlRule :=
  ((level "IN2L Switch" 1 .all builtinMic).excluding earpiece).keptInCall

theorem mainMicSwitch_mem : mainMicSwitch ∈ inputTable := by decide

theorem secondMicSwitch_mem : secondMicSwitch ∈ inputTable := by decide

/-- Whether the main microphone is picked: in a conversation, away from the loudspeaker. -/
def Facts.mainMic (f : Facts) : Bool :=
  ModeSet.voice.contains f.mode && !speaker.intersects f.devices

/-- Whether the second microphone is picked: away from the earpiece. -/
def Facts.secondMic (f : Facts) : Bool := !earpiece.intersects f.devices

/-- Whether capture rows of a microphone can be on at all: the path is in use or a call
is on, from the built-in microphones. -/
def Facts.listening (f : Facts) : Bool :=
  (f.on || decide (f.mode = .inCall)) && builtinMic.intersects f.devices

theorem Facts.Alike.listening {f f' : Facts} (h : f.Alike .input f') :
    f.listening = f'.listening := by
  have hmeet : builtinMic.intersects f.devices = builtinMic.intersects f'.devices :=
    intersects_congr (by decide) h.devices
  simp only [Facts.listening, h.on, h.call, hmeet]

/-- What the rows of the main microphone are wanted for. -/
theorem desired_of_mainMic {rule : ControlRule} (hsteady : rule.once = false)
    (hshape : (rule.modes, rule.devices, rule.excluded, rule.keep) =
      (ModeSet.voice, builtinMic, speaker, ModeSet.inCall)) (f : Facts) :
    rule.desired f = (f.listening && f.mainMic) := by
  simp only [Prod.mk.injEq] at hshape
  obtain ⟨hm, hd, he, hk⟩ := hshape
  simp only [desired, hm, hd, he, hk, hsteady, ModeSet.contains_inCall, Facts.listening,
    Facts.mainMic, Bool.or_false]
  ac_rfl

/-- What the rows of the second microphone are wanted for. -/
theorem desired_of_secondMic {rule : ControlRule} (hsteady : rule.once = false)
    (hshape : (rule.modes, rule.devices, rule.excluded, rule.keep) =
      (ModeSet.all, builtinMic, earpiece, ModeSet.inCall)) (f : Facts) :
    rule.desired f = (f.listening && f.secondMic) := by
  simp only [Prod.mk.injEq] at hshape
  obtain ⟨hm, hd, he, hk⟩ := hshape
  simp [desired, hm, hd, he, hk, hsteady, Facts.listening, Facts.secondMic]

/-- What capture rows that are not set once are wanted for: a microphone, the capture
converter, or the modem's uplink. -/
theorem desired_inputTable {rule : ControlRule} (hrule : rule ∈ inputTable)
    (hsteady : rule.once = false) :
    (∀ f, rule.desired f = (f.listening && f.mainMic)) ∨
      (∀ f, rule.desired f = (f.listening && f.secondMic)) ∨
      (∀ f, rule.desired f = (f.on && allInputs.intersects f.devices)) ∨
      (∀ f, rule.desired f = (decide (f.mode = .inCall) && allInputs.intersects f.devices)) := by
  have hshape := shape_inputTable rule hrule hsteady
  simp only [List.mem_cons, List.not_mem_nil, or_false] at hshape
  rcases hshape with hs | hs | hs | hs
  · exact .inl (desired_of_mainMic hsteady hs)
  · exact .inr (.inl (desired_of_secondMic hsteady hs))
  · refine .inr (.inr (.inl fun f => ?_))
    simp only [Prod.mk.injEq] at hs
    simp [desired, hs, hsteady]
  · refine .inr (.inr (.inr fun f => ?_))
    simp only [Prod.mk.injEq] at hs
    cases hcall : decide (f.mode = .inCall) <;> simp [desired, hs, hsteady, hcall]

/-- Capture rows tell alike facts apart by the microphones that they pick, if they listen
to any. -/
theorem desired_input_iff {f f' : Facts} (h : f.Alike .input f') :
    (∀ rule ∈ inputTable, rule.once = false → rule.desired f = rule.desired f') ↔
      (f.listening = true → f.mainMic = f'.mainMic ∧ f.secondMic = f'.secondMic) := by
  have hlistening := h.listening
  constructor
  · -- one row of each microphone tells
    intro hall hlisten
    have hmain := hall mainMicSwitch mainMicSwitch_mem rfl
    have hsecond := hall secondMicSwitch secondMicSwitch_mem rfl
    rw [desired_of_mainMic rfl rfl, desired_of_mainMic rfl rfl, ← hlistening, hlisten] at hmain
    rw [desired_of_secondMic rfl rfl, desired_of_secondMic rfl rfl, ← hlistening, hlisten]
      at hsecond
    exact ⟨by simpa using hmain, by simpa using hsecond⟩
  · intro hsame rule hrule hsteady
    have hinputs : allInputs.intersects f.devices = allInputs.intersects f'.devices :=
      intersects_congr (by decide) h.devices
    rcases desired_inputTable hrule hsteady with hd | hd | hd | hd <;> rw [hd, hd]
    · cases hl : f.listening with
      | true => rw [← hlistening, hl, (hsame hl).1]
      | false => rw [← hlistening, hl]; rfl
    · cases hl : f.listening with
      | true => rw [← hlistening, hl, (hsame hl).2]
      | false => rw [← hlistening, hl]; rfl
    · rw [h.on, hinputs]
    · simp only [h.call, hinputs]

end HandsetAudio
