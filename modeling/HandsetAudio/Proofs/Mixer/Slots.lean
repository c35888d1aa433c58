import HandsetAudio.Mixer.Reconciler
import Mathlib.Data.List.Basic

/-!
# Writes to slots

A reconciler changes a mixer only by writing slots, so what it does is a list of
`SlotWrite`s, and `Mixer.perform` does one after the other. This file says what such a
list does to the three things that can be seen of a mixer:

> `layout_perform`: names, kinds, limits, choices and numbers of slots stay as they are.
> `journal_perform`: the journal grows by the entries of the accepted writes, in order.
> `valueAt_perform_of_mem`: a slot that only one value is written to holds it afterwards,
> if it is written at all.
> `valueAt_perform_of_forall_ne`: else it holds what it held before.

Whether a control is found, how a row resolves and which writes are accepted depends on
the `layout` alone. All of this can therefore be said of the mixer before a pass, however
far the pass has come.
-/

namespace HandsetAudio

/-- The control without what its slots hold. -/
def Control.blank (c : Control) : Control := { c with values := List.replicate c.values.length 0 }

/-- Storing values leaves the control the same but for what its slots hold. -/
theorem Control.blank_store (c : Control) (values : List Int)
    (h : values.length = c.values.length) : ({ c with values } : Control).blank = c.blank := by
  simp [Control.blank, h]

/-- What a control is called and what it stands for is not in its slots. -/
theorem Control.same_of_blank_eq {c c' : Control} (h : c.blank = c'.blank) :
    c.name = c'.name ∧ c.kind = c'.kind ∧ c.choices = c'.choices := by
  simp only [Control.blank, Control.mk.injEq] at h
  exact ⟨h.1, h.2.1, h.2.2.2.2.1⟩

/-- A write that a mixer is asked for. -/
structure SlotWrite where
  id : ControlId
  slot : Nat
  value : Int
  deriving DecidableEq, Repr

namespace Mixer

/-- What no write changes: the controls without what their slots hold. -/
def layout (m : Mixer) : List Control := m.controls.map Control.blank

/-- The mixer after one write. -/
def put (m : Mixer) (w : SlotWrite) : Mixer := (m.set w.id w.slot w.value).2

/-- The mixer after writes that are asked for one after the other. -/
def perform (m : Mixer) (ws : List SlotWrite) : Mixer := ws.foldl put m

/-- Whether the mixer accepts a write. -/
def Accepts (m : Mixer) (w : SlotWrite) : Prop := (m.set w.id w.slot w.value).1 = .ok ()

/-- The journal entry of a write, if the mixer accepts it. -/
def logged? (m : Mixer) (w : SlotWrite) : Option MixerWrite :=
  match (m.set w.id w.slot w.value).1 with
  | .ok _ => (m.controls[w.id]?).map fun c => ⟨c.name, w.slot, w.value⟩
  | .error _ => none

/-- What a slot holds. -/
def valueAt (m : Mixer) (id : ControlId) (slot : Nat) : Option Int :=
  (m.controls[id]?).bind (·.values[slot]?)

@[simp] theorem perform_nil (m : Mixer) : m.perform [] = m := rfl

@[simp] theorem perform_cons (m : Mixer) (w : SlotWrite) (ws : List SlotWrite) :
    m.perform (w :: ws) = (m.put w).perform ws := rfl

/-- Writes in a row. -/
theorem perform_append (m : Mixer) (ws vs : List SlotWrite) :
    m.perform (ws ++ vs) = (m.perform ws).perform vs := List.foldl_append

/-! ## One write -/

/-- A write is accepted by the control that it names, by its limits and by nothing else. -/
theorem accepts_iff {m : Mixer} {w : SlotWrite} :
    m.Accepts w ↔ ∃ c, m.controls[w.id]? = some c ∧ w.slot < c.values.length ∧
      c.refusesWrites = false ∧ 0 ≤ w.value ∧ w.value ≤ c.max := by
  unfold Accepts Mixer.set
  cases hc : m.controls[w.id]? with
  | none => simp
  | some c =>
    simp only [Option.some.injEq, exists_eq_left']
    split
    next hslot => simp; omega
    next hslot =>
      split
      next hbad => simp only [reduceCtorEq, false_iff]; grind
      next hok => simp only [true_iff]; grind

/-- An accepted write stores the value and is entered in the journal. -/
theorem put_of_accepts {m : Mixer} {w : SlotWrite} {c : Control}
    (hc : m.controls[w.id]? = some c) (h : m.Accepts w) :
    m.put w = { controls := m.controls.set w.id { c with values := c.values.set w.slot w.value }
                journal := m.journal ++ [⟨c.name, w.slot, w.value⟩] } := by
  obtain ⟨c', hc', hslot, hr, h0, hmax⟩ := accepts_iff.1 h
  obtain rfl : c = c' := Option.some.inj (hc.symm.trans hc')
  unfold put Mixer.set
  simp only [hc]
  rw [if_neg (by omega), if_neg (by simp [hr]; omega)]

/-- A refused write changes nothing. -/
theorem put_of_not_accepts {m : Mixer} {w : SlotWrite} (h : ¬m.Accepts w) : m.put w = m := by
  unfold Accepts put Mixer.set at *
  split
  next => rfl
  next c hc =>
    simp only [hc] at h
    split
    next => rfl
    next hslot =>
      split
      next => rfl
      next hok => rw [if_neg hslot, if_neg hok] at h; exact absurd rfl h

/-- An accepted write is entered under the name of its control. -/
theorem logged?_of_accepts {m : Mixer} {w : SlotWrite} {c : Control}
    (hc : m.controls[w.id]? = some c) (h : m.Accepts w) :
    m.logged? w = some ⟨c.name, w.slot, w.value⟩ := by
  unfold Accepts at h
  simp [logged?, h, hc]

/-- A refused write is not entered. -/
theorem logged?_of_not_accepts {m : Mixer} {w : SlotWrite} (h : ¬m.Accepts w) :
    m.logged? w = none := by
  unfold Accepts at h
  unfold logged?
  split
  next hok => exact absurd hok h
  next => rfl

@[simp] theorem layout_put (m : Mixer) (w : SlotWrite) : (m.put w).layout = m.layout := by
  by_cases h : m.Accepts w
  · obtain ⟨c, hc, -⟩ := accepts_iff.1 h
    obtain ⟨hlt, hget⟩ := List.getElem?_eq_some_iff.1 hc
    have hlt' : w.id < (m.controls.map Control.blank).length := by simpa using hlt
    rw [put_of_accepts hc h]
    simp only [layout, List.map_set]
    rw [Control.blank_store _ _ (by simp)]
    conv_rhs => rw [← List.set_getElem_self hlt']
    simp [hget]
  · rw [put_of_not_accepts h]

/-- The journal after one write. -/
theorem journal_put (m : Mixer) (w : SlotWrite) :
    (m.put w).journal = m.journal ++ (m.logged? w).toList := by
  by_cases h : m.Accepts w
  · obtain ⟨c, hc, -⟩ := accepts_iff.1 h
    rw [put_of_accepts hc h, logged?_of_accepts hc h]
    rfl
  · rw [put_of_not_accepts h, logged?_of_not_accepts h]
    simp

/-- A write leaves every other slot alone. -/
theorem valueAt_put_of_ne {m : Mixer} {w : SlotWrite} {id : ControlId} {slot : Nat}
    (hne : ¬(w.id = id ∧ w.slot = slot)) : (m.put w).valueAt id slot = m.valueAt id slot := by
  by_cases h : m.Accepts w
  · obtain ⟨c, hc, -⟩ := accepts_iff.1 h
    rw [put_of_accepts hc h]
    unfold valueAt
    by_cases hid : w.id = id
    · subst hid
      obtain ⟨hlt, hget⟩ := List.getElem?_eq_some_iff.1 hc
      have hslot : w.slot ≠ slot := fun he => hne ⟨rfl, he⟩
      simp [hlt, hget, List.getElem?_set_ne hslot]
    · rw [List.getElem?_set_ne hid]
  · rw [put_of_not_accepts h]

/-- An accepted write can be read back. -/
theorem valueAt_put_self {m : Mixer} {w : SlotWrite} (h : m.Accepts w) :
    (m.put w).valueAt w.id w.slot = some w.value := by
  obtain ⟨c, hc, hslot, -⟩ := accepts_iff.1 h
  obtain ⟨hlt, -⟩ := List.getElem?_eq_some_iff.1 hc
  rw [put_of_accepts hc h]
  simp [valueAt, hlt, hslot]

/-! ## What depends on the layout alone -/

theorem getElem?_layout (m : Mixer) (id : ControlId) :
    m.layout[id]? = (m.controls[id]?).map Control.blank := by
  simp [layout]

theorem find?_eq_layout (m : Mixer) (name : String) :
    m.find? name = m.layout.findIdx? (·.name == name) := by
  unfold find? layout
  rw [List.findIdx?_map]
  rfl

theorem slots_eq_layout (m : Mixer) (id : ControlId) :
    m.slots id = ((m.layout[id]?).map (·.values.length)).getD 0 := by
  rw [getElem?_layout]
  cases hc : m.controls[id]? <;> simp [slots, hc, Control.blank]

/-- Whether a write is accepted depends on the layout only. -/
theorem accepts_iff_layout {m : Mixer} {w : SlotWrite} :
    m.Accepts w ↔ ∃ c, m.layout[w.id]? = some c ∧ w.slot < c.values.length ∧
      c.refusesWrites = false ∧ 0 ≤ w.value ∧ w.value ≤ c.max := by
  rw [accepts_iff, getElem?_layout]
  cases hc : m.controls[w.id]? <;> simp [Control.blank]

variable {m m' : Mixer} (h : m.layout = m'.layout)

include h

theorem find?_congr (name : String) : m.find? name = m'.find? name := by
  rw [find?_eq_layout, find?_eq_layout, h]

theorem slots_congr (id : ControlId) : m.slots id = m'.slots id := by
  rw [slots_eq_layout, slots_eq_layout, h]

theorem accepts_congr (w : SlotWrite) : m.Accepts w ↔ m'.Accepts w := by
  rw [accepts_iff_layout, accepts_iff_layout, h]

theorem logged?_congr (w : SlotWrite) : m.logged? w = m'.logged? w := by
  by_cases hw : m.Accepts w
  · have hw' := (accepts_congr h w).1 hw
    obtain ⟨c, hc, -⟩ := accepts_iff.1 hw
    obtain ⟨c', hc', -⟩ := accepts_iff.1 hw'
    have hname : c.name = c'.name := by
      have hblank := congrArg (·[w.id]?) h
      simp only [getElem?_layout, hc, hc', Option.map_some, Option.some.injEq] at hblank
      exact (Control.same_of_blank_eq hblank).1
    rw [logged?_of_accepts hc hw, logged?_of_accepts hc' hw', hname]
  · rw [logged?_of_not_accepts hw, logged?_of_not_accepts (mt (accepts_congr h w).2 hw)]

omit h

end Mixer

/-- The control that a row stands for, and the value that switches it on. -/
def ControlRule.target? (m : Mixer) (rule : ControlRule) : Option (ControlId × Int) :=
  (rule.resolve m).toOption

/-- A row resolves alike on mixers of one layout. -/
theorem ControlRule.resolve_congr {m m' : Mixer} (h : m.layout = m'.layout) (rule : ControlRule) :
    rule.resolve m = rule.resolve m' := by
  unfold ControlRule.resolve
  rw [Mixer.find?_congr h]
  cases m'.find? rule.name with
  | none => rfl
  | some id =>
    cases rule.target with
    | level value => rfl
    | choice choice =>
      have hblank := congrArg (·[id]?) h
      simp only [Mixer.getElem?_layout] at hblank
      cases hc : m.controls[id]? with
      | none => cases hc' : m'.controls[id]? <;> simp_all
      | some c =>
        cases hc' : m'.controls[id]? with
        | none => simp_all
        | some c' =>
          simp only [hc, hc', Option.map_some, Option.some.injEq] at hblank
          obtain ⟨-, hkind, hchoices⟩ := Control.same_of_blank_eq hblank
          simp only [hc, hc', hkind, hchoices]

theorem ControlRule.target?_congr {m m' : Mixer} (h : m.layout = m'.layout) (rule : ControlRule) :
    rule.target? m = rule.target? m' := by
  unfold ControlRule.target?
  rw [rule.resolve_congr h]

namespace Mixer

/-! ## Several writes -/

@[simp] theorem layout_perform (m : Mixer) (ws : List SlotWrite) :
    (m.perform ws).layout = m.layout := by
  induction ws generalizing m with
  | nil => rfl
  | cons w ws ih => rw [perform_cons, ih, layout_put]

/-- The journal after some writes: those that are accepted, in their order. -/
theorem journal_perform (m : Mixer) (ws : List SlotWrite) :
    (m.perform ws).journal = m.journal ++ ws.filterMap m.logged? := by
  induction ws generalizing m with
  | nil => simp
  | cons w ws ih =>
    have hcongr : (m.put w).logged? = m.logged? := funext (logged?_congr (layout_put m w))
    rw [perform_cons, ih, journal_put, hcongr, List.append_assoc, List.filterMap_cons]
    cases m.logged? w <;> rfl

/-- Writes that pass a slot by leave it alone. -/
theorem valueAt_perform_of_forall_ne {id : ControlId} {slot : Nat} :
    ∀ (ws : List SlotWrite) (m : Mixer), (∀ w ∈ ws, ¬(w.id = id ∧ w.slot = slot)) →
      (m.perform ws).valueAt id slot = m.valueAt id slot
  | [], _, _ => rfl
  | w :: ws, m, h => by
    rw [perform_cons, valueAt_perform_of_forall_ne ws _ fun v hv => h v (List.mem_cons_of_mem _ hv),
      valueAt_put_of_ne (h w (List.mem_cons_self ..))]

/-- Where every write to a slot is accepted and stores the same value, the slot holds
it as soon as there is such a write, whatever is written elsewhere in between. -/
theorem valueAt_perform_of_mem {id : ControlId} {slot : Nat} {v : Int} :
    ∀ (ws : List SlotWrite) (m : Mixer),
      (∀ w ∈ ws, w.id = id → w.slot = slot → w.value = v ∧ m.Accepts w) →
      (∃ w ∈ ws, w.id = id ∧ w.slot = slot) → (m.perform ws).valueAt id slot = some v
  | [], _, _, h => by simp at h
  | w :: ws, m, hsame, hex => by
    rw [perform_cons]
    have hsame' : ∀ u ∈ ws, u.id = id → u.slot = slot → u.value = v ∧ (m.put w).Accepts u := by
      intro u hu hid hslot
      obtain ⟨hval, hacc⟩ := hsame u (List.mem_cons_of_mem _ hu) hid hslot
      exact ⟨hval, (accepts_congr (layout_put m w) u).2 hacc⟩
    by_cases hlater : ∃ u ∈ ws, u.id = id ∧ u.slot = slot
    · exact valueAt_perform_of_mem ws _ hsame' hlater
    · have hnone : ∀ u ∈ ws, ¬(u.id = id ∧ u.slot = slot) := fun u hu he => hlater ⟨u, hu, he⟩
      rw [valueAt_perform_of_forall_ne ws _ hnone]
      obtain ⟨u, hu, hid, hslot⟩ := hex
      rcases List.mem_cons.1 hu with rfl | hu'
      · obtain ⟨hval, hacc⟩ := hsame u (List.mem_cons_self ..) hid hslot
        rw [← hid, ← hslot, ← hval]
        exact valueAt_put_self hacc
      · exact absurd ⟨hid, hslot⟩ (hnone u hu')

/-! ## Every slot of a control -/

/-- The writes of one value to every slot of a control, the first slot first. -/
def slotWrites (m : Mixer) (id : ControlId) (value : Int) : List SlotWrite :=
  (List.range (m.slots id)).map fun slot => { id, slot, value }

@[simp] theorem mem_slotWrites {m : Mixer} {id : ControlId} {value : Int} {w : SlotWrite} :
    w ∈ m.slotWrites id value ↔ w.id = id ∧ w.value = value ∧ w.slot < m.slots id := by
  obtain ⟨wid, wslot, wvalue⟩ := w
  simp only [slotWrites, List.mem_map, List.mem_range, SlotWrite.mk.injEq]
  constructor
  · rintro ⟨slot, hlt, rfl, rfl, rfl⟩
    exact ⟨rfl, rfl, hlt⟩
  · rintro ⟨rfl, rfl, hlt⟩
    exact ⟨wslot, hlt, rfl, rfl, rfl⟩

theorem slotWrites_congr {m m' : Mixer} (h : m.layout = m'.layout) (id : ControlId) (value : Int) :
    m.slotWrites id value = m'.slotWrites id value := by
  unfold slotWrites
  rw [slots_congr h]

/-- The writes that bring every slot of a target control to its value, or to zero; none
without a target. -/
def targetWrites (m : Mixer) (target : Option (ControlId × Int)) (on : Bool) : List SlotWrite :=
  match target with
  | none => []
  | some (id, value) => m.slotWrites id (if on then value else 0)

theorem targetWrites_congr {m m' : Mixer} (h : m.layout = m'.layout)
    (target : Option (ControlId × Int)) (on : Bool) :
    m.targetWrites target on = m'.targetWrites target on := by
  cases target with
  | none => rfl
  | some target => exact slotWrites_congr h ..

theorem setFrom_eq_perform (id : ControlId) (value : Int) :
    ∀ (count slot : Nat) (m : Mixer), m.setFrom id value slot count =
      m.perform ((List.range' slot count).map fun slot => { id, slot, value })
  | 0, _, _ => rfl
  | count + 1, slot, m => by
    rw [setFrom, setFrom_eq_perform id value count (slot + 1), List.range'_succ]
    rfl

/-- Setting a control is writing each of its slots. -/
theorem setAll_eq_perform (m : Mixer) (id : ControlId) (value : Int) :
    m.setAll id value = m.perform (m.slotWrites id value) := by
  rw [setAll, setFrom_eq_perform, slotWrites, List.range_eq_range']

end Mixer

end HandsetAudio
