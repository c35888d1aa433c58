import HandsetAudio.Proofs.Mixer.Trace
import Mathlib.Data.List.Nodup

/-!
# What slots hold after a call

`Mixer.Holds m rule on` says that every slot of a row's control holds the row's target,
or zero. Rows of different names have different controls, so a call decides the slots of
each row alone:

> `holds_serve`: a row that the call changes holds its new state.
> `value?_serve`: the slots of any other row stay as they are.
-/

namespace HandsetAudio

theorem ControlRule.target?_eq_some_iff {m : Mixer} {rule : ControlRule} {id : ControlId}
    {value : Int} : rule.target? m = some (id, value) ↔ rule.resolve m = .ok (id, value) := by
  unfold ControlRule.target?
  cases rule.resolve m <;> simp [Except.toOption]

/-- A row resolves to the first control of its name. -/
theorem ControlRule.find?_of_resolve {m : Mixer} {rule : ControlRule} {id : ControlId}
    {value : Int} (h : rule.resolve m = .ok (id, value)) : m.find? rule.name = some id := by
  unfold ControlRule.resolve at h
  split at h
  next => cases h
  next id' hfind =>
    split at h
    next =>
      simp only [Except.ok.injEq, Prod.mk.injEq] at h
      rw [hfind, h.1]
    next =>
      split at h
      next => cases h
      next =>
        split at h
        next => cases h
        next =>
          split at h
          next => cases h
          next =>
            simp only [Except.ok.injEq, Prod.mk.injEq] at h
            rw [hfind, h.1]

/-- A control has one name, so two names have two controls. -/
theorem Mixer.find?_inj {m : Mixer} {name name' : String} {id : ControlId}
    (h : m.find? name = some id) (h' : m.find? name' = some id) : name = name' := by
  unfold Mixer.find? at h h'
  obtain ⟨hlt, hname, -⟩ := List.findIdx?_eq_some_iff_getElem.1 h
  obtain ⟨hlt', hname', -⟩ := List.findIdx?_eq_some_iff_getElem.1 h'
  exact (eq_of_beq hname).symm.trans (eq_of_beq hname')

theorem Mixer.value?_of_find? {m : Mixer} {name : String} {id : ControlId}
    (h : m.find? name = some id) (slot : Nat) : m.value? name slot = m.valueAt id slot := by
  simp only [Mixer.value?, h, Mixer.valueAt]
  rfl

namespace Mixer

/-- Every slot of the row's control holds the row's target, or zero. -/
def Holds (m : Mixer) (rule : ControlRule) (on : Bool) : Prop :=
  ∃ id value, rule.resolve m = .ok (id, value) ∧
    ∀ slot < m.slots id, m.value? rule.name slot = some (if on then value else 0)

/-- The mixer serves a row: the row resolves, and every slot of its control accepts zero
and the row's target. -/
def Serves (m : Mixer) (rule : ControlRule) : Prop :=
  ∃ id value, rule.resolve m = .ok (id, value) ∧
    ∀ slot < m.slots id, m.Accepts ⟨id, slot, 0⟩ ∧ m.Accepts ⟨id, slot, value⟩

instance (m : Mixer) (w : SlotWrite) : Decidable (m.Accepts w) :=
  inferInstanceAs (Decidable (_ = _))

instance (m : Mixer) (rule : ControlRule) : Decidable (m.Serves rule) :=
  match h : rule.resolve m with
  | .ok (id, value) =>
    decidable_of_iff
      (∀ slot < m.slots id, m.Accepts ⟨id, slot, 0⟩ ∧ m.Accepts ⟨id, slot, value⟩)
      (by simp [Serves, h])
  | .error _ => isFalse (by simp [Serves, h])

theorem serves_congr {m m' : Mixer} (h : m.layout = m'.layout) {rule : ControlRule} :
    m.Serves rule ↔ m'.Serves rule := by
  unfold Serves
  simp only [rule.resolve_congr h, slots_congr h, accepts_congr h]

/-- Slots that stay as they are hold what they held. -/
theorem Holds.of_value?_eq {m m' : Mixer} {rule : ControlRule} {on : Bool} (h : m.Holds rule on)
    (hlayout : m'.layout = m.layout)
    (hvalue : ∀ slot, m'.value? rule.name slot = m.value? rule.name slot) : m'.Holds rule on := by
  obtain ⟨id, value, hresolve, hslots⟩ := h
  refine ⟨id, value, by rw [rule.resolve_congr hlayout, hresolve], fun slot hslot => ?_⟩
  rw [hvalue]
  exact hslots slot (by rwa [slots_congr hlayout] at hslot)

/-- The writes of a row go to the slots of its control. -/
theorem mem_writes {m : Mixer} {rule : ControlRule} {on : Bool} {w : SlotWrite} :
    w ∈ rule.writes m on ↔ ∃ value, rule.resolve m = .ok (w.id, value) ∧
      w.value = (if on then value else 0) ∧ w.slot < m.slots w.id := by
  unfold ControlRule.writes targetWrites
  cases htarget : rule.target? m with
  | none =>
    have hnone : ∀ value, rule.resolve m ≠ .ok (w.id, value) := by
      intro value hv
      rw [ControlRule.target?_eq_some_iff.2 hv] at htarget
      cases htarget
    simp [hnone]
  | some target =>
    obtain ⟨id, value⟩ := target
    have hresolve := ControlRule.target?_eq_some_iff.1 htarget
    rw [hresolve]
    simp only [mem_slotWrites, Except.ok.injEq, Prod.mk.injEq]
    constructor
    · rintro ⟨hid, hvalue, hslot⟩
      exact ⟨value, ⟨hid.symm, rfl⟩, hvalue, hid ▸ hslot⟩
    · rintro ⟨_, ⟨hid, rfl⟩, hvalue, hslot⟩
      exact ⟨hid.symm, hvalue, hid.symm ▸ hslot⟩

/-- A write is of one row's control. -/
theorem name_eq_of_mem_writes {m : Mixer} {rule rule' : ControlRule} {on on' : Bool} {w : SlotWrite}
    (h : w ∈ rule.writes m on) (h' : w ∈ rule'.writes m on') : rule.name = rule'.name := by
  obtain ⟨value, hresolve, -⟩ := mem_writes.1 h
  obtain ⟨value', hresolve', -⟩ := mem_writes.1 h'
  exact find?_inj (ControlRule.find?_of_resolve hresolve) (ControlRule.find?_of_resolve hresolve')

/-- Writes to rows of other names leave a control alone. -/
theorem value?_perform_of_ne {m : Mixer} {ws : List SlotWrite} {name : String}
    (h : ∀ w ∈ ws, ∃ (rule : ControlRule) (on : Bool), w ∈ rule.writes m on ∧ rule.name ≠ name)
    (slot : Nat) : (m.perform ws).value? name slot = m.value? name slot := by
  have hfind := find?_congr (layout_perform m ws) name
  cases hid : m.find? name with
  | none => simp [value?, hfind, hid]
  | some id =>
    rw [value?_of_find? (hfind.trans hid), value?_of_find? hid]
    refine valueAt_perform_of_forall_ne _ _ ?_
    rintro w hw ⟨rfl, -⟩
    obtain ⟨rule, on, hwrites, hne⟩ := h w hw
    obtain ⟨value, hresolve, -⟩ := mem_writes.1 hwrites
    exact hne (find?_inj (ControlRule.find?_of_resolve hresolve) hid)

/-- Changes of other names leave a control alone. -/
theorem value?_perform_changes {m : Mixer} {cs : List RowChange} {name : String}
    (h : ∀ c ∈ cs, c.rule.name ≠ name) (slot : Nat) :
    (m.perform (cs.flatMap fun c => c.rule.writes m c.on)).value? name slot =
      m.value? name slot := by
  refine value?_perform_of_ne (fun w hw => ?_) slot
  obtain ⟨c, hc, hwc⟩ := List.mem_flatMap.1 hw
  exact ⟨c.rule, c.on, hwc, h c hc⟩

/-- A change whose name nothing else changes is what the control holds afterwards. -/
theorem holds_perform_changes {m : Mixer} {cs : List RowChange} {c : RowChange} (hc : c ∈ cs)
    (honly : ∀ c' ∈ cs, c'.rule.name = c.rule.name → c'.rule = c.rule ∧ c'.on = c.on)
    (hserves : m.Serves c.rule) :
    (m.perform (cs.flatMap fun c => c.rule.writes m c.on)).Holds c.rule c.on := by
  obtain ⟨id, value, hresolve, haccepts⟩ := hserves
  have hlayout := layout_perform m (cs.flatMap fun c => c.rule.writes m c.on)
  have hfind := ControlRule.find?_of_resolve hresolve
  refine ⟨id, value, by rw [c.rule.resolve_congr hlayout, hresolve], fun slot hslot => ?_⟩
  rw [slots_congr hlayout] at hslot
  rw [value?_of_find? ((find?_congr hlayout _).trans hfind)]
  refine valueAt_perform_of_mem _ _ ?_ ⟨⟨id, slot, if c.on then value else 0⟩, ?_, rfl, rfl⟩
  · -- whatever is written to the control comes from this change
    rintro w hw rfl rfl
    obtain ⟨c', hc', hwc'⟩ := List.mem_flatMap.1 hw
    obtain ⟨value', hresolve', hvalue, -⟩ := mem_writes.1 hwc'
    obtain ⟨hrule, hon⟩ := honly c' hc' (find?_inj (ControlRule.find?_of_resolve hresolve') hfind)
    rw [hrule, hresolve] at hresolve'
    obtain ⟨-, rfl⟩ := Prod.mk.inj (Except.ok.inj hresolve')
    rw [hon] at hvalue
    refine ⟨hvalue, ?_⟩
    obtain ⟨hzero, htarget⟩ := haccepts w.slot hslot
    cases hcon : c.on with
    | true => rw [hcon, if_pos rfl] at hvalue; rwa [← hvalue] at htarget
    | false => rw [hcon, if_neg (by simp)] at hvalue; rwa [← hvalue] at hzero
  · refine List.mem_flatMap.2 ⟨c, hc, mem_writes.2 ⟨value, hresolve, rfl, hslot⟩⟩

end Mixer

/-! ## What a call does to one row -/

/-- What a call writes to a row: on, off, or nothing. -/
def Tracked.change? (m : Mixer) (call : Reconciler.Call) (t : Tracked) : Option Bool :=
  match call with
  | .reset => if (t.rule.target? m).isSome && !t.rule.once then some false else none
  | .converge facts =>
    if (t.rule.target? m).isSome && t.applied && !t.rule.once && !t.rule.desired facts then
      some false
    else if (t.rule.target? m).isSome && !t.applied && t.rule.desired facts then some true
    else none

namespace Rig

open Reconciler (Call)

/-- The changes of a call are the changes of its rows. -/
theorem mem_changes {s : Rig} {call : Call} {c : RowChange} :
    c ∈ s.changes call ↔ ∃ t, s.reconciler.rows[c.place]? = some t ∧ c.rule = t.rule ∧
      t.change? s.mixer call = some c.on := by
  obtain ⟨place, rule, on⟩ := c
  cases call with
  | reset =>
    simp only [changes, resets, List.mem_map, List.mem_reverse, List.mem_filter,
      List.mk_mem_zipIdx_iff_getElem?, RowChange.mk.injEq, Prod.exists, Tracked.change?]
    constructor
    · rintro ⟨t, place', ⟨hmem, hreset⟩, rfl, rfl, rfl⟩
      exact ⟨t, hmem, rfl, by rw [if_pos hreset]⟩
    · rintro ⟨t, hmem, rfl, hchange⟩
      split at hchange
      next hreset => exact ⟨t, place, ⟨hmem, hreset⟩, rfl, rfl, Option.some.inj hchange⟩
      next => cases hchange
  | converge facts =>
    simp only [changes, releases, assertions, List.mem_append, List.mem_map, List.mem_reverse,
      List.mem_filter, List.mk_mem_zipIdx_iff_getElem?, RowChange.mk.injEq, Prod.exists,
      Tracked.change?]
    constructor
    · rintro (⟨t, place', ⟨hmem, hoff⟩, rfl, rfl, rfl⟩ | ⟨t, place', ⟨hmem, hon⟩, rfl, rfl, rfl⟩)
      · exact ⟨t, hmem, rfl, by rw [if_pos hoff]⟩
      · refine ⟨t, hmem, rfl, ?_⟩
        rw [if_neg (by simp_all), if_pos hon]
    · rintro ⟨t, hmem, rfl, hchange⟩
      split at hchange
      next hoff => exact .inl ⟨t, place, ⟨hmem, hoff⟩, rfl, rfl, Option.some.inj hchange⟩
      next =>
        split at hchange
        next hon => exact .inr ⟨t, place, ⟨hmem, hon⟩, rfl, rfl, Option.some.inj hchange⟩
        next => cases hchange

variable {s : Rig} {call : Call} (hnames : (s.rules.map (·.name)).Nodup) {t : Tracked}
  (ht : t ∈ s.reconciler.rows)

include hnames ht

/-- Rows of one name are one row. -/
theorem change_of_name_eq {c : RowChange} (hc : c ∈ s.changes call)
    (hname : c.rule.name = t.rule.name) :
    c.rule = t.rule ∧ t.change? s.mixer call = some c.on := by
  obtain ⟨t', ht', hrule, hchange⟩ := mem_changes.1 hc
  have hnames' : (s.reconciler.rows.map fun t => t.rule.name).Nodup := by
    simpa [rules, Function.comp_def] using hnames
  have htt : t' = t := List.inj_on_of_nodup_map hnames' (List.mem_of_getElem? ht') ht
    (by rw [← hrule]; exact hname)
  rw [← htt]
  exact ⟨hrule, hchange⟩

variable (hcall : call = .reset ∨ s.Faithful)

include hcall

/-- A row that a call changes holds its new state. -/
theorem holds_serve {on : Bool} (hchange : t.change? s.mixer call = some on)
    (hserves : s.mixer.Serves t.rule) : (s.serve call).2.mixer.Holds t.rule on := by
  rw [mixer_serve hcall]
  obtain ⟨place, hplace⟩ := List.mem_iff_getElem?.1 ht
  refine Mixer.holds_perform_changes (c := ⟨place, t.rule, on⟩)
    (mem_changes.2 ⟨t, hplace, rfl, hchange⟩) ?_ hserves
  intro c hc hname
  obtain ⟨hrule, hon⟩ := change_of_name_eq hnames ht hc hname
  exact ⟨hrule, Option.some.inj (hon.symm.trans hchange)⟩

/-- A row that a call does not change keeps what its slots hold. -/
theorem value?_serve (hchange : t.change? s.mixer call = none) (slot : Nat) :
    (s.serve call).2.mixer.value? t.rule.name slot = s.mixer.value? t.rule.name slot := by
  rw [mixer_serve hcall]
  refine Mixer.value?_perform_changes (fun c hc hname => ?_) slot
  have := (change_of_name_eq hnames ht hc hname).2
  rw [hchange] at this
  cases this

end Rig

end HandsetAudio
