import HandsetAudio.Proofs.Logs
import HandsetAudio.Proofs.Mixer.Codec

/-!
# Rows that a mode keeps on

A row that the mode keeps on does not mind whether its path is in use. While mode and devices
stay, a pass therefore has nothing to do for it, on whatever mixer and however often a path is
woken and put to rest:

> `Suits.run`: from a codec in line with mode and devices, passes for them write no control of a
> row that the mode keeps on, and leave the codec in line with them.
-/

namespace HandsetAudio

open ControlRule

/-- Rows that are kept on in some mode are not set once. -/
theorem keep_of_once : ∀ rule ∈ outputTable ++ inputTable, rule.once = true → rule.keep = ∅ := by
  decide +kernel

/-- A row that the mode keeps on is wanted alike whether its path is in use or not. -/
theorem ControlRule.desired_of_kept {rule : ControlRule} {mode : Mode}
    (hkept : rule.keep.contains mode = true) (devices : DeviceSet) (on on' : Bool) :
    rule.desired ⟨mode, devices, on⟩ = rule.desired ⟨mode, devices, on'⟩ := by
  simp [desired, hkept]

/-- The entry is about no control of a row that the mode keeps on. -/
def MixerWrite.SparesKept (mode : Mode) (e : MixerWrite) : Prop :=
  ∀ rule ∈ outputTable ++ inputTable, rule.keep.contains mode = true → e.name ≠ rule.name

/-- The entry of a row's write has the row's name. -/
theorem Mixer.name_of_logged {m : Mixer} {rule : ControlRule} {on : Bool} {w : SlotWrite}
    {e : MixerWrite} (hw : w ∈ rule.writes m on) (he : m.logged? w = some e) :
    e.name = rule.name := by
  obtain ⟨value, hresolve, -⟩ := mem_writes.1 hw
  obtain ⟨hlt, hname, -⟩ :=
    List.findIdx?_eq_some_iff_getElem.1 (ControlRule.find?_of_resolve hresolve)
  by_cases haccepts : m.Accepts w
  · have hlogged := logged?_of_accepts (List.getElem?_eq_getElem hlt) haccepts
    rw [hlogged] at he
    rw [← Option.some.inj he]
    exact eq_of_beq hname
  · rw [logged?_of_not_accepts haccepts] at he
    cases he

/-- A row that is as the facts want it is not changed. -/
theorem Tracked.change?_of_applied {t : Tracked} {facts : Facts}
    (h : t.applied = t.rule.desired facts) (m : Mixer) : t.change? m (.converge facts) = none := by
  unfold change?
  cases hd : t.rule.desired facts <;> simp [h, hd]

/-- A row that a call changes resolves. -/
theorem Tracked.isSome_target?_of_change {t : Tracked} {m : Mixer} {call : Reconciler.Call}
    {on : Bool} (h : t.change? m call = some on) : (t.rule.target? m).isSome = true := by
  unfold change? at h
  cases hsome : (t.rule.target? m).isSome with
  | true => rfl
  | false => cases call <;> simp [hsome] at h

namespace Codec

/-- The reconcilers drive the two tables, on whatever mixer, and what they remember of their rows
is what the mixer would answer. -/
structure Faithful (c : Codec) : Prop where
  rules : ∀ p, (c.rig p).rules = p.table
  memory : ∀ p, (c.rig p).Faithful

/-- No call makes what is remembered wrong, on either path. -/
theorem memory_serve {c : Codec} (h : ∀ p, (c.rig p).Faithful) (call : Path × Reconciler.Call)
    (q : Path) : ((c.serve call).rig q).Faithful := by
  obtain ⟨p, call⟩ := call
  by_cases hq : q = p
  · subst hq
    rw [rig_serve_self]
    exact (h q).serve call
  · intro t ht
    have ht' : t ∈ (c.reconciler q).rows := reconciler_serve_of_ne c hq call ▸ ht
    exact (Tracked.faithful_congr (layout_serve c p call)).2 (h q t ht')

theorem Faithful.serve {c : Codec} (h : c.Faithful) (call : Path × Reconciler.Call) :
    (c.serve call).Faithful where
  rules q := by rw [rules_serve, h.rules]
  memory := memory_serve h.memory call

theorem Faithful.of_reaches {c c' : Codec} (h : c.Faithful) (hreaches : c.Reaches c') :
    c'.Faithful := by
  obtain ⟨calls, rfl⟩ := hreaches
  induction calls generalizing c with
  | nil => exact h
  | cons call calls ih => exact ih (h.serve call)

theorem faithful_fresh (m : Mixer) : (fresh m).Faithful where
  rules p := by cases p <;> exact Rig.rules_ofTable ..
  memory p := by
    have hmemory := Rig.faithful_ofTable p p.table m
    cases p <;> exact hmemory

/-- Both paths are in line with mode and devices, in use or not. -/
structure Suits (c : Codec) (mode : Mode) (devices : DeviceSet) : Prop extends c.Faithful where
  inLine : ∀ p, ∃ on, (c.reconciler p).InLine ⟨mode, devices, on⟩

section

variable {c : Codec} {mode : Mode} {devices : DeviceSet}

/-- A pass for mode and devices that a path is in line with changes no row that the mode keeps
on. -/
theorem Suits.not_kept (h : c.Suits mode devices) {p : Path} {on : Bool} {change : RowChange}
    (hchange : change ∈ (c.rig p).changes (.converge ⟨mode, devices, on⟩)) :
    change.rule ∈ p.table ∧ change.rule.keep.contains mode = false := by
  obtain ⟨t, hplace, hrule, hchanged⟩ := Rig.mem_changes.1 hchange
  have ht : t ∈ (c.reconciler p).rows := List.mem_of_getElem? hplace
  have htable : t.rule ∈ p.table := by
    rw [← h.rules p]
    exact List.mem_map_of_mem ht
  rw [hrule]
  refine ⟨htable, Bool.eq_false_iff.2 fun hkept => ?_⟩
  have hsteady : t.rule.once = false := by
    refine Bool.eq_false_iff.2 fun honce => ?_
    rw [keep_of_once t.rule (Path.mem_tables htable) honce, ModeSet.contains_empty] at hkept
    cases hkept
  have hinert : t.resolution ≠ .inert := by
    intro hinert
    have hsome := Tracked.isSome_target?_of_change hchanged
    rw [← h.memory p t ht, Tracked.target?, hinert] at hsome
    cases hsome
  -- it is as it was wanted at the last pass, and that is how it is wanted now
  obtain ⟨before, hline⟩ := h.inLine p
  have happlied := hline t ht hsteady hinert
  rw [ControlRule.desired_of_kept hkept devices before on] at happlied
  rw [Tracked.change?_of_applied happlied] at hchanged
  cases hchanged

theorem Suits.pass (h : c.Suits mode devices) (p : Path) (on : Bool) :
    Grows (MixerWrite.SparesKept mode) c.mixer.journal
        (c.serve (p, .converge ⟨mode, devices, on⟩)).mixer.journal ∧
      (c.serve (p, .converge ⟨mode, devices, on⟩)).Suits mode devices := by
  constructor
  · refine ⟨_, by rw [mixer_serve, Rig.journal_serve (h.memory p)]; rfl, fun e he => ?_⟩
    intro rule hrule hkept hname
    obtain ⟨w, hw, hlogged⟩ := List.mem_filterMap.1 he
    obtain ⟨change, hchange, hw⟩ := List.mem_flatMap.1 hw
    obtain ⟨htable, hnot⟩ := h.not_kept hchange
    have hsame : change.rule = rule :=
      List.inj_on_of_nodup_map nodup_names_tables (Path.mem_tables htable) hrule
        ((Mixer.name_of_logged hw hlogged).symm.trans hname)
    rw [hsame, hkept] at hnot
    cases hnot
  · refine ⟨h.toFaithful.serve _, fun q => ?_⟩
    by_cases hq : q = p
    · subst hq
      exact ⟨on, inLine_serve_self c q _⟩
    · rw [reconciler_serve_of_ne c hq]
      exact h.inLine q

/-- **Kept rows are left alone** by passes for the mode and devices that both paths are in line
with. -/
theorem Suits.run (h : c.Suits mode devices) (p : Path) (ons : List Bool) :
    Grows (MixerWrite.SparesKept mode) c.mixer.journal
        (c.run (ons.map fun on => (p, .converge ⟨mode, devices, on⟩))).mixer.journal ∧
      (c.run (ons.map fun on => (p, .converge ⟨mode, devices, on⟩))).Suits mode devices := by
  induction ons generalizing c with
  | nil => exact ⟨.refl _, h⟩
  | cons on ons ih =>
    obtain ⟨hspares, hsuits⟩ := h.pass p on
    obtain ⟨hspares', hsuits'⟩ := ih hsuits
    exact ⟨hspares.trans hspares', hsuits'⟩

end

end Codec

end HandsetAudio
