import HandsetAudio.Proofs.Mixer.Slots

/-!
# What one pass does

A pass is a backwards walk that writes, looks controls up and marks rows, followed by a
walk over the marks. Nothing of this interleaving can be seen in the result: no write
changes what a row resolves to, so every row is decided by the facts and by the mixer as
it was before the pass.

> `pass_eq`: each row becomes `Tracked.after`; the mixer performs `passWrites`, the rows
> that `goesOff` selects back to front and then those that `goesOn` selects front to
> back; the counts are the numbers of selected rows.

> `resetPass_eq`: the same for a reset, which writes off every row that is not set once
> and that resolves.
-/

namespace HandsetAudio

namespace Tracked

/-- The control of a row and the value that switches it on: as remembered, or as the
mixer has them for a row that was not looked up yet. -/
def target? (m : Mixer) (t : Tracked) : Option (ControlId × Int) :=
  match t.resolution with
  | .pending => t.rule.target? m
  | .ready id value => some (id, value)
  | .inert => none

/-- Whether a pass writes the row off: it resolves, was written on, is not set once, and
is not wanted. -/
def goesOff (facts : Facts) (m : Mixer) (t : Tracked) : Bool :=
  (t.target? m).isSome && t.applied && !t.rule.once && !t.rule.desired facts

/-- Whether a pass writes the row on: it resolves, was not written on, and is wanted. -/
def goesOn (facts : Facts) (m : Mixer) (t : Tracked) : Bool :=
  (t.target? m).isSome && !t.applied && t.rule.desired facts

/-- The writes that bring every slot of the row's control to its target, or to zero. -/
def writes (m : Mixer) (on : Bool) (t : Tracked) : List SlotWrite := m.targetWrites (t.target? m) on

/-- The row after it was brought to the state `desired`, as far as it resolves. -/
def bring (m : Mixer) (desired : Bool) (t : Tracked) : Tracked :=
  match t.target? m with
  | none => { t with resolution := .inert }
  | some (id, value) => { t with applied := desired, resolution := .ready id value }

/-- The row after a pass. -/
def after (facts : Facts) (m : Mixer) (t : Tracked) : Tracked :=
  if t.settled (t.rule.desired facts) then t else t.bring m (t.rule.desired facts)

/-- The row after a reset. -/
def cleared (m : Mixer) (t : Tracked) : Tracked :=
  if t.rule.once then t.forget else t.forget.bring m false

/-- Whether a reset writes the row off. -/
def clears (m : Mixer) (t : Tracked) : Bool := !t.rule.once && (t.forget.target? m).isSome

/-- The report of a pass on the row, if it finds it inert. -/
def report (facts : Facts) (m : Mixer) (t : Tracked) : List Skip :=
  if t.settled (t.rule.desired facts) then [] else (t.resolve m).2

/-- The report of a reset on the row, if it finds it inert. -/
def clearReport (m : Mixer) (t : Tracked) : List Skip :=
  if t.rule.once then [] else (t.forget.resolve m).2

/-- The writes of a pass, in order. -/
def passWrites (facts : Facts) (m : Mixer) (ts : List Tracked) : List SlotWrite :=
  (ts.filter (goesOff facts m)).reverse.flatMap (writes m false) ++
    (ts.filter (goesOn facts m)).flatMap (writes m true)

/-- The writes of a reset, in order. -/
def resetWrites (m : Mixer) (ts : List Tracked) : List SlotWrite :=
  (ts.filter (clears m)).reverse.flatMap fun t => t.forget.writes m false

@[simp] theorem rule_bring (m : Mixer) (desired : Bool) (t : Tracked) :
    (t.bring m desired).rule = t.rule := by
  unfold bring
  split <;> rfl

@[simp] theorem rule_after (facts : Facts) (m : Mixer) (t : Tracked) :
    (t.after facts m).rule = t.rule := by
  unfold after
  split
  next => rfl
  next => exact rule_bring ..

@[simp] theorem rule_cleared (m : Mixer) (t : Tracked) : (t.cleared m).rule = t.rule := by
  unfold cleared
  split
  next => rfl
  next => exact rule_bring ..

section Layout

variable {m m' : Mixer} (h : m.layout = m'.layout) (t : Tracked)

include h

theorem target?_congr : t.target? m = t.target? m' := by
  unfold target?
  rw [t.rule.target?_congr h]

theorem writes_congr (on : Bool) : t.writes m on = t.writes m' on := by
  unfold writes
  rw [target?_congr h]
  exact Mixer.targetWrites_congr h ..

theorem bring_congr (desired : Bool) : t.bring m desired = t.bring m' desired := by
  unfold bring
  rw [target?_congr h]

theorem resolve_congr : t.resolve m = t.resolve m' := by
  unfold resolve
  rw [t.rule.resolve_congr h]

theorem goesOff_congr (facts : Facts) : t.goesOff facts m = t.goesOff facts m' := by
  unfold goesOff
  rw [target?_congr h]

theorem goesOn_congr (facts : Facts) : t.goesOn facts m = t.goesOn facts m' := by
  unfold goesOn
  rw [target?_congr h]

theorem clears_congr : t.clears m = t.clears m' := by
  unfold clears
  rw [target?_congr h]

theorem report_congr (facts : Facts) : t.report facts m = t.report facts m' := by
  unfold report
  rw [resolve_congr h]

theorem clearReport_congr : t.clearReport m = t.clearReport m' := by
  unfold clearReport
  rw [resolve_congr h]

end Layout

/-! ## The walk back to front -/

/-- Bringing one row to a state, all at once. -/
theorem write_eq (t : Tracked) (desired : Bool) (rest : Settled) :
    t.write desired rest =
      { rows := (t.bring rest.mixer desired, (t.target? rest.mixer).isSome && desired) :: rest.rows
        mixer := if desired then rest.mixer else rest.mixer.perform (t.writes rest.mixer false)
        released := rest.released + ((t.target? rest.mixer).isSome && !desired).toNat
        skips := rest.skips ++ (t.resolve rest.mixer).2 } := by
  obtain ⟨rule, applied, resolution⟩ := t
  unfold write bring writes target? resolve
  cases resolution with
  | inert => cases desired <;> simp [Mixer.targetWrites]
  | ready id value => cases desired <;> simp [Mixer.setAll_eq_perform, Mixer.targetWrites]
  | pending =>
    cases hrule : rule.resolve rest.mixer with
    | error reason =>
      cases desired <;> simp [ControlRule.target?, hrule, Except.toOption, Mixer.targetWrites]
    | ok target =>
      obtain ⟨id, value⟩ := target
      cases desired <;>
        simp [ControlRule.target?, hrule, Except.toOption, Mixer.setAll_eq_perform,
          Mixer.targetWrites]

/-- A row that is not settled and not wanted goes off if it resolves. -/
theorem goesOff_of_not_settled {facts : Facts} {m : Mixer} {t : Tracked}
    (h : t.settled (t.rule.desired facts) = false) :
    t.goesOff facts m = ((t.target? m).isSome && !t.rule.desired facts) ∧
      t.goesOn facts m = ((t.target? m).isSome && t.rule.desired facts) := by
  unfold settled at h
  unfold goesOff goesOn
  cases hd : t.rule.desired facts <;> cases ha : t.applied <;> cases ho : t.rule.once <;>
    simp_all

/-- A settled row goes neither off nor on. -/
theorem goesOff_of_settled {facts : Facts} {m : Mixer} {t : Tracked}
    (h : t.settled (t.rule.desired facts) = true) :
    t.goesOff facts m = false ∧ t.goesOn facts m = false := by
  unfold settled at h
  unfold goesOff goesOn
  cases hd : t.rule.desired facts <;> cases ha : t.applied <;> cases ho : t.rule.once <;>
    simp_all

/-- The backwards walk of a pass, all at once. -/
theorem settle_eq (facts : Facts) (m : Mixer) : ∀ ts : List Tracked,
    settle facts m ts =
      { rows := ts.map fun t => (t.after facts m, t.goesOn facts m)
        mixer := m.perform ((ts.filter (goesOff facts m)).reverse.flatMap (writes m false))
        released := ts.countP (goesOff facts m)
        skips := ts.reverse.flatMap (report facts m) }
  | [] => rfl
  | t :: ts => by
    have ih := settle_eq facts m ts
    have hlayout : (settle facts m ts).mixer.layout = m.layout := by
      rw [ih]; exact Mixer.layout_perform ..
    unfold settle
    cases hs : t.settled (t.rule.desired facts) with
    | true =>
      obtain ⟨hoff, hon⟩ := goesOff_of_settled (m := m) hs
      simp [hs, ih, hoff, hon, after, report]
    | false =>
      obtain ⟨hoff, hon⟩ := goesOff_of_not_settled (m := m) hs
      simp only [hs, Bool.false_eq_true, if_false]
      rw [write_eq, bring_congr hlayout, target?_congr hlayout, writes_congr hlayout,
        resolve_congr hlayout, ih]
      cases hd : t.rule.desired facts <;> cases ht : (t.target? m).isSome <;>
        simp_all [after, report, writes, Mixer.targetWrites, Mixer.perform_append]

/-- The backwards walk of a reset, all at once. -/
theorem settleOff_eq (m : Mixer) : ∀ ts : List Tracked,
    settleOff m (ts.map forget) =
      { rows := ts.map fun t => (t.cleared m, false)
        mixer := m.perform (resetWrites m ts)
        released := ts.countP (clears m)
        skips := ts.reverse.flatMap (clearReport m) }
  | [] => rfl
  | t :: ts => by
    have ih := settleOff_eq m ts
    have hlayout : (settleOff m (ts.map forget)).mixer.layout = m.layout := by
      rw [ih]; exact Mixer.layout_perform ..
    rw [List.map_cons, settleOff]
    cases ho : t.rule.once with
    | true =>
      have hforget : t.forget.rule.once = true := ho
      simp [hforget, ho, ih, cleared, clears, clearReport, resetWrites]
    | false =>
      have hforget : t.forget.rule.once = false := ho
      simp only [hforget, Bool.false_eq_true, if_false]
      rw [write_eq, bring_congr hlayout, target?_congr hlayout, writes_congr hlayout,
        resolve_congr hlayout, ih]
      cases ht : (t.forget.target? m).isSome <;>
        simp_all [cleared, clears, clearReport, resetWrites, writes, Mixer.targetWrites,
          Mixer.perform_append]

/-! ## The walk front to back -/

/-- A row that goes on is ready afterwards, with the control and the value that it
resolves to. -/
theorem after_of_goesOn {facts : Facts} {m : Mixer} {t : Tracked}
    (h : t.goesOn facts m = true) :
    ∃ id value, t.target? m = some (id, value) ∧
      t.after facts m = { t with applied := true, resolution := .ready id value } := by
  simp only [goesOn, Bool.and_eq_true, Bool.not_eq_true'] at h
  obtain ⟨⟨htarget, happlied⟩, hdesired⟩ := h
  obtain ⟨⟨id, value⟩, ht⟩ := Option.isSome_iff_exists.1 htarget
  refine ⟨id, value, ht, ?_⟩
  simp [after, settled, bring, ht, happlied, hdesired]

theorem assertMarked_unmarked (m : Mixer) (t : Tracked) (rest : List (Tracked × Bool)) :
    assertMarked m ((t, false) :: rest) = assertMarked m rest := by
  simp [assertMarked]

theorem assertMarked_marked (m : Mixer) {t : Tracked} {id : ControlId} {value : Int}
    (h : t.resolution = .ready id value) (rest : List (Tracked × Bool)) :
    assertMarked m ((t, true) :: rest) =
      ((assertMarked (m.setAll id value) rest).1 + 1,
        (assertMarked (m.setAll id value) rest).2) := by
  simp [assertMarked, h]

/-- Writing the marked rows on, all at once; the mixer may have been written before. -/
theorem assertMarked_eq (facts : Facts) {m : Mixer} :
    ∀ (ts : List Tracked) (n : Mixer), n.layout = m.layout →
      assertMarked n (ts.map fun t => (t.after facts m, t.goesOn facts m)) =
        (ts.countP (goesOn facts m),
          n.perform ((ts.filter (goesOn facts m)).flatMap (writes m true)))
  | [], _, _ => rfl
  | t :: ts, n, hn => by
    rw [List.map_cons]
    cases hg : t.goesOn facts m with
    | false =>
      rw [assertMarked_unmarked, assertMarked_eq facts ts n hn]
      simp [hg]
    | true =>
      obtain ⟨id, value, ht, hafter⟩ := after_of_goesOn hg
      have hwrites : t.writes m true = n.slotWrites id value := by
        simp only [writes, ht]; exact Mixer.slotWrites_congr hn.symm ..
      have hn' : (n.setAll id value).layout = m.layout := by
        rw [Mixer.setAll_eq_perform, Mixer.layout_perform, hn]
      rw [assertMarked_marked n (by rw [hafter]), assertMarked_eq facts ts _ hn']
      simp [hg, hwrites, Mixer.setAll_eq_perform, Mixer.perform_append]

/-! ## The passes -/

/-- One pass, row by row and write by write. -/
theorem pass_eq (facts : Facts) (m : Mixer) (ts : List Tracked) :
    pass facts m ts =
      { rows := ts.map (after facts m)
        mixer := m.perform (passWrites facts m ts)
        released := ts.countP (goesOff facts m)
        asserted := ts.countP (goesOn facts m)
        skips := ts.reverse.flatMap (report facts m) } := by
  have hmarked := assertMarked_eq facts ts
    (m.perform ((ts.filter (goesOff facts m)).reverse.flatMap (writes m false)))
    (Mixer.layout_perform ..)
  simp only [pass, settle_eq, hmarked, passWrites, Mixer.perform_append, List.map_map]
  rfl

/-- The pass of a reset, row by row and write by write. -/
theorem resetPass_eq (m : Mixer) (ts : List Tracked) :
    resetPass m ts =
      { rows := ts.map (cleared m)
        mixer := m.perform (resetWrites m ts)
        released := ts.countP (clears m)
        asserted := 0
        skips := ts.reverse.flatMap (clearReport m) } := by
  simp only [resetPass, settleOff_eq, List.map_map]
  rfl

end Tracked

end HandsetAudio
