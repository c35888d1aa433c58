import HandsetAudio.Proofs.Mixer.RunLaw

/-!
# What a call does for one row

A reset and a pass treat a row in the same way, once it is said how they find it
(`Tracked.found`: a reset forgets first), whether they have to write it (`Tracked.due`) and what
they want of it. `Tracked.treatment` lists all that can come of this:

> `idle`: nothing has to be done. `known`: the row is written through what is remembered.
> `skipped`: it is known to be inert. `resolved`, `missed`: it is looked up, and written or
> reported.

> `looksUp_iff`: a row is looked up iff what becomes of it depends on the mixer.
> `accounts`: what a call writes, counts and reports is what it does for its rows.

Nothing is asked of the memory here. The mixer may have been changed behind the reconciler's back.
-/

namespace HandsetAudio

open Reconciler (Call)

/-- What looking a row up gives: what it stands for, and the report if that is nothing. -/
def ControlRule.lookUp (rule : ControlRule) (m : Mixer) : Resolution × List Skip :=
  match rule.resolve m with
  | .ok (id, value) => (.ready id value, [])
  | .error reason => (.inert, [⟨rule.name, reason⟩])

/-- Whether a call needs what a row stands for, if nothing is remembered of the row. -/
def Reconciler.Call.needs (rule : ControlRule) : Call → Bool
  | .reset => !rule.once
  | .converge facts => rule.desired facts

namespace Tracked

/-- The row as a call finds it: a reset forgets first. -/
def found (call : Call) (t : Tracked) : Tracked :=
  match call with
  | .reset => t.forget
  | .converge _ => t

/-- Whether a call has to write the row. -/
def due (call : Call) (t : Tracked) : Bool :=
  match call with
  | .reset => !t.rule.once
  | .converge facts => !t.settled (t.rule.desired facts)

/-- Whether a call looks the row up. -/
def looksUp (call : Call) (t : Tracked) : Bool :=
  t.due call && decide ((t.found call).resolution = .pending)

/-- The state that a call writes the row to, if it does. -/
def turn? (m : Mixer) (call : Call) (t : Tracked) : Option Bool :=
  if t.due call && ((t.found call).target? m).isSome then some (call.wants t.rule) else none

/-- The writes that a call asks for on behalf of the row. -/
def asked (m : Mixer) (call : Call) (t : Tracked) : List SlotWrite :=
  match t.turn? m call with
  | none => []
  | some on => (t.found call).writes m on

/-- The report of a call on the row, if it finds it inert. -/
def reported (m : Mixer) (call : Call) (t : Tracked) : List Skip :=
  if t.due call then ((t.found call).resolve m).2 else []

@[simp] theorem rule_found (call : Call) (t : Tracked) : (t.found call).rule = t.rule := by
  cases call <;> rfl

/-- The row after a call. -/
theorem answer_eq (m : Mixer) (call : Call) (t : Tracked) :
    t.answer m call =
      if t.due call then (t.found call).bring m (call.wants t.rule) else t.found call := by
  cases call with
  | reset => cases ho : t.rule.once <;> simp [answer, cleared, due, found, Call.wants, ho]
  | converge facts =>
    cases hs : t.settled (t.rule.desired facts) <;>
      simp [answer, after, due, found, Call.wants, hs]

/-- Of a row that nothing is remembered of, a call has to write what it needs. -/
theorem due_of_pending {call : Call} {t : Tracked} (h : (t.found call).applied = false) :
    t.due call = call.needs t.rule := by
  cases call with
  | reset => rfl
  | converge facts =>
    have happlied : t.applied = false := h
    simp only [due, settled, Call.needs, happlied]
    cases t.rule.desired facts <;> simp

/-- A row that is set once is written when it is wanted for the first time. -/
theorem wants_of_due {call : Call} {t : Tracked} (honce : t.rule.once = true)
    (hdue : t.due call = true) : (t.found call).applied = false ∧ call.wants t.rule = true := by
  cases call with
  | reset => simp [due, honce] at hdue
  | converge facts =>
    simp only [due, settled, honce] at hdue
    simp only [found, Call.wants]
    cases ha : t.applied <;> cases hd : t.rule.desired facts <;> simp_all

/-! ## All that a call can do -/

/-- All that a call can do for a row. -/
inductive Treatment (m : Mixer) (call : Call) (t : Tracked) : Prop where
  /-- Nothing has to be done. -/
  | idle (hdue : t.due call = false) (hanswer : t.answer m call = t.found call)
      (hlooksUp : t.looksUp call = false) (hturn : t.turn? m call = none)
      (hasked : t.asked m call = []) (hreported : t.reported m call = [])
  /-- The row is known to be inert. -/
  | skipped (hfound : (t.found call).resolution = .inert) (hanswer : t.answer m call = t.found call)
      (hlooksUp : t.looksUp call = false) (hturn : t.turn? m call = none)
      (hasked : t.asked m call = []) (hreported : t.reported m call = [])
  /-- The row is written through what is remembered of it. -/
  | known (id : ControlId) (value : Int) (hdue : t.due call = true)
      (hfound : (t.found call).resolution = .ready id value)
      (hanswer : t.answer m call = { t.found call with applied := call.wants t.rule })
      (hlooksUp : t.looksUp call = false) (hturn : t.turn? m call = some (call.wants t.rule))
      (hasked : t.asked m call = m.slotWrites id (if call.wants t.rule then value else 0))
      (hreported : t.reported m call = [])
  /-- The row is looked up and written. -/
  | resolved (id : ControlId) (value : Int) (hdue : t.due call = true)
      (hfound : (t.found call).resolution = .pending)
      (hresolve : t.rule.resolve m = .ok (id, value))
      (hanswer : t.answer m call =
        { t.found call with applied := call.wants t.rule, resolution := .ready id value })
      (hlooksUp : t.looksUp call = true) (hturn : t.turn? m call = some (call.wants t.rule))
      (hasked : t.asked m call = m.slotWrites id (if call.wants t.rule then value else 0))
      (hreported : t.reported m call = [])
  /-- The row is looked up in vain and reported. -/
  | missed (reason : Mismatch) (hdue : t.due call = true)
      (hfound : (t.found call).resolution = .pending) (hresolve : t.rule.resolve m = .error reason)
      (hanswer : t.answer m call = { t.found call with resolution := .inert })
      (hlooksUp : t.looksUp call = true) (hturn : t.turn? m call = none)
      (hasked : t.asked m call = []) (hreported : t.reported m call = [⟨t.rule.name, reason⟩])

theorem treatment (m : Mixer) (call : Call) (t : Tracked) : t.Treatment m call := by
  have hrule := t.rule_found call
  cases hdue : t.due call with
  | false =>
    exact .idle hdue (by simp [answer_eq, hdue]) (by simp [looksUp, hdue]) (by simp [turn?, hdue])
      (by simp [asked, turn?, hdue]) (by simp [reported, hdue])
  | true =>
    cases hfound : (t.found call).resolution with
    | inert =>
      have htarget : (t.found call).target? m = none := by simp [target?, hfound]
      refine .skipped hfound ?_ (by simp [looksUp, hfound]) (by simp [turn?, htarget])
        (by simp [asked, turn?, htarget]) (by simp [reported, resolve, hfound])
      simp only [answer_eq, hdue, if_true, bring, htarget, ← hfound]
    | ready id value =>
      have htarget : (t.found call).target? m = some (id, value) := by simp [target?, hfound]
      refine .known id value hdue hfound ?_ (by simp [looksUp, hfound])
        (by simp [turn?, hdue, htarget])
        (by simp [asked, turn?, hdue, htarget, writes, Mixer.targetWrites])
        (by simp [reported, resolve, hfound])
      simp only [answer_eq, hdue, if_true, bring, htarget, ← hfound]
    | pending =>
      have hlooksUp : t.looksUp call = true := by simp [looksUp, hdue, hfound]
      cases hresolve : t.rule.resolve m with
      | ok target =>
        obtain ⟨id, value⟩ := target
        have htarget : (t.found call).target? m = some (id, value) := by
          simp [target?, hfound, ControlRule.target?, hresolve, Except.toOption]
        exact .resolved id value hdue hfound hresolve (by simp [answer_eq, hdue, bring, htarget])
          hlooksUp (by simp [turn?, hdue, htarget])
          (by simp [asked, turn?, hdue, htarget, writes, Mixer.targetWrites])
          (by simp [reported, hdue, resolve, hfound, hresolve])
      | error reason =>
        have htarget : (t.found call).target? m = none := by
          simp [target?, hfound, ControlRule.target?, hresolve, Except.toOption]
        exact .missed reason hdue hfound hresolve (by simp [answer_eq, hdue, bring, htarget])
          hlooksUp (by simp [turn?, htarget]) (by simp [asked, turn?, htarget])
          (by simp [reported, hdue, resolve, hfound, hresolve])

/-! ## Looking up -/

/-- A row that is looked up stands for what the mixer says. -/
theorem resolution_answer {m : Mixer} {call : Call} {t : Tracked} (h : t.looksUp call = true) :
    (t.answer m call).resolution = (t.rule.lookUp m).1 ∧
      t.reported m call = (t.rule.lookUp m).2 := by
  cases t.treatment m call with
  | idle _ _ hlooksUp => exact absurd (hlooksUp.symm.trans h) (by decide)
  | skipped _ _ hlooksUp => exact absurd (hlooksUp.symm.trans h) (by decide)
  | known _ _ _ _ _ hlooksUp => exact absurd (hlooksUp.symm.trans h) (by decide)
  | resolved id value _ _ hresolve hanswer _ _ _ hreported =>
    simp [ControlRule.lookUp, hresolve, hanswer, hreported]
  | missed reason _ _ hresolve hanswer _ _ _ hreported =>
    simp [ControlRule.lookUp, hresolve, hanswer, hreported]

/-- A row that is not looked up is treated alike on every mixer. -/
theorem answer_of_not_looksUp {call : Call} {t : Tracked} (h : t.looksUp call = false)
    (m m' : Mixer) : t.answer m call = t.answer m' call := by
  rw [answer_eq, answer_eq]
  cases hdue : t.due call with
  | false => rfl
  | true =>
    have hfound : (t.found call).resolution ≠ .pending := by simpa [looksUp, hdue] using h
    have htarget : (t.found call).target? m = (t.found call).target? m' := by
      unfold target?
      cases hres : (t.found call).resolution with
      | pending => exact absurd hres hfound
      | ready id value => rfl
      | inert => rfl
    simp only [bring, htarget]

/-- Every rule resolves on some mixer. -/
theorem exists_resolve (rule : ControlRule) : ∃ (m : Mixer) (id : ControlId) (value : Int),
    rule.resolve m = .ok (id, value) := by
  obtain ⟨name, target, modes, devices, excluded, keep, once⟩ := rule
  cases target with
  | level value =>
    exact ⟨({} : Mixer).addSwitch name 1, 0, value, by
      simp [ControlRule.resolve, Mixer.find?, Mixer.addSwitch, Mixer.add]⟩
  | choice choice =>
    exact ⟨({} : Mixer).addChoice name [choice], 0, 0, by
      simp [ControlRule.resolve, Mixer.find?, Mixer.addChoice, Mixer.add, List.findIdx?_cons]⟩

/-- A call looks a row up iff what becomes of the row depends on the mixer. -/
theorem looksUp_iff (call : Call) (t : Tracked) :
    t.looksUp call = true ↔ ∃ m m', t.answer m call ≠ t.answer m' call := by
  constructor
  · intro hlooksUp
    obtain ⟨m, id, value, hresolve⟩ := exists_resolve t.rule
    refine ⟨m, {}, fun hsame => ?_⟩
    -- on the empty mixer the row becomes inert
    have hready := (resolution_answer (m := m) hlooksUp).1
    rw [hsame, (resolution_answer hlooksUp).1] at hready
    simp only [ControlRule.lookUp, hresolve] at hready
    cases hready
  · rintro ⟨m, m', hne⟩
    cases hlooksUp : t.looksUp call with
    | true => rfl
    | false => exact absurd (answer_of_not_looksUp hlooksUp m m') hne

/-- A row that a call writes is ready afterwards, and all its writes go through what it is ready
with. -/
theorem ready_of_turn? {m : Mixer} {call : Call} {t : Tracked} {on : Bool}
    (h : t.turn? m call = some on) : ∃ id value, (t.answer m call).resolution = .ready id value ∧
      t.asked m call = m.slotWrites id (if on then value else 0) := by
  cases t.treatment m call with
  | idle _ _ _ hturn => cases hturn.symm.trans h
  | skipped _ _ _ hturn => cases hturn.symm.trans h
  | known id value _ hfound hanswer _ hturn hasked =>
    obtain rfl := Option.some.inj (hturn.symm.trans h)
    exact ⟨id, value, by rw [hanswer]; exact hfound, hasked⟩
  | resolved id value _ _ _ hanswer _ hturn hasked =>
    obtain rfl := Option.some.inj (hturn.symm.trans h)
    exact ⟨id, value, by rw [hanswer], hasked⟩
  | missed _ _ _ _ _ _ hturn => cases hturn.symm.trans h

/-- A row that is ready after a call was found so, or was looked up. -/
theorem found_or_resolve_of_ready {m : Mixer} {call : Call} {t : Tracked} {id : ControlId}
    {value : Int} (h : (t.answer m call).resolution = .ready id value) :
    (t.found call).resolution = .ready id value ∨ t.rule.resolve m = .ok (id, value) := by
  cases t.treatment m call with
  | idle _ hanswer => exact .inl (hanswer ▸ h)
  | skipped _ hanswer => exact .inl (hanswer ▸ h)
  | known _ _ _ _ hanswer => exact .inl (by rwa [hanswer] at h)
  | resolved _ _ _ _ hresolve hanswer =>
    rw [hanswer] at h
    obtain ⟨rfl, rfl⟩ := Resolution.ready.inj h
    exact .inr hresolve
  | missed _ _ _ _ hanswer => rw [hanswer] at h; cases h

/-- A report has the name of its row. -/
theorem name_of_mem_reported {m : Mixer} {call : Call} {t : Tracked} {skip : Skip}
    (h : skip ∈ t.reported m call) : skip.name = t.rule.name := by
  cases t.treatment m call with
  | idle _ _ _ _ _ hreported => rw [hreported] at h; cases h
  | skipped _ _ _ _ _ hreported => rw [hreported] at h; cases h
  | known _ _ _ _ _ _ _ _ hreported => rw [hreported] at h; cases h
  | resolved _ _ _ _ _ _ _ _ _ hreported => rw [hreported] at h; cases h
  | missed _ _ _ _ _ _ _ _ hreported =>
    rw [hreported] at h
    rw [List.mem_singleton.1 h]

/-! ## The account of a call -/

theorem mem_asked {m : Mixer} {call : Call} {t : Tracked} {w : SlotWrite} :
    w ∈ t.asked m call ↔ ∃ on, t.turn? m call = some on ∧ w ∈ (t.found call).writes m on := by
  unfold asked
  cases t.turn? m call <;> simp

section

variable (facts : Facts) (m : Mixer) (t : Tracked)

theorem turn?_converge :
    t.goesOff facts m = decide (t.turn? m (.converge facts) = some false) ∧
      t.goesOn facts m = decide (t.turn? m (.converge facts) = some true) := by
  cases hs : t.settled (t.rule.desired facts) with
  | true =>
    obtain ⟨hoff, hon⟩ := goesOff_of_settled (m := m) hs
    simp [hoff, hon, turn?, due, hs]
  | false =>
    obtain ⟨hoff, hon⟩ := goesOff_of_not_settled (m := m) hs
    rw [hoff, hon]
    cases hd : t.rule.desired facts <;> cases ht : (t.target? m).isSome <;>
      simp_all [turn?, due, found, Call.wants]

theorem turn?_reset :
    t.clears m = decide (t.turn? m .reset = some false) ∧ t.turn? m .reset ≠ some true := by
  cases ho : t.rule.once <;> cases ht : (t.forget.target? m).isSome <;>
    simp [clears, turn?, due, found, Call.wants, ho, ht]

end

/-- A call asks for what it asks for on behalf of its rows. -/
theorem mem_callWrites {m : Mixer} {call : Call} {ts : List Tracked} {w : SlotWrite} :
    w ∈ callWrites m call ts ↔ ∃ t ∈ ts, w ∈ t.asked m call := by
  simp only [mem_asked]
  cases call with
  | reset =>
    simp only [callWrites, resetWrites, List.mem_flatMap, List.mem_reverse, List.mem_filter]
    constructor
    · rintro ⟨t, ⟨ht, hclears⟩, hw⟩
      rw [(turn?_reset m t).1] at hclears
      exact ⟨t, ht, false, of_decide_eq_true hclears, hw⟩
    · rintro ⟨t, ht, on, hturn, hw⟩
      obtain ⟨hclears, hnot⟩ := turn?_reset m t
      cases on with
      | true => exact absurd hturn hnot
      | false => exact ⟨t, ⟨ht, hclears.trans (decide_eq_true hturn)⟩, hw⟩
  | converge facts =>
    simp only [callWrites, passWrites, List.mem_append, List.mem_flatMap, List.mem_reverse,
      List.mem_filter]
    constructor
    · rintro (⟨t, ⟨ht, hoff⟩, hw⟩ | ⟨t, ⟨ht, hon⟩, hw⟩)
      · rw [(turn?_converge facts m t).1] at hoff
        exact ⟨t, ht, false, of_decide_eq_true hoff, hw⟩
      · rw [(turn?_converge facts m t).2] at hon
        exact ⟨t, ht, true, of_decide_eq_true hon, hw⟩
    · rintro ⟨t, ht, on, hturn, hw⟩
      obtain ⟨hoff, hon⟩ := turn?_converge facts m t
      cases on with
      | false => exact .inl ⟨t, ⟨ht, hoff.trans (decide_eq_true hturn)⟩, hw⟩
      | true => exact .inr ⟨t, ⟨ht, hon.trans (decide_eq_true hturn)⟩, hw⟩

end Tracked

namespace Rig

/-- What a call does is what it does for its rows: it asks for their writes and no other, counts
the rows that it writes off and on, and makes their reports, from the last row to the first. -/
structure Accounts (s : Rig) (call : Call) (p : Pass) : Prop where
  mixer : ∃ ws, p.mixer = s.mixer.perform ws ∧
    ∀ w, w ∈ ws ↔ ∃ t ∈ s.reconciler.rows, w ∈ t.asked s.mixer call
  released : p.released =
    s.reconciler.rows.countP fun t => decide (t.turn? s.mixer call = some false)
  asserted : p.asserted =
    s.reconciler.rows.countP fun t => decide (t.turn? s.mixer call = some true)
  skips : p.skips = s.reconciler.rows.reverse.flatMap (·.reported s.mixer call)

theorem accounts (s : Rig) (call : Call) : s.Accounts call (s.serve call).1 := by
  have hwrites : ∀ w, w ∈ Tracked.callWrites s.mixer call s.reconciler.rows ↔
      ∃ t ∈ s.reconciler.rows, w ∈ t.asked s.mixer call := fun w => Tracked.mem_callWrites
  cases call with
  | reset =>
    have hclears : Tracked.clears s.mixer =
        fun t => decide (t.turn? s.mixer .reset = some false) :=
      funext fun t => (t.turn?_reset s.mixer).1
    have hreport : Tracked.clearReport s.mixer = (·.reported s.mixer .reset) := by
      funext t
      cases ho : t.rule.once <;> simp [Tracked.clearReport, Tracked.reported, Tracked.due, ho,
        Tracked.found]
    simp only [serve, Reconciler.reset, Tracked.resetPass_eq]
    refine ⟨⟨_, rfl, hwrites⟩, by rw [hclears], ?_, by rw [hreport]⟩
    exact (List.countP_eq_zero.2 fun t _ => by simp [(t.turn?_reset s.mixer).2]).symm
  | converge facts =>
    have hoff : Tracked.goesOff facts s.mixer =
        fun t => decide (t.turn? s.mixer (.converge facts) = some false) :=
      funext fun t => (t.turn?_converge facts s.mixer).1
    have hon : Tracked.goesOn facts s.mixer =
        fun t => decide (t.turn? s.mixer (.converge facts) = some true) :=
      funext fun t => (t.turn?_converge facts s.mixer).2
    have hreport : Tracked.report facts s.mixer = (·.reported s.mixer (.converge facts)) := by
      funext t
      cases hs : t.settled (t.rule.desired facts) <;>
        simp [Tracked.report, Tracked.reported, Tracked.due, hs, Tracked.found]
    simp only [serve, Reconciler.converge, Tracked.pass_eq]
    exact ⟨⟨_, rfl, hwrites⟩, by rw [hoff], by rw [hon], by rw [hreport]⟩

end Rig

end HandsetAudio
