import HandsetAudio.Proofs.Mixer.Values

/-!
# What a run of calls leaves behind

A reconciler writes differences against a memory of its own. This file says that the
memory is right: on a mixer that serves the whole table, the flags and the slots after
any run that starts with a reset are a function of the calls alone (`run_law`).

> `steady_law`: a row that is not set once is applied iff the last call wants it, and its
> slots hold its target or zero accordingly.
> `once_law`: a row that is set once is applied iff some call since the last reset wanted
> it; its slots hold its target as soon as any call of the run wanted it, and what they
> held at the start before that.

Nothing is asked of the reconciler's memory or of the slots at the start.
-/

namespace HandsetAudio

namespace Reconciler.Call

/-- Whether a call wants a row on; a reset wants nothing. -/
def wants (rule : ControlRule) : Reconciler.Call → Bool
  | .reset => false
  | .converge facts => rule.desired facts

/-- The calls after the last reset. -/
def sinceReset (calls : List Reconciler.Call) : List Reconciler.Call :=
  (calls.reverse.takeWhile (· != .reset)).reverse

@[simp] theorem sinceReset_concat_reset (calls : List Reconciler.Call) :
    sinceReset (calls ++ [.reset]) = [] := by
  simp [sinceReset]

@[simp] theorem sinceReset_concat_converge (calls : List Reconciler.Call) (facts : Facts) :
    sinceReset (calls ++ [.converge facts]) = sinceReset calls ++ [.converge facts] := by
  simp [sinceReset]

/-- A call since the last reset that wants a row is one of the calls after the start. -/
theorem mem_of_mem_sinceReset {calls : List Reconciler.Call} {call : Reconciler.Call}
    {rule : ControlRule} (h : call ∈ sinceReset (.reset :: calls))
    (hwants : call.wants rule = true) : call ∈ calls := by
  have hmem : call ∈ Reconciler.Call.reset :: calls := by
    have htake := List.mem_reverse.1 h
    exact List.mem_reverse.1 ((List.takeWhile_sublist _).subset htake)
  rcases List.mem_cons.1 hmem with rfl | hmem
  · cases hwants
  · exact hmem

end Reconciler.Call

namespace Tracked

/-! ## The flag of a row -/

theorem applied_bring_false (m : Mixer) (t : Tracked) (h : t.applied = false) :
    (t.bring m false).applied = false := by
  unfold bring
  split
  next => exact h
  next => rfl

/-- A reset leaves no row applied. -/
theorem applied_cleared (m : Mixer) (t : Tracked) : (t.cleared m).applied = false := by
  unfold cleared
  split
  next => rfl
  next => exact applied_bring_false m t.forget rfl

/-- A row that resolves is applied after a pass iff it is wanted, or is set once and was
applied before. -/
theorem applied_after {m : Mixer} {t : Tracked} (h : (t.target? m).isSome) (facts : Facts) :
    (t.after facts m).applied = (t.rule.desired facts || (t.rule.once && t.applied)) := by
  obtain ⟨⟨id, value⟩, htarget⟩ := Option.isSome_iff_exists.1 h
  have hbring : (t.bring m (t.rule.desired facts)).applied = t.rule.desired facts := by
    simp [bring, htarget]
  unfold after
  split
  next hsettled =>
    unfold settled at hsettled
    cases hd : t.rule.desired facts <;> cases ho : t.rule.once <;> cases ha : t.applied <;>
      simp_all
  next hsettled =>
    rw [hbring]
    unfold settled at hsettled
    cases hd : t.rule.desired facts <;> cases ho : t.rule.once <;> cases ha : t.applied <;>
      simp_all

end Tracked

/-- A row that a mixer serves resolves there. -/
theorem Mixer.Serves.isSome_target? {m : Mixer} {rule : ControlRule} (h : m.Serves rule) :
    (rule.target? m).isSome := by
  obtain ⟨id, value, hresolve, -⟩ := h
  rw [ControlRule.target?_eq_some_iff.2 hresolve]
  rfl

namespace Rig

open Reconciler (Call)

/-! ## One call -/

section Step

variable {s : Rig} {call : Call} {t : Tracked} (hnames : (s.rules.map (·.name)).Nodup)
  (ht : t ∈ s.reconciler.rows) (hserves : s.mixer.Serves t.rule)

include hserves in
/-- A call decides the flag of a row that is not set once. -/
theorem applied_answer_steady (hcall : call = .reset ∨ s.Faithful) (ht : t ∈ s.reconciler.rows)
    (hsteady : t.rule.once = false) :
    (t.answer s.mixer call).applied = call.wants t.rule := by
  cases call with
  | reset => exact Tracked.applied_cleared ..
  | converge facts =>
    have hfaithful : t.Faithful s.mixer := hcall.resolve_left (by simp) t ht
    have htarget : (t.target? s.mixer).isSome := by
      rw [hfaithful]; exact hserves.isSome_target?
    rw [Tracked.answer, Tracked.applied_after htarget, hsteady]
    simp [Call.wants]

include hserves in
/-- A call decides the flag of a row that is set once; a pass only adds to it. -/
theorem applied_answer_once (hfaithful : s.Faithful) (ht : t ∈ s.reconciler.rows)
    (honce : t.rule.once = true) :
    (t.answer s.mixer call).applied =
      match call with
      | .reset => false
      | .converge facts => t.rule.desired facts || t.applied := by
  cases call with
  | reset => exact Tracked.applied_cleared ..
  | converge facts =>
    have htarget : (t.target? s.mixer).isSome := by
      rw [hfaithful t ht]; exact hserves.isSome_target?
    rw [Tracked.answer, Tracked.applied_after htarget, honce]
    simp

include hnames ht hserves

/-- The slots of a row that is not set once follow its flag. -/
theorem holds_answer_steady (hcall : call = .reset ∨ s.Faithful)
    (hsteady : t.rule.once = false) (hbefore : call = .reset ∨ s.mixer.Holds t.rule t.applied) :
    (s.serve call).2.mixer.Holds t.rule (t.answer s.mixer call).applied := by
  rw [applied_answer_steady hserves hcall ht hsteady]
  have htarget := hserves.isSome_target?
  cases call with
  | reset =>
    refine holds_serve hnames ht hcall ?_ hserves
    simp [Tracked.change?, htarget, hsteady, Call.wants]
  | converge facts =>
    by_cases hchange : t.rule.desired facts = t.applied
    · -- the row is settled: nothing is written, and nothing has to be
      have hnone : t.change? s.mixer (.converge facts) = none := by
        cases ha : t.applied <;> simp_all [Tracked.change?]
      have hholds : s.mixer.Holds t.rule t.applied := hbefore.resolve_left (by simp)
      rw [Call.wants, hchange]
      exact hholds.of_value?_eq (layout_serve ..) (value?_serve hnames ht hcall hnone)
    · refine holds_serve hnames ht hcall ?_ hserves
      cases ha : t.applied <;> cases hd : t.rule.desired facts <;>
        simp_all [Tracked.change?, Call.wants]

/-- A row that is set once is written by the first pass that wants it. -/
theorem holds_answer_once (hfaithful : s.Faithful) (honce : t.rule.once = true)
    (hwants : call.wants t.rule = true) (hbefore : t.applied = true → s.mixer.Holds t.rule true) :
    (s.serve call).2.mixer.Holds t.rule true := by
  have htarget := hserves.isSome_target?
  cases call with
  | reset => cases hwants
  | converge facts =>
    have hdesired : t.rule.desired facts = true := hwants
    cases happlied : t.applied with
    | true =>
      have hnone : t.change? s.mixer (.converge facts) = none := by
        simp [Tracked.change?, happlied, honce]
      exact (hbefore happlied).of_value?_eq (layout_serve ..)
        (value?_serve hnames ht (.inr hfaithful) hnone)
    | false =>
      refine holds_serve hnames ht (.inr hfaithful) ?_ hserves
      simp [Tracked.change?, happlied, htarget, hdesired]

omit hserves in
/-- A call that does not want a row that is set once leaves its slots alone. -/
theorem value?_answer_once (hcall : call = .reset ∨ s.Faithful) (honce : t.rule.once = true)
    (hwants : call.wants t.rule = false) (slot : Nat) :
    (s.serve call).2.mixer.value? t.rule.name slot = s.mixer.value? t.rule.name slot := by
  refine value?_serve hnames ht hcall ?_ slot
  cases call with
  | reset => simp [Tracked.change?, honce]
  | converge facts =>
    have hdesired : t.rule.desired facts = false := hwants
    simp [Tracked.change?, honce, hdesired]

end Step

/-! ## Runs that start with a reset -/

section Run

variable {s : Rig} (hnames : (s.rules.map (·.name)).Nodup)
  (hserves : ∀ rule ∈ s.rules, s.mixer.Serves rule)

/-- After a reset, what is remembered is right, whatever was remembered before. -/
theorem faithful_run_reset (s : Rig) (calls : List Call) : (s.run (.reset :: calls)).Faithful :=
  (faithful_reset s).run calls

include hserves in
/-- The mixer goes on serving the table. -/
theorem serves_run (calls : List Call) {t : Tracked} (ht : t ∈ (s.run calls).reconciler.rows) :
    (s.run calls).mixer.Serves t.rule := by
  have hrule : t.rule ∈ s.rules := by
    rw [← rules_run s calls]
    exact List.mem_map_of_mem ht
  exact (Mixer.serves_congr (layout_run s calls)).2 (hserves t.rule hrule)

include hnames in
theorem names_run (calls : List Call) : ((s.run calls).rules.map (·.name)).Nodup := by
  rwa [rules_run]

include hnames hserves

/-- Rows that are not set once follow the last call. -/
theorem steady_law (calls : List Call) :
    ∀ t ∈ (s.run (.reset :: calls)).reconciler.rows, t.rule.once = false →
      t.applied = ((.reset :: calls).getLast?).any (Call.wants t.rule) ∧
        (s.run (.reset :: calls)).mixer.Holds t.rule t.applied := by
  induction calls using List.reverseRecOn with
  | nil =>
    intro t ht hsteady
    obtain ⟨t', ht', rfl⟩ := mem_rows_serve.1 ht
    rw [Tracked.rule_answer] at hsteady ⊢
    have hserve : s.mixer.Serves t'.rule := hserves _ (List.mem_map_of_mem ht')
    exact ⟨applied_answer_steady hserve (.inl rfl) ht' hsteady,
      holds_answer_steady hnames ht' hserve (.inl rfl) hsteady (.inl rfl)⟩
  | append_singleton calls call ih =>
    intro t ht hsteady
    rw [← List.cons_append, run_concat, List.getLast?_concat] at *
    obtain ⟨t', ht', rfl⟩ := mem_rows_serve.1 ht
    rw [Tracked.rule_answer] at hsteady ⊢
    have hfaithful := faithful_run_reset s calls
    have hserve := serves_run hserves (.reset :: calls) ht'
    exact ⟨applied_answer_steady hserve (.inr hfaithful) ht' hsteady,
      holds_answer_steady (names_run hnames _) ht' hserve (.inr hfaithful) hsteady
        (.inr (ih t' ht' hsteady).2)⟩

/-- Rows that are set once follow all calls: their flag those since the last reset, their
slots those since the start. -/
theorem once_law (calls : List Call) :
    ∀ t ∈ (s.run (.reset :: calls)).reconciler.rows, t.rule.once = true →
      (t.applied = true ↔ ∃ call ∈ Call.sinceReset (.reset :: calls), call.wants t.rule = true) ∧
        ((∃ call ∈ calls, call.wants t.rule = true) →
          (s.run (.reset :: calls)).mixer.Holds t.rule true) ∧
        ((∀ call ∈ calls, call.wants t.rule = false) → ∀ slot,
          (s.run (.reset :: calls)).mixer.value? t.rule.name slot =
            s.mixer.value? t.rule.name slot) := by
  induction calls using List.reverseRecOn with
  | nil =>
    intro t ht honce
    obtain ⟨t', ht', rfl⟩ := mem_rows_serve.1 ht
    rw [Tracked.rule_answer] at honce ⊢
    refine ⟨?_, by simp, fun _ slot => ?_⟩
    · have hcleared : (t'.answer s.mixer .reset).applied = false := Tracked.applied_cleared ..
      simp [hcleared, Call.sinceReset]
    · exact value?_answer_once hnames ht' (.inl rfl) honce rfl slot
  | append_singleton calls call ih =>
    intro t ht honce
    rw [← List.cons_append, run_concat] at *
    obtain ⟨t', ht', rfl⟩ := mem_rows_serve.1 ht
    rw [Tracked.rule_answer] at honce ⊢
    obtain ⟨hflag, hheld, hkept⟩ := ih t' ht' honce
    have hfaithful := faithful_run_reset s calls
    have hserve := serves_run hserves (.reset :: calls) ht'
    refine ⟨?_, fun hwanted => ?_, fun hunwanted slot => ?_⟩
    · rw [applied_answer_once hserve hfaithful ht' honce]
      cases call with
      | reset =>
        rw [Call.sinceReset_concat_reset]
        simp
      | converge facts =>
        rw [Call.sinceReset_concat_converge]
        simp only [Bool.or_eq_true, hflag, List.mem_append, List.mem_singleton]
        constructor
        · rintro (hdesired | ⟨c, hc, hwants⟩)
          · exact ⟨_, .inr rfl, hdesired⟩
          · exact ⟨c, .inl hc, hwants⟩
        · rintro ⟨c, hc | rfl, hwants⟩
          · exact .inr ⟨c, hc, hwants⟩
          · exact .inl hwants
    · by_cases hwants : call.wants t'.rule = true
      · refine holds_answer_once (names_run hnames _) ht' hserve hfaithful honce hwants ?_
        intro happlied'
        obtain ⟨c, hc, hcwants⟩ := hflag.1 happlied'
        exact hheld ⟨c, Call.mem_of_mem_sinceReset hc hcwants, hcwants⟩
      · -- the wanting call came earlier, and this one leaves the row alone
        have hearlier : ∃ c ∈ calls, c.wants t'.rule = true := by
          obtain ⟨c, hc, hcwants⟩ := hwanted
          rcases List.mem_append.1 hc with hc | hc
          · exact ⟨c, hc, hcwants⟩
          · rw [List.mem_singleton.1 hc] at hcwants
            exact absurd hcwants hwants
        exact (hheld hearlier).of_value?_eq (layout_serve ..)
          (value?_answer_once (names_run hnames _) ht' (.inr hfaithful) honce
            (by simpa using hwants))
    · rw [value?_answer_once (names_run hnames _) ht' (.inr hfaithful) honce
        (hunwanted call (by simp)) slot]
      exact hkept (fun c hc => hunwanted c (List.mem_append_left _ hc)) slot

end Run

/-- **The law of runs.** On a mixer that serves a table of distinct names, from any memory
and any slot values, after a reset and any further calls: a row that is not set once is
applied iff the last call wants it, and its slots hold its target if so and else zero. A
row that is set once is applied iff a call since the last reset wanted it; its slots hold
its target if any call did, and else what they held at the start. -/
theorem run_law {table : List ControlRule} (hnames : (table.map (·.name)).Nodup) {m₀ : Mixer}
    (hserves : ∀ rule ∈ table, m₀.Serves rule) {r₀ : Reconciler}
    (htable : r₀.rows.map (·.rule) = table) (calls : List Call) :
    let history := Call.reset :: calls
    let s := (Rig.mk r₀ m₀).run history
    s.reconciler.rows.map (·.rule) = table ∧
      ∀ t ∈ s.reconciler.rows,
        (t.rule.once = false →
          t.applied = (history.getLast?).any (Call.wants t.rule) ∧
            s.mixer.Holds t.rule t.applied) ∧
        (t.rule.once = true →
          (t.applied = true ↔ ∃ call ∈ Call.sinceReset history, call.wants t.rule = true) ∧
            ((∃ call ∈ history, call.wants t.rule = true) → s.mixer.Holds t.rule true) ∧
            ((∀ call ∈ history, call.wants t.rule = false) →
              ∀ slot, s.mixer.value? t.rule.name slot = m₀.value? t.rule.name slot)) := by
  intro history s
  have hrules : (Rig.mk r₀ m₀).rules = table := htable
  have hnames' : ((Rig.mk r₀ m₀).rules.map (·.name)).Nodup := by rwa [hrules]
  have hserves' : ∀ rule ∈ (Rig.mk r₀ m₀).rules, m₀.Serves rule := by rwa [hrules]
  refine ⟨(rules_run _ _).trans htable, fun t ht => ⟨steady_law hnames' hserves' calls t ht, ?_⟩⟩
  intro honce
  obtain ⟨hflag, hheld, hkept⟩ := once_law hnames' hserves' calls t ht honce
  refine ⟨hflag, fun hwanted => hheld ?_, fun hunwanted => hkept ?_⟩
  · obtain ⟨c, hc, hwants⟩ := hwanted
    rcases List.mem_cons.1 hc with rfl | hc
    · cases hwants
    · exact ⟨c, hc, hwants⟩
  · exact fun c hc => hunwanted c (List.mem_cons_of_mem _ hc)

/-- A switch and a volume that is set once, on a mixer that holds something else: both go
on, and after another reset only the volume stays where it was put. -/
theorem run_law_switch_and_volume :
    let switch := ControlRule.level "Switch" 1 .all .allOutputs
    let volume := (ControlRule.level "Volume" 5 .all .speaker).setOnce
    let m₀ : Mixer := { controls := [
      { name := "Volume", kind := .level, values := [7, 9], max := 9 },
      { name := "Switch", kind := .switch, values := [1], max := 1 }] }
    let history := [Call.reset, .converge ⟨.normal, .speaker, true⟩, .reset,
      .converge ⟨.normal, .earpiece, false⟩]
    let s := (Rig.mk (.ofTable .output [switch, volume]) m₀).run history
    s.reconciler.rows.map (·.rule) = [switch, volume] ∧
      ∀ t ∈ s.reconciler.rows,
        (t.rule.once = false → t.applied = false ∧ s.mixer.Holds t.rule false) ∧
        (t.rule.once = true → t.applied = false ∧ s.mixer.Holds t.rule true) := by
  intro switch volume m₀ history s
  have hnames : ([switch, volume].map (·.name)).Nodup := by decide
  have hserves : ∀ rule ∈ [switch, volume], m₀.Serves rule := by decide
  have htable : (Reconciler.ofTable .output [switch, volume]).rows.map (·.rule) =
      [switch, volume] := rfl
  obtain ⟨hrules, hlaw⟩ := run_law hnames hserves htable history.tail
  refine ⟨hrules, fun t ht => ?_⟩
  obtain ⟨hsteady, honce⟩ := hlaw t ht
  have hmem : t.rule ∈ [switch, volume] := hrules ▸ List.mem_map_of_mem ht
  constructor
  · intro h
    obtain ⟨happlied, hholds⟩ := hsteady h
    have hrule : t.rule = switch := by
      rcases List.mem_pair.1 hmem with hr | hr
      · exact hr
      · rw [hr] at h; cases h
    have hoff : t.applied = false := by rw [happlied, hrule]; decide
    exact ⟨hoff, hoff ▸ hholds⟩
  · intro h
    obtain ⟨hflag, hheld, -⟩ := honce h
    have hrule : t.rule = volume := by
      rcases List.mem_pair.1 hmem with hr | hr
      · rw [hr] at h; cases h
      · exact hr
    rw [hrule] at hflag hheld ⊢
    refine ⟨?_, hheld (by decide)⟩
    rw [Bool.eq_false_iff, Ne, hflag]
    decide

end Rig

end HandsetAudio
