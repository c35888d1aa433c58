import HandsetAudio.Proofs.Mixer.Pass
import Mathlib.Data.List.Induction

/-!
# Runs of calls on a reconciler

A `Rig` is a reconciler with the mixer that it drives, and a `Reconciler.Call` is what
its owner can ask of it. Two facts hold along every run, from any start:

> `layout_run`, `rules_run`: neither the controls nor the table change.
> `Faithful.run`: what is remembered of a row is what looking it up again would give.

The second is the reason why a reconciler may look a row up once and then rely on it.

The `Rig.Outcome` of a call is all that can be seen of it: how many rows it released and asserted,
which rows it reported, and what it added to the journal.
-/

namespace HandsetAudio

/-- What can be asked of a reconciler. -/
inductive Reconciler.Call where
  /-- Forget everything and write every row off that is not set once. -/
  | reset
  /-- Bring the mixer in line with some facts. -/
  | converge (facts : Facts)
  deriving DecidableEq, Repr

/-- A reconciler with the mixer that it drives. -/
structure Rig where
  reconciler : Reconciler
  mixer : Mixer
  deriving DecidableEq, Repr

/-- The row after a call. -/
def Tracked.answer (m : Mixer) (call : Reconciler.Call) (t : Tracked) : Tracked :=
  match call with
  | .reset => t.cleared m
  | .converge facts => t.after facts m

/-- The writes of a call, in order. -/
def Tracked.callWrites (m : Mixer) (call : Reconciler.Call) (ts : List Tracked) : List SlotWrite :=
  match call with
  | .reset => resetWrites m ts
  | .converge facts => passWrites facts m ts

/-- What is remembered of the row is what the mixer would answer. -/
def Tracked.Faithful (m : Mixer) (t : Tracked) : Prop := t.target? m = t.rule.target? m

@[simp] theorem Tracked.rule_answer (m : Mixer) (call : Reconciler.Call) (t : Tracked) :
    (t.answer m call).rule = t.rule := by
  cases call with
  | reset => exact rule_cleared m t
  | converge facts => exact rule_after facts m t

namespace Rig

open Reconciler (Call)

/-- The pass that answers a call, and the rig after it. -/
def serve (s : Rig) : Call → Pass × Rig
  | .reset =>
    let (p, reconciler) := s.reconciler.reset s.mixer
    (p, { reconciler, mixer := p.mixer })
  | .converge facts =>
    let (p, reconciler) := s.reconciler.converge facts s.mixer
    (p, { reconciler, mixer := p.mixer })

/-- The rig after several calls. -/
def run (s : Rig) (calls : List Call) : Rig := calls.foldl (fun s call => (s.serve call).2) s

/-- The rules of the rows, which are the table. -/
def rules (s : Rig) : List ControlRule := s.reconciler.rows.map (·.rule)

theorem rules_ofTable (path : Path) (table : List ControlRule) (m : Mixer) :
    (Rig.mk (.ofTable path table) m).rules = table := by
  simp [rules, Reconciler.ofTable, Function.comp_def]

/-- The row at the place of a rule. -/
theorem exists_row_of_rules {s : Rig} {place : Nat} {rule : ControlRule}
    (h : s.rules[place]? = some rule) :
    ∃ t, s.reconciler.rows[place]? = some t ∧ t.rule = rule := by
  rw [rules, List.getElem?_map] at h
  exact Option.map_eq_some_iff.1 h

theorem run_concat (s : Rig) (calls : List Call) (call : Call) :
    s.run (calls ++ [call]) = ((s.run calls).serve call).2 := by
  simp [run]

/-- A call, row by row and write by write. -/
theorem serve_eq (s : Rig) (call : Call) : (s.serve call).2 =
    { reconciler :=
        { s.reconciler with rows := s.reconciler.rows.map (Tracked.answer s.mixer call) }
      mixer := s.mixer.perform (Tracked.callWrites s.mixer call s.reconciler.rows) } := by
  cases call with
  | reset =>
    simp only [serve, Reconciler.reset, Tracked.resetPass_eq]
    rfl
  | converge facts =>
    simp only [serve, Reconciler.converge, Tracked.pass_eq]
    rfl

theorem mem_rows_serve {s : Rig} {call : Call} {t : Tracked} :
    t ∈ (s.serve call).2.reconciler.rows ↔
      ∃ t' ∈ s.reconciler.rows, t'.answer s.mixer call = t := by
  simp [serve_eq]

@[simp] theorem layout_serve (s : Rig) (call : Call) :
    (s.serve call).2.mixer.layout = s.mixer.layout := by
  rw [serve_eq]
  exact Mixer.layout_perform ..

@[simp] theorem rules_serve (s : Rig) (call : Call) : (s.serve call).2.rules = s.rules := by
  simp [serve_eq, rules, Function.comp_def]

theorem layout_run (s : Rig) (calls : List Call) : (s.run calls).mixer.layout = s.mixer.layout := by
  induction calls using List.reverseRecOn with
  | nil => rfl
  | append_singleton calls call ih => rw [run_concat, layout_serve, ih]

theorem rules_run (s : Rig) (calls : List Call) : (s.run calls).rules = s.rules := by
  induction calls using List.reverseRecOn with
  | nil => rfl
  | append_singleton calls call ih => rw [run_concat, rules_serve, ih]

/-! ## What can be seen of a call -/

/-- What can be seen of a call. -/
structure Outcome where
  /-- How many rows it wrote off. -/
  released : Nat
  /-- How many rows it wrote on. -/
  asserted : Nat
  /-- The rows that it found inert. -/
  skips : List Skip
  /-- What it added to the journal. -/
  written : List MixerWrite
  deriving DecidableEq, Repr

/-- What can be seen of `call`. -/
def outcome (s : Rig) (call : Call) : Outcome :=
  let p := (s.serve call).1
  { released := p.released, asserted := p.asserted, skips := p.skips
    written := p.mixer.journal.drop s.mixer.journal.length }

/-- The mixer of the pass is the mixer after the call. -/
theorem mixer_pass (s : Rig) (call : Call) : (s.serve call).1.mixer = (s.serve call).2.mixer := by
  cases call <;> rfl

/-- The journal grows by what the outcome says. -/
theorem journal_outcome (s : Rig) (call : Call) :
    (s.serve call).2.mixer.journal = s.mixer.journal ++ (s.outcome call).written := by
  have hgrows := Mixer.journal_perform s.mixer (Tracked.callWrites s.mixer call s.reconciler.rows)
  simp only [outcome, mixer_pass, serve_eq, hgrows, List.drop_left]

end Rig

namespace Tracked

theorem faithful_congr {m m' : Mixer} (h : m.layout = m'.layout) {t : Tracked} :
    t.Faithful m ↔ t.Faithful m' := by
  unfold Faithful
  rw [target?_congr h, t.rule.target?_congr h]

/-- Nothing remembered is nothing wrong. -/
theorem faithful_forget (m : Mixer) (t : Tracked) : t.forget.Faithful m := rfl

/-- Bringing a row to a state does not change what it stands for. -/
theorem target?_bring (m : Mixer) (desired : Bool) (t : Tracked) :
    (t.bring m desired).target? m = t.target? m := by
  unfold bring
  split
  next h => rw [h]; rfl
  next id value h => rw [h]; rfl

theorem Faithful.bring {m : Mixer} {t : Tracked} (h : t.Faithful m) (desired : Bool) :
    (t.bring m desired).Faithful m := by
  unfold Faithful at *
  rw [target?_bring, rule_bring, h]

theorem Faithful.after {m : Mixer} {t : Tracked} (h : t.Faithful m) (facts : Facts) :
    (t.after facts m).Faithful m := by
  unfold Tracked.after
  split
  next => exact h
  next => exact h.bring _

theorem faithful_cleared (m : Mixer) (t : Tracked) : (t.cleared m).Faithful m := by
  unfold cleared
  split
  next => exact faithful_forget m t
  next => exact (faithful_forget m t).bring _

end Tracked

namespace Rig

open Reconciler (Call)

/-- What is remembered of every row is what the mixer would answer. -/
def Faithful (s : Rig) : Prop := ∀ t ∈ s.reconciler.rows, t.Faithful s.mixer

/-- A reconciler that remembers nothing is faithful. -/
theorem faithful_ofTable (path : Path) (table : List ControlRule) (m : Mixer) :
    (Rig.mk (Reconciler.ofTable path table) m).Faithful := by
  intro t ht
  obtain ⟨rule, -, rfl⟩ := List.mem_map.1 ht
  rfl

/-- A reset makes any reconciler faithful. -/
theorem faithful_reset (s : Rig) : (s.serve .reset).2.Faithful := by
  intro t ht
  obtain ⟨t', -, rfl⟩ := mem_rows_serve.1 ht
  exact (Tracked.faithful_congr (layout_serve ..)).2 (Tracked.faithful_cleared ..)

theorem Faithful.serve {s : Rig} (h : s.Faithful) (call : Call) : (s.serve call).2.Faithful := by
  cases call with
  | reset => exact faithful_reset s
  | converge facts =>
    intro t ht
    obtain ⟨t', ht', rfl⟩ := mem_rows_serve.1 ht
    exact (Tracked.faithful_congr (layout_serve ..)).2 ((h t' ht').after facts)

theorem Faithful.run {s : Rig} (h : s.Faithful) (calls : List Call) : (s.run calls).Faithful := by
  induction calls using List.reverseRecOn with
  | nil => exact h
  | append_singleton calls call ih => rw [run_concat]; exact ih.serve call

end Rig

end HandsetAudio
