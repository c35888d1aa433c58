import HandsetAudio.Proofs.Mixer.Independence

/-!
# Calls on two paths in any order

`Independence` says that paths without a common control do not disturb what the other one shows.
This file says the same of the `Rig.Outcome` of each call.

> `interleaved_as_alone`: for two tables that share no name, every call has the outcome that it
> has when only the calls on its own path are made, each reconciler ends up remembering the same,
> and what the slots hold does not depend on the order in which calls on different paths come.
-/

namespace HandsetAudio

namespace Rig

open Reconciler (Call)

/-- What can be seen of calls that are made one after the other. -/
def outcomes (s : Rig) : List Call → List Outcome
  | [] => []
  | call :: calls => s.outcome call :: (s.serve call).2.outcomes calls

theorem journal_outcomes (s : Rig) (calls : List Call) :
    (s.run calls).mixer.journal = s.mixer.journal ++ (s.outcomes calls).flatMap (·.written) := by
  induction calls generalizing s with
  | nil => simp [run, outcomes]
  | cons call calls ih =>
    have hrun : s.run (call :: calls) = (s.serve call).2.run calls := rfl
    rw [hrun, ih, journal_outcome, outcomes, List.flatMap_cons, List.append_assoc]

/-- The outcome of a pass, row by row. -/
theorem outcome_converge (s : Rig) (facts : Facts) :
    s.outcome (.converge facts) =
      { released := s.reconciler.rows.countP (Tracked.goesOff facts s.mixer)
        asserted := s.reconciler.rows.countP (Tracked.goesOn facts s.mixer)
        skips := s.reconciler.rows.reverse.flatMap (Tracked.report facts s.mixer)
        written := (Tracked.passWrites facts s.mixer s.reconciler.rows).filterMap
          s.mixer.logged? } := by
  simp only [outcome, serve, Reconciler.converge, Tracked.pass_eq, Mixer.journal_perform,
    List.drop_left]

/-- The outcome of a reset, row by row. -/
theorem outcome_reset (s : Rig) :
    s.outcome .reset =
      { released := s.reconciler.rows.countP (Tracked.clears s.mixer)
        asserted := 0
        skips := s.reconciler.rows.reverse.flatMap (Tracked.clearReport s.mixer)
        written := (Tracked.resetWrites s.mixer s.reconciler.rows).filterMap s.mixer.logged? } := by
  simp only [outcome, serve, Reconciler.reset, Tracked.resetPass_eq, Mixer.journal_perform,
    List.drop_left]

/-- What can be seen of a call depends on what is remembered and on the layout alone. -/
theorem Alike.outcome {s s' : Rig} (h : s.Alike s') (call : Call) :
    s'.outcome call = s.outcome call := by
  have hlogged : s'.mixer.logged? = s.mixer.logged? := funext (Mixer.logged?_congr h.layout)
  have hwrites := Tracked.callWrites_congr h.layout call s.reconciler.rows
  cases call with
  | reset =>
    have hclears : Tracked.clears s'.mixer = Tracked.clears s.mixer :=
      funext (Tracked.clears_congr h.layout)
    have hreport : Tracked.clearReport s'.mixer = Tracked.clearReport s.mixer :=
      funext (Tracked.clearReport_congr h.layout)
    simp only [Tracked.callWrites] at hwrites
    simp only [outcome_reset, h.reconciler, hclears, hreport, hwrites, hlogged]
  | converge facts =>
    have hoff : Tracked.goesOff facts s'.mixer = Tracked.goesOff facts s.mixer :=
      funext fun t => t.goesOff_congr h.layout facts
    have hon : Tracked.goesOn facts s'.mixer = Tracked.goesOn facts s.mixer :=
      funext fun t => t.goesOn_congr h.layout facts
    have hreport : Tracked.report facts s'.mixer = Tracked.report facts s.mixer :=
      funext fun t => t.report_congr h.layout facts
    simp only [Tracked.callWrites] at hwrites
    simp only [outcome_converge, h.reconciler, hoff, hon, hreport, hwrites, hlogged]

end Rig

namespace Codec

/-- What can be seen of calls on both paths that are made one after the other. -/
def outcomes (c : Codec) : List (Path × Reconciler.Call) → List (Path × Rig.Outcome)
  | [] => []
  | (p, call) :: calls => (p, (c.rig p).outcome call) :: (c.serve (p, call)).outcomes calls

/-- What can be seen of the calls on one path. -/
def outcomesOn (c : Codec) (p : Path) (calls : List (Path × Reconciler.Call)) : List Rig.Outcome :=
  ((c.outcomes calls).filter (·.1 = p)).map Prod.snd

theorem journal_outcomes (c : Codec) (calls : List (Path × Reconciler.Call)) :
    (c.run calls).mixer.journal = c.mixer.journal ++ (c.outcomes calls).flatMap (·.2.written) := by
  induction calls generalizing c with
  | nil => simp [outcomes]
  | cons call calls ih =>
    obtain ⟨p, call⟩ := call
    have hgrows : (c.serve (p, call)).mixer.journal =
        c.mixer.journal ++ ((c.rig p).outcome call).written := by
      rw [mixer_serve]
      exact (c.rig p).journal_outcome call
    rw [run_cons, ih, hgrows, outcomes, List.flatMap_cons, List.append_assoc]

/-- Calls have the outcomes that they have when only the calls on their own path are made. -/
theorem Apart.outcomesOn_eq {c : Codec} (h : c.Apart) (p : Path)
    (calls : List (Path × Reconciler.Call)) {s : Rig} (hs : s.Alike (c.rig p)) :
    c.outcomesOn p calls = s.outcomes (callsOn p calls) := by
  induction calls generalizing c s with
  | nil => rfl
  | cons call calls ih =>
    obtain ⟨q, call⟩ := call
    by_cases hq : q = p
    · subst hq
      have hserved := hs.serve call
      rw [← rig_serve_self] at hserved
      have hcalls : callsOn q ((q, call) :: calls) = call :: callsOn q calls := by
        simp [callsOn]
      have houtcomes : c.outcomesOn q ((q, call) :: calls) =
          (c.rig q).outcome call :: (c.serve (q, call)).outcomesOn q calls := by
        simp [outcomesOn, outcomes]
      rw [hcalls, houtcomes, hs.outcome, ih (h.serve (q, call)) hserved]
      rfl
    · have hcalls : callsOn p ((q, call) :: calls) = callsOn p calls := by
        simp [callsOn, hq]
      have houtcomes : c.outcomesOn p ((q, call) :: calls) =
          (c.serve (q, call)).outcomesOn p calls := by
        simp [outcomesOn, outcomes, hq]
      rw [hcalls, houtcomes]
      exact ih (h.serve (q, call)) (hs.trans (h.serve_of_ne (Ne.symm hq) call))

/-- Two reconcilers that remember nothing of two tables without a common name. -/
theorem apart_ofTable {table table' : List ControlRule}
    (hnames : ∀ rule ∈ table, ∀ rule' ∈ table', rule.name ≠ rule'.name) (path path' : Path)
    (m : Mixer) : (Codec.mk m (.ofTable path table) (.ofTable path' table')).Apart where
  names p q hne rule hrule rule' hrule' := by
    have hrules := Rig.rules_ofTable path table m
    have hrules' := Rig.rules_ofTable path' table' m
    match p, q with
    | .output, .output => exact absurd rfl hne
    | .output, .input => exact hnames rule (hrules ▸ hrule) rule' (hrules' ▸ hrule')
    | .input, .output => exact (hnames rule' (hrules ▸ hrule') rule (hrules' ▸ hrule)).symm
    | .input, .input => exact absurd rfl hne
  memory p := by
    cases p
    · exact Rig.faithful_ofTable path table m
    · exact Rig.faithful_ofTable path' table' m

/-- **Two reconcilers behave as if alone.** Let two tables share no name, and make any calls on
their reconcilers, in any order, on any one mixer. Then on each path every call has the outcome
that it has when the calls on this path are made alone, and what is remembered in the end is what
is remembered then. The journal has what the calls wrote, in the order of the calls. Whatever
other order the calls are made in, as long as it is the same on each path, the controls of the
mixer end up the same, with all that their slots hold. -/
theorem interleaved_as_alone {table table' : List ControlRule}
    (hnames : ∀ rule ∈ table, ∀ rule' ∈ table', rule.name ≠ rule'.name) (path path' : Path)
    (m : Mixer) (calls : List (Path × Reconciler.Call)) :
    let c : Codec := ⟨m, .ofTable path table, .ofTable path' table'⟩
    (∀ p, c.outcomesOn p calls = (c.rig p).outcomes (callsOn p calls) ∧
      (c.run calls).reconciler p = ((c.rig p).run (callsOn p calls)).reconciler ∧
      ((c.rig p).run (callsOn p calls)).mixer.journal =
        m.journal ++ (c.outcomesOn p calls).flatMap (·.written)) ∧
    (c.run calls).mixer.journal = m.journal ++ (c.outcomes calls).flatMap (·.2.written) ∧
    ∀ calls', (∀ p, callsOn p calls' = callsOn p calls) →
      (c.run calls').mixer.controls = (c.run calls).mixer.controls := by
  intro c
  have hapart : c.Apart := apart_ofTable hnames path path' m
  have halone : ∀ p calls, ((c.rig p).run (callsOn p calls)).Alike ((c.run calls).rig p) :=
    fun p calls => hapart.alone p calls (.refl _)
  have houtcomes : ∀ p, c.outcomesOn p calls = (c.rig p).outcomes (callsOn p calls) :=
    fun p => hapart.outcomesOn_eq p calls (.refl _)
  refine ⟨fun p => ⟨houtcomes p, (halone p calls).reconciler, ?_⟩, c.journal_outcomes calls, ?_⟩
  · rw [houtcomes p]
    exact (c.rig p).journal_outcomes _
  · intro calls' hsame
    refine hapart.controls_eq fun p => (halone p calls).symm.trans ?_
    rw [← hsame p]
    exact halone p calls'

/-- The two tables of a codec share no name: a call comes and goes on the playback path, with or
without a capture in between. -/
theorem interleaved_as_alone_on_tables :
    let c := fresh Mixer.ofTables
    let music : Facts := ⟨.normal, .speaker ∪ .builtinMic, true⟩
    let call : Facts := ⟨.inCall, .earpiece ∪ .builtinMic, false⟩
    let calls := [(Path.input, Reconciler.Call.reset), (.output, .reset),
      (.output, .converge music), (.input, .converge music),
      (.output, .converge call), (.input, .converge call)]
    let calls' := [(Path.output, Reconciler.Call.reset), (.output, .converge music),
      (.output, .converge call),
      (.input, .reset), (.input, .converge music), (.input, .converge call)]
    (∀ rule ∈ ControlRule.outputTable, ∀ rule' ∈ ControlRule.inputTable, rule.name ≠ rule'.name) ∧
      (∀ p, callsOn p calls' = callsOn p calls) ∧
      (∀ p, c.outcomesOn p calls = c.outcomesOn p calls') ∧
      (c.run calls').mixer.controls = (c.run calls).mixer.controls := by
  intro c music call calls calls'
  have hnames : ∀ rule ∈ Path.output.table, ∀ rule' ∈ Path.input.table, rule.name ≠ rule'.name :=
    fun rule hrule rule' hrule' => Path.name_ne_of_ne (by decide) hrule hrule'
  have hsame : ∀ p, callsOn p calls' = callsOn p calls := fun p => by cases p <;> rfl
  obtain ⟨halone, -, hcontrols⟩ := interleaved_as_alone hnames .output .input Mixer.ofTables calls
  obtain ⟨halone', -, -⟩ := interleaved_as_alone hnames .output .input Mixer.ofTables calls'
  refine ⟨hnames, hsame, fun p => ?_, hcontrols calls' hsame⟩
  have houtcomes' := (halone' p).1
  rw [hsame p] at houtcomes'
  exact (halone p).1.trans houtcomes'.symm

end Codec

end HandsetAudio
