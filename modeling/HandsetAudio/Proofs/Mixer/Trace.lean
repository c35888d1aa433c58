import HandsetAudio.Proofs.Mixer.Calls

/-!
# The write trace of a pass

`Rig.changes` describes a pass by what the table and the mixer say, without lookups,
marks or a cache: the rows to release from the back of the table to its front, then the
rows to assert from the front to the back. Main statement:

> `converge_writes_changes`: after any run of calls, on any table and any mixer, a
> converging pass writes the slots of these changes in this order and nothing else, and
> counts them.

So what lies downstream is muted before anything changes upstream of it, and unmuted only
after its sources are in place (`RowChange.Precedes`).
-/

namespace HandsetAudio

/-- The writes that bring every slot of the row's control to its target, or to zero. -/
def ControlRule.writes (m : Mixer) (on : Bool) (rule : ControlRule) : List SlotWrite :=
  m.targetWrites (rule.target? m) on

theorem ControlRule.writes_congr {m m' : Mixer} (h : m.layout = m'.layout) (on : Bool)
    (rule : ControlRule) : rule.writes m on = rule.writes m' on := by
  unfold writes
  rw [rule.target?_congr h]
  exact Mixer.targetWrites_congr h ..

/-- What a pass does to one row. -/
structure RowChange where
  /-- The place of the row in the table. -/
  place : Nat
  rule : ControlRule
  /-- Whether it goes on. -/
  on : Bool
  deriving DecidableEq, Repr

/-- Whether `a` may come before `b`: releases come before assertions, among releases the
row further downstream comes first, and among assertions the row further upstream. -/
def RowChange.Precedes (a b : RowChange) : Prop :=
  match a.on, b.on with
  | false, true => True
  | false, false => b.place < a.place
  | true, true => a.place < b.place
  | true, false => False

namespace Rig

open Reconciler (Call)

/-- The rows, with their places in the table, that resolve, are applied, are not set once
and are not wanted. -/
def releases (s : Rig) (facts : Facts) : List (Tracked × Nat) :=
  s.reconciler.rows.zipIdx.filter fun (t, _) =>
    (t.rule.target? s.mixer).isSome && t.applied && !t.rule.once && !t.rule.desired facts

/-- The rows, with their places in the table, that resolve, are not applied and are
wanted. -/
def assertions (s : Rig) (facts : Facts) : List (Tracked × Nat) :=
  s.reconciler.rows.zipIdx.filter fun (t, _) =>
    (t.rule.target? s.mixer).isSome && !t.applied && t.rule.desired facts

/-- The rows, with their places in the table, that resolve and are not set once. -/
def resets (s : Rig) : List (Tracked × Nat) :=
  s.reconciler.rows.zipIdx.filter fun (t, _) => (t.rule.target? s.mixer).isSome && !t.rule.once

/-- The changes of a call: the releases in descending order of the table, then the
assertions in ascending order. -/
def changes (s : Rig) : Call → List RowChange
  | .reset => s.resets.reverse.map fun (t, place) => { place, rule := t.rule, on := false }
  | .converge facts =>
    (s.releases facts).reverse.map (fun (t, place) => { place, rule := t.rule, on := false }) ++
      (s.assertions facts).map (fun (t, place) => { place, rule := t.rule, on := true })

/-- Selecting rows by what they are keeps their places in order. -/
theorem pairwise_filter_zipIdx (ts : List Tracked) (p : Tracked × Nat → Bool) :
    (ts.zipIdx.filter p).Pairwise fun a b => a.2 < b.2 := by
  refine List.Pairwise.filter p ?_
  have hplaces : (ts.zipIdx.map Prod.snd).Pairwise (· < ·) := by
    rw [List.zipIdx_map_snd]
    exact List.pairwise_lt_range'
  exact List.pairwise_map.1 hplaces

/-- The changes of a call are in the order in which they may be written. -/
theorem pairwise_changes (s : Rig) (call : Call) :
    (s.changes call).Pairwise RowChange.Precedes := by
  cases call with
  | reset =>
    rw [changes, List.pairwise_map, List.pairwise_reverse]
    exact pairwise_filter_zipIdx ..
  | converge facts =>
    refine List.pairwise_append.2 ⟨?_, ?_, ?_⟩
    · rw [List.pairwise_map, List.pairwise_reverse]
      exact pairwise_filter_zipIdx ..
    · rw [List.pairwise_map]
      exact pairwise_filter_zipIdx ..
    · intro a ha b hb
      obtain ⟨_, -, rfl⟩ := List.mem_map.1 ha
      obtain ⟨_, -, rfl⟩ := List.mem_map.1 hb
      trivial

/-- Selecting rows with their places, and the places dropped again. -/
theorem map_filter_zipIdx (ts : List Tracked) (p : Tracked → Bool) :
    (ts.zipIdx.filter fun row => p row.1).map Prod.fst = ts.filter p := by
  have hfst : ts.zipIdx.map Prod.fst = ts := List.zipIdx_map_fst ..
  conv_rhs => rw [← hfst, List.filter_map]
  rfl

/-- With a faithful memory, the pass releases the rows that the table and the mixer name. -/
theorem map_releases {s : Rig} (h : s.Faithful) (facts : Facts) :
    (s.releases facts).map Prod.fst = s.reconciler.rows.filter (Tracked.goesOff facts s.mixer) := by
  rw [releases, map_filter_zipIdx s.reconciler.rows fun t =>
    (t.rule.target? s.mixer).isSome && t.applied && !t.rule.once && !t.rule.desired facts]
  refine List.filter_congr fun t ht => ?_
  rw [Tracked.goesOff, h t ht]

/-- With a faithful memory, the pass asserts the rows that the table and the mixer name. -/
theorem map_assertions {s : Rig} (h : s.Faithful) (facts : Facts) :
    (s.assertions facts).map Prod.fst =
      s.reconciler.rows.filter (Tracked.goesOn facts s.mixer) := by
  rw [assertions, map_filter_zipIdx s.reconciler.rows fun t =>
    (t.rule.target? s.mixer).isSome && !t.applied && t.rule.desired facts]
  refine List.filter_congr fun t ht => ?_
  rw [Tracked.goesOn, h t ht]

/-- A reset writes off the rows that the table and the mixer name. -/
theorem map_resets (s : Rig) :
    s.resets.map Prod.fst = s.reconciler.rows.filter (Tracked.clears s.mixer) := by
  rw [resets, map_filter_zipIdx s.reconciler.rows fun t =>
    (t.rule.target? s.mixer).isSome && !t.rule.once]
  refine List.filter_congr fun t _ => ?_
  rw [Tracked.clears, Bool.and_comm]
  rfl

/-- With a faithful memory, the writes of a call are those of its changes; a reset needs
no memory. -/
theorem callWrites_eq_changes {s : Rig} {call : Call} (h : call = .reset ∨ s.Faithful) :
    Tracked.callWrites s.mixer call s.reconciler.rows =
      (s.changes call).flatMap fun c => c.rule.writes s.mixer c.on := by
  cases call with
  | reset =>
    simp only [Tracked.callWrites, Tracked.resetWrites, changes]
    rw [← map_resets, ← List.map_reverse, List.flatMap_map, List.flatMap_map]
    rfl
  | converge facts =>
    have hfaithful : s.Faithful := h.resolve_left (by simp)
    have hwrites : ∀ t ∈ s.reconciler.rows, ∀ on,
        t.writes s.mixer on = t.rule.writes s.mixer on := by
      intro t ht on
      rw [Tracked.writes, hfaithful t ht, ControlRule.writes]
    simp only [Tracked.callWrites, Tracked.passWrites, changes]
    rw [← map_releases hfaithful, ← map_assertions hfaithful, ← List.map_reverse,
      List.flatMap_append]
    simp only [List.flatMap_map]
    congr 1
    · refine List.flatMap_congr fun row hrow => ?_
      have hrow' := List.mem_of_mem_filter (List.mem_reverse.1 hrow)
      exact hwrites _ (List.fst_mem_of_mem_zipIdx hrow') _
    · refine List.flatMap_congr fun row hrow => ?_
      exact hwrites _ (List.fst_mem_of_mem_zipIdx (List.mem_of_mem_filter hrow)) _

/-- With a faithful memory, the mixer performs the changes of a call. -/
theorem mixer_serve {s : Rig} {call : Call} (h : call = .reset ∨ s.Faithful) :
    (s.serve call).2.mixer =
      s.mixer.perform ((s.changes call).flatMap fun c => c.rule.writes s.mixer c.on) := by
  rw [serve_eq, ← callWrites_eq_changes h]

/-- With a faithful memory, the journal grows by the entries of the changes. -/
theorem journal_serve {s : Rig} (h : s.Faithful) (call : Call) :
    (s.serve call).2.mixer.journal = s.mixer.journal ++
      ((s.changes call).flatMap fun c => c.rule.writes s.mixer c.on).filterMap s.mixer.logged? := by
  rw [mixer_serve (.inr h), Mixer.journal_perform]

/-- **What a pass writes.** After any run of calls on any table and mixer, converging to
`facts` performs exactly the writes of `changes`, slot by slot: the accepted ones land in
the journal in this order, every slot that they pass by keeps its value, and the counts
are the numbers of released and asserted rows. -/
theorem converge_writes_changes (path : Path) (table : List ControlRule) (m₀ : Mixer)
    (calls : List Call) (facts : Facts) :
    let s := (Rig.mk (.ofTable path table) m₀).run calls
    let pass := (s.reconciler.converge facts s.mixer).1
    let writes := (s.changes (.converge facts)).flatMap fun c => c.rule.writes s.mixer c.on
    pass.mixer = s.mixer.perform writes ∧
      pass.mixer.journal = s.mixer.journal ++ writes.filterMap s.mixer.logged? ∧
      (∀ id slot, (∀ w ∈ writes, ¬(w.id = id ∧ w.slot = slot)) →
        pass.mixer.valueAt id slot = s.mixer.valueAt id slot) ∧
      pass.released = (s.releases facts).length ∧
      pass.asserted = (s.assertions facts).length ∧
      (s.changes (.converge facts)).Pairwise RowChange.Precedes := by
  intro s pass writes
  have hfaithful : s.Faithful := (faithful_ofTable path table m₀).run calls
  have hpass : pass = Tracked.pass facts s.mixer s.reconciler.rows := rfl
  have hmixer : (s.serve (.converge facts)).2.mixer = s.mixer.perform writes :=
    mixer_serve (.inr hfaithful)
  change pass.mixer = s.mixer.perform writes at hmixer
  refine ⟨hmixer, ?_, ?_, ?_, ?_, pairwise_changes s _⟩
  · rw [hmixer, Mixer.journal_perform]
  · intro id slot hpassed
    rw [hmixer, Mixer.valueAt_perform_of_forall_ne writes s.mixer hpassed]
  · rw [← List.length_map Prod.fst, map_releases hfaithful, ← List.countP_eq_length_filter, hpass,
      Tracked.pass_eq]
  · rw [← List.length_map Prod.fst, map_assertions hfaithful, ← List.countP_eq_length_filter, hpass,
      Tracked.pass_eq]

/-- From the speaker to a headset: the speaker goes silent against the table, then the headset
comes on along it. -/
example :
    let s := (Rig.mk (.ofPath .output) .ofTables).run
      [.reset, .converge ⟨.normal, .speaker, true⟩]
    let pass := (s.reconciler.converge ⟨.normal, .wiredHeadset, true⟩ s.mixer).1
    (pass.released, pass.asserted) = (3, 4) ∧
      pass.mixer.journal = s.mixer.journal ++ [
        ⟨"Speaker Switch", 0, 0⟩, ⟨"Speaker Switch", 1, 0⟩,
        ⟨"SPKL DAC1 Switch", 0, 0⟩, ⟨"SPKR DAC1 Switch", 0, 0⟩,
        ⟨"Right Headphone Mux", 0, 1⟩, ⟨"Left Headphone Mux", 0, 1⟩,
        ⟨"Headphone Volume", 0, 43⟩, ⟨"Headphone Volume", 1, 43⟩,
        ⟨"Headphone Switch", 0, 1⟩, ⟨"Headphone Switch", 1, 1⟩] := by
  decide +kernel

end Rig

end HandsetAudio
