import HandsetAudio.Proofs.Mixer.Calls

/-!
# Passes that are repeated

After a pass every row is at rest: it is as the facts want it, it is set once and the facts
cannot move it, or it is skipped for good. A pass moves no row that is at rest, so the same pass
once more has nothing to do:

> `converge_again`: from any memory and on any mixer, a pass that is repeated writes nothing,
> reports nothing and leaves rows and mixer as they are.

Whether controls are missing, are of another kind or refuse their writes makes no difference: a
row counts as written when its writes were asked for.
-/

namespace HandsetAudio

namespace Tracked

/-- A pass has nothing to do for the row: it is settled, or it is skipped for good. -/
def AtRest (facts : Facts) (t : Tracked) : Prop :=
  t.settled (t.rule.desired facts) = true ∨ t.resolution = .inert

/-- A pass brings every row to rest. -/
theorem atRest_after (facts : Facts) (m : Mixer) (t : Tracked) :
    (t.after facts m).AtRest facts := by
  unfold AtRest after
  split
  next hsettled => exact .inl hsettled
  next hsettled =>
    rw [rule_bring]
    unfold bring
    split
    next => exact .inr rfl
    next => exact .inl (by simp [settled])

section

variable {facts : Facts} {t : Tracked} (h : t.AtRest facts) (m : Mixer)

include h

/-- A row at rest stays as it is. -/
theorem AtRest.after_eq : t.after facts m = t := by
  unfold after
  split
  next => rfl
  next hsettled =>
    have hinert : t.resolution = .inert := h.resolve_left hsettled
    have htarget : t.target? m = none := by simp [target?, hinert]
    simp only [bring, htarget, ← hinert]

/-- A row at rest is not written. -/
theorem AtRest.not_written : t.goesOff facts m = false ∧ t.goesOn facts m = false := by
  rcases h with hsettled | hinert
  · exact goesOff_of_settled hsettled
  · simp [goesOff, goesOn, target?, hinert]

/-- A row at rest is not reported: it was before, if at all. -/
theorem AtRest.report_eq : t.report facts m = [] := by
  unfold report
  split
  next => rfl
  next hsettled => simp [resolve, h.resolve_left hsettled]

end

/-- A pass over rows at rest does nothing. -/
theorem pass_of_atRest {facts : Facts} {ts : List Tracked} (h : ∀ t ∈ ts, t.AtRest facts)
    (m : Mixer) :
    pass facts m ts = { rows := ts, mixer := m, released := 0, asserted := 0, skips := [] } := by
  have hrows : ts.map (after facts m) = ts :=
    List.map_congr_left (fun t ht => (h t ht).after_eq m) |>.trans (List.map_id' ts)
  have hoff : ts.filter (goesOff facts m) = [] :=
    List.filter_eq_nil_iff.2 fun t ht => by simp [((h t ht).not_written m).1]
  have hon : ts.filter (goesOn facts m) = [] :=
    List.filter_eq_nil_iff.2 fun t ht => by simp [((h t ht).not_written m).2]
  have hskips : ts.reverse.flatMap (report facts m) = [] :=
    List.flatMap_eq_nil_iff.2 fun t ht => (h t (List.mem_reverse.1 ht)).report_eq m
  rw [pass_eq, hrows, hskips, List.countP_eq_length_filter, List.countP_eq_length_filter,
    passWrites, hoff, hon]
  rfl

end Tracked

namespace Rig

/-- **A pass that is repeated is silent.** Whatever a reconciler remembers, and on whatever mixer:
after a pass, the same pass again releases and asserts no row, reports none, and leaves what is
remembered of every row, every slot and the journal as they are. -/
theorem converge_again (s : Rig) (facts : Facts) :
    let s' := (s.serve (.converge facts)).2
    s'.serve (.converge facts) =
      ({ rows := s'.reconciler.rows, mixer := s'.mixer, released := 0, asserted := 0, skips := [] },
        s') := by
  intro s'
  have hrest : ∀ t ∈ s'.reconciler.rows, t.AtRest facts := by
    intro t ht
    obtain ⟨t', -, rfl⟩ := mem_rows_serve.1 ht
    exact t'.atRest_after facts s.mixer
  simp only [serve, Reconciler.converge, Tracked.pass_of_atRest hrest]

end Rig

end HandsetAudio
