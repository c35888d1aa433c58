import HandsetAudio.Proofs.Mixer.Tables

/-!
# Two reconcilers on one mixer

The device drives both paths on one mixer, call by call. Since no control belongs to
both tables, a call on one path leaves the other path's slots alone, and what each
reconciler remembers of its rows stays true of the mixer:

> `Sound.serve`: after any call on any path, the slots of a row that is not set once hold
> what its reconciler remembers.
> `Reconciler.inLine_converge`: after a converging pass, a reconciler remembers what the facts want.

Together, a path that is in line with some facts has them on the mixer
(`Sound.holds_of_inLine`).
-/

namespace HandsetAudio

open ControlRule

/-- The rows are as the facts want them, except for those that are skipped for good. -/
def Reconciler.InLine (r : Reconciler) (facts : Facts) : Prop :=
  ∀ t ∈ r.rows, t.rule.once = false → t.resolution ≠ .inert → t.applied = t.rule.desired facts

/-- A pass leaves a row as wanted, or skips it. -/
theorem Tracked.applied_after_of_steady {facts : Facts} {m : Mixer} {t : Tracked}
    (hsteady : t.rule.once = false) (hinert : (t.after facts m).resolution ≠ .inert) :
    (t.after facts m).applied = t.rule.desired facts := by
  unfold Tracked.after at *
  split at hinert
  next hsettled =>
    rw [if_pos hsettled]
    unfold settled at hsettled
    cases hd : t.rule.desired facts <;> cases ha : t.applied <;> simp_all
  next hsettled =>
    rw [if_neg hsettled]
    unfold bring at *
    split at hinert
    next => exact absurd rfl hinert
    next => rfl

/-- A converging pass brings the path in line, whatever was remembered before. -/
theorem Reconciler.inLine_converge (r : Reconciler) (facts : Facts) (m : Mixer) :
    (r.converge facts m).2.InLine facts := by
  intro t ht hsteady hinert
  simp only [converge, Tracked.pass_eq] at ht
  obtain ⟨t', -, rfl⟩ := List.mem_map.1 ht
  rw [Tracked.rule_after] at hsteady ⊢
  exact Tracked.applied_after_of_steady hsteady hinert

/-- A reset brings the path in line with facts that want none of its rows. -/
theorem Reconciler.inLine_reset (r : Reconciler) {facts : Facts} (m : Mixer)
    (h : ∀ t ∈ r.rows, t.rule.once = false → t.rule.desired facts = false) :
    (r.reset m).2.InLine facts := by
  intro t ht hsteady _
  simp only [reset, Tracked.resetPass_eq] at ht
  obtain ⟨t', ht', rfl⟩ := List.mem_map.1 ht
  rw [Tracked.rule_cleared] at hsteady ⊢
  rw [Tracked.applied_cleared, h t' ht' hsteady]

/-- The mixer with the reconcilers of both paths. -/
structure Codec where
  mixer : Mixer
  output : Reconciler
  input : Reconciler
  deriving DecidableEq, Repr

namespace Codec

/-- The reconciler of a path. -/
def reconciler (c : Codec) : Path → Reconciler
  | .output => c.output
  | .input => c.input

/-- One path with the mixer. -/
def rig (c : Codec) (p : Path) : Rig := ⟨c.reconciler p, c.mixer⟩

/-- The codec after a call on one path. -/
def serve (c : Codec) (call : Path × Reconciler.Call) : Codec :=
  let s := ((c.rig call.1).serve call.2).2
  match call.1 with
  | .output => { c with mixer := s.mixer, output := s.reconciler }
  | .input => { c with mixer := s.mixer, input := s.reconciler }

/-- The codec after several calls. -/
def run (c : Codec) (calls : List (Path × Reconciler.Call)) : Codec := calls.foldl serve c

@[simp] theorem run_nil (c : Codec) : c.run [] = c := rfl

@[simp] theorem run_cons (c : Codec) (call : Path × Reconciler.Call)
    (calls : List (Path × Reconciler.Call)) :
    c.run (call :: calls) = (c.serve call).run calls := rfl

theorem run_append (c : Codec) (calls calls' : List (Path × Reconciler.Call)) :
    c.run (calls ++ calls') = (c.run calls).run calls' := List.foldl_append

/-- Some calls lead from one codec to the other. -/
def Reaches (c c' : Codec) : Prop := ∃ calls, c' = c.run calls

theorem Reaches.refl (c : Codec) : c.Reaches c := ⟨[], rfl⟩

theorem Reaches.trans {c c' c'' : Codec} (h : c.Reaches c') (h' : c'.Reaches c'') :
    c.Reaches c'' := by
  obtain ⟨calls, rfl⟩ := h
  obtain ⟨calls', rfl⟩ := h'
  exact ⟨calls ++ calls', (run_append ..).symm⟩

theorem reaches_run (c : Codec) (calls : List (Path × Reconciler.Call)) :
    c.Reaches (c.run calls) := ⟨calls, rfl⟩

theorem reaches_serve (c : Codec) (call : Path × Reconciler.Call) : c.Reaches (c.serve call) :=
  ⟨[call], rfl⟩

@[simp] theorem mixer_serve (c : Codec) (p : Path) (call : Reconciler.Call) :
    (c.serve (p, call)).mixer = ((c.rig p).serve call).2.mixer := by
  cases p <;> rfl

@[simp] theorem rig_serve_self (c : Codec) (p : Path) (call : Reconciler.Call) :
    (c.serve (p, call)).rig p = ((c.rig p).serve call).2 := by
  cases p <;> rfl

@[simp] theorem reconciler_serve_of_ne (c : Codec) {p q : Path} (h : q ≠ p)
    (call : Reconciler.Call) : (c.serve (p, call)).reconciler q = c.reconciler q := by
  cases p <;> cases q <;> first | rfl | exact absurd rfl h

@[simp] theorem layout_serve (c : Codec) (p : Path) (call : Reconciler.Call) :
    (c.serve (p, call)).mixer.layout = c.mixer.layout := by
  rw [mixer_serve, Rig.layout_serve]
  rfl

/-- No call changes a table. -/
@[simp] theorem rules_serve (c : Codec) (p q : Path) (call : Reconciler.Call) :
    ((c.serve (p, call)).rig q).rules = (c.rig q).rules := by
  by_cases hq : q = p
  · subst hq
    rw [rig_serve_self, Rig.rules_serve]
  · have hrows := reconciler_serve_of_ne c hq call
    unfold Rig.rules rig
    rw [hrows]

/-- After a converging pass the path is in line with its facts. -/
theorem inLine_serve_self (c : Codec) (p : Path) (facts : Facts) :
    ((c.serve (p, .converge facts)).reconciler p).InLine facts := by
  cases p <;> exact Reconciler.inLine_converge _ _ _

/-- The reconcilers drive the two tables, on a mixer made for them. -/
structure Wired (c : Codec) : Prop where
  layout : c.mixer.layout = Mixer.ofTables.layout
  rules : ∀ p, (c.rig p).rules = p.table

theorem Wired.serve {c : Codec} (h : c.Wired) (p : Path) (call : Reconciler.Call) :
    (c.serve (p, call)).Wired where
  layout := by rw [layout_serve, h.layout]
  rules q := by rw [rules_serve, h.rules]

section

variable {c : Codec} (h : c.Wired) {p : Path} {t : Tracked} (ht : t ∈ (c.reconciler p).rows)

include h ht

theorem Wired.mem_table : t.rule ∈ p.table := by
  rw [← h.rules p]
  exact List.mem_map_of_mem ht

theorem Wired.serves : c.mixer.Serves t.rule :=
  (Mixer.serves_congr h.layout).2 (serves_ofTables _ (Path.mem_tables (h.mem_table ht)))

end

/-- What a path's reconciler remembers is true of the mixer: what its rows stand for, and
what the slots hold of the rows that are not set once. -/
structure Tracks (c : Codec) (p : Path) : Prop where
  faithful : (c.rig p).Faithful
  holds : ∀ t ∈ (c.reconciler p).rows, t.rule.once = false → c.mixer.Holds t.rule t.applied

/-- A call makes a path's memory right if it was, and a reset in any case. -/
theorem tracks_serve_self {c : Codec} (h : c.Wired) {p : Path} {call : Reconciler.Call}
    (hbefore : call = .reset ∨ c.Tracks p) : (c.serve (p, call)).Tracks p where
  faithful := by
    rw [rig_serve_self]
    rcases hbefore with rfl | hbefore
    · exact Rig.faithful_reset _
    · exact hbefore.faithful.serve call
  holds := by
    intro t ht hsteady
    have hrows : (c.serve (p, call)).reconciler p = ((c.rig p).serve call).2.reconciler := by
      cases p <;> rfl
    rw [hrows] at ht
    obtain ⟨t', ht', rfl⟩ := Rig.mem_rows_serve.1 ht
    rw [Tracked.rule_answer] at hsteady ⊢
    rw [mixer_serve]
    have hnames : ((c.rig p).rules.map (·.name)).Nodup := by
      rw [h.rules]
      exact p.nodup_names_table
    exact Rig.holds_answer_steady hnames ht' (h.serves ht') (hbefore.imp_right (·.faithful)) hsteady
      (hbefore.imp_right fun hb => hb.holds t' ht' hsteady)

/-- A call on one path leaves the slots of the other path's rows alone. -/
theorem value?_serve_of_ne {c : Codec} (h : c.Wired) {p q : Path} (hne : q ≠ p)
    {call : Reconciler.Call} (hcall : call = .reset ∨ (c.rig p).Faithful) {rule : ControlRule}
    (hrule : rule ∈ q.table) (slot : Nat) :
    (c.serve (p, call)).mixer.value? rule.name slot = c.mixer.value? rule.name slot := by
  rw [mixer_serve, Rig.mixer_serve hcall]
  refine Mixer.value?_perform_changes ?_ slot
  intro change hchange
  obtain ⟨t, hmem, hchanged, -⟩ := Rig.mem_changes.1 hchange
  rw [hchanged]
  exact Path.name_ne_of_ne (Ne.symm hne) (h.mem_table (List.mem_of_getElem? hmem)) hrule

/-- A call on one path leaves the other path's memory right. -/
theorem Tracks.serve_of_ne {c : Codec} (h : c.Wired) {p q : Path} (hne : q ≠ p)
    {call : Reconciler.Call} (hcall : call = .reset ∨ (c.rig p).Faithful) (hq : c.Tracks q) :
    (c.serve (p, call)).Tracks q where
  faithful := by
    intro t ht
    have hrows := reconciler_serve_of_ne c hne call
    have ht' : t ∈ (c.reconciler q).rows := hrows ▸ ht
    exact (Tracked.faithful_congr (layout_serve c p call)).2 (hq.faithful t ht')
  holds := by
    intro t ht hsteady
    rw [reconciler_serve_of_ne c hne call] at ht
    exact (hq.holds t ht hsteady).of_value?_eq (layout_serve c p call)
      (value?_serve_of_ne h hne hcall (h.mem_table ht))

/-- What both reconcilers remember is true of the mixer. -/
def Sound (c : Codec) : Prop := c.Wired ∧ ∀ p, c.Tracks p

theorem Sound.serve {c : Codec} (h : c.Sound) (call : Path × Reconciler.Call) :
    (c.serve call).Sound := by
  obtain ⟨hwired, htracks⟩ := h
  obtain ⟨p, call⟩ := call
  refine ⟨hwired.serve p call, fun q => ?_⟩
  by_cases hq : q = p
  · subst hq
    exact tracks_serve_self hwired (.inr (htracks q))
  · exact (htracks q).serve_of_ne hwired hq (.inr (htracks p).faithful)

theorem Sound.run {c : Codec} (h : c.Sound) (calls : List (Path × Reconciler.Call)) :
    (c.run calls).Sound := by
  induction calls generalizing c with
  | nil => exact h
  | cons call calls ih => exact ih (h.serve call)

theorem Sound.of_reaches {c c' : Codec} (h : c.Sound) (hreaches : c.Reaches c') : c'.Sound := by
  obtain ⟨calls, rfl⟩ := hreaches
  exact h.run calls

/-- A mixer with reconcilers of both paths that remember nothing. -/
def fresh (m : Mixer) : Codec := ⟨m, .ofPath .output, .ofPath .input⟩

theorem wired_fresh {m : Mixer} (h : m.layout = Mixer.ofTables.layout) : (fresh m).Wired where
  layout := h
  rules p := by
    have hrules := Rig.rules_ofTable p p.table m
    cases p <;> exact hrules

/-- Resetting both paths, capture first. -/
theorem run_resets (m : Mixer) (output input : Reconciler) :
    (Codec.mk m output input).run [(.input, .reset), (.output, .reset)] =
      { mixer := (output.reset (input.reset m).1.mixer).1.mixer
        output := (output.reset (input.reset m).1.mixer).2
        input := (input.reset m).2 } := rfl

/-- Resetting both paths makes their memory right. -/
theorem sound_reset {m : Mixer} (h : m.layout = Mixer.ofTables.layout) :
    ((fresh m).run [(.input, .reset), (.output, .reset)]).Sound := by
  have hinput : ((fresh m).serve (.input, .reset)).Tracks .input :=
    tracks_serve_self (wired_fresh h) (.inl rfl)
  have hwired := (wired_fresh h).serve .input .reset
  rw [run_cons, run_cons, run_nil]
  refine ⟨hwired.serve .output .reset, fun p => ?_⟩
  cases p with
  | output => exact tracks_serve_self hwired (.inl rfl)
  | input =>
    -- the playback path forgot everything, so its reset does not depend on its memory
    exact hinput.serve_of_ne hwired (by decide) (.inl rfl)

section

variable {c : Codec} (h : c.Sound) {p : Path}

include h

/-- On the mixer made for the tables no row is skipped. -/
theorem Sound.not_inert {t : Tracked} (ht : t ∈ (c.reconciler p).rows) : t.resolution ≠ .inert := by
  obtain ⟨hwired, htracks⟩ := h
  intro hinert
  have htarget := (hwired.serves ht).isSome_target?
  have hfaithful : t.target? c.mixer = t.rule.target? c.mixer := (htracks p).faithful t ht
  rw [← hfaithful, Tracked.target?, hinert] at htarget
  cases htarget

/-- A path that is in line with some facts has them on the mixer. -/
theorem Sound.holds_of_inLine {facts : Facts} (hline : (c.reconciler p).InLine facts)
    {rule : ControlRule} (hrule : rule ∈ p.table) (hsteady : rule.once = false) :
    c.mixer.Holds rule (rule.desired facts) := by
  rw [← h.1.rules p] at hrule
  obtain ⟨t, ht, rfl⟩ := List.mem_map.1 hrule
  rw [← hline t ht hsteady (h.not_inert ht)]
  exact (h.2 p).holds t ht hsteady

end

end Codec

end HandsetAudio
