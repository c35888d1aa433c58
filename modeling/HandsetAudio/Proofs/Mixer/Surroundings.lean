import HandsetAudio.Proofs.Logs
import HandsetAudio.Proofs.Mixer.Treatment

/-!
# Runs on a mixer that others change

While a reconciler is called, others may add controls to its mixer, make controls refuse writes, or
write slots (`Rig.Event`). A `Rig.Moment` is one call of such a run with the rig that it meets.

Controls stay where they are and keep their names, so a row goes on standing for the control that
was found for it:

> `named_moments`: from a reset on, every call meets rows whose controls have the names of the rows.
> `exists_row_of_written`: then what a call writes has the name of a row that it had to write.
-/

namespace HandsetAudio

open Reconciler (Call)

/-! ## Names of controls -/

namespace Mixer

/-- The name of a control. -/
def name? (m : Mixer) (id : ControlId) : Option String := (m.controls[id]?).map (·.name)

theorem name?_congr {m m' : Mixer} (h : m.layout = m'.layout) (id : ControlId) :
    m.name? id = m'.name? id := by
  have hname : ∀ m : Mixer, m.name? id = (m.layout[id]?).map (·.name) := fun m => by
    rw [getElem?_layout, Option.map_map]
    rfl
  rw [hname, hname, h]

/-- Adding a control leaves the names of the others. -/
theorem name?_add {m : Mixer} {id : ControlId} {name : String} (h : m.name? id = some name)
    (other : String) (kind : ControlKind) (slots : Nat) (max : Int) (choices : List String) :
    (m.add other kind slots max choices).name? id = some name := by
  obtain ⟨c, hc, hname⟩ := Option.map_eq_some_iff.1 h
  obtain ⟨hlt, -⟩ := List.getElem?_eq_some_iff.1 hc
  rw [name?, add, List.getElem?_append_left hlt, hc, Option.map_some, hname]

@[simp] theorem name?_refuseWrites (m : Mixer) (name : String) (id : ControlId) :
    (m.refuseWrites name).name? id = m.name? id := by
  unfold refuseWrites
  split
  next => rfl
  next other _ =>
    simp only [name?, List.getElem?_modify]
    split <;> simp [Function.comp_def]

theorem name?_of_find? {m : Mixer} {name : String} {id : ControlId} (h : m.find? name = some id) :
    m.name? id = some name := by
  obtain ⟨hlt, hname, -⟩ := List.findIdx?_eq_some_iff_getElem.1 h
  rw [name?, List.getElem?_eq_getElem hlt, Option.map_some, eq_of_beq hname]

theorem name?_of_logged? {m : Mixer} {w : SlotWrite} {e : MixerWrite} (h : m.logged? w = some e) :
    m.name? w.id = some e.name := by
  unfold logged? at h
  split at h
  next =>
    obtain ⟨c, hc, rfl⟩ := Option.map_eq_some_iff.1 h
    rw [name?, hc]
    rfl
  next => cases h

end Mixer

/-! ## Runs on a mixer that changes -/

namespace Rig

/-- What can happen to a reconciler and its mixer. -/
inductive Event where
  /-- The reconciler is called. -/
  | call (call : Call)
  /-- A control is added to the mixer. -/
  | register (name : String) (kind : ControlKind) (slots : Nat) (max : Int) (choices : List String)
  /-- A control refuses every write from now on. -/
  | refuse (name : String)
  /-- Somebody else writes a slot. -/
  | store (w : SlotWrite)
  deriving DecidableEq, Repr

/-- The rig after an event. -/
def step (s : Rig) : Event → Rig
  | .call call => (s.serve call).2
  | .register name kind slots max choices =>
    { s with mixer := s.mixer.add name kind slots max choices }
  | .refuse name => { s with mixer := s.mixer.refuseWrites name }
  | .store w => { s with mixer := s.mixer.put w }

/-- The rig after several events. -/
def play (s : Rig) (events : List Event) : Rig := events.foldl step s

/-- A call, and the rig that it meets. -/
structure Moment where
  rig : Rig
  call : Call
  deriving DecidableEq, Repr

/-- The call that an event is, if it is one. -/
def moment? (s : Rig) : Event → Option Moment
  | .call call => some ⟨s, call⟩
  | _ => none

/-- The calls of a run. -/
def moments (s : Rig) : List Event → List Moment
  | [] => []
  | e :: events => (s.moment? e).toList ++ (s.step e).moments events

theorem play_concat (s : Rig) (events : List Event) (e : Event) :
    s.play (events ++ [e]) = (s.play events).step e := by
  simp [play]

theorem moments_concat (s : Rig) (events : List Event) (e : Event) :
    s.moments (events ++ [e]) = s.moments events ++ ((s.play events).moment? e).toList := by
  induction events generalizing s with
  | nil => simp [moments, play]
  | cons e' events ih =>
    rw [List.cons_append, moments, moments, ih, List.append_assoc]
    rfl

/-- What every event keeps holds at every call of a run. -/
theorem forall_moments {P : Rig → Prop} (hstep : ∀ s e, P s → P (s.step e)) {s : Rig} (h : P s)
    (events : List Event) : ∀ mo ∈ s.moments events, P mo.rig := by
  induction events generalizing s with
  | nil => exact fun mo hmo => (nomatch hmo)
  | cons e events ih =>
    intro mo hmo
    rcases List.mem_append.1 hmo with hmo | hmo
    · cases e with
      | call call => rw [List.mem_singleton.1 hmo]; exact h
      | register => cases hmo
      | refuse => cases hmo
      | store => cases hmo
    · exact ih (hstep s e h) mo hmo

@[simp] theorem rules_step (s : Rig) (e : Event) : (s.step e).rules = s.rules := by
  cases e with
  | call call => exact rules_serve s call
  | register => rfl
  | refuse => rfl
  | store => rfl

theorem getElem?_rows_serve {s : Rig} {place : Nat} {t : Tracked}
    (ht : s.reconciler.rows[place]? = some t) (call : Call) :
    (s.serve call).2.reconciler.rows[place]? = some (t.answer s.mixer call) := by
  simp [serve_eq, ht]

theorem rules_play (s : Rig) (events : List Event) : (s.play events).rules = s.rules := by
  induction events generalizing s with
  | nil => rfl
  | cons e events ih => exact (ih (s.step e)).trans (rules_step s e)

/-- The controls that rows stand for have the names of the rows. -/
def Named (s : Rig) : Prop :=
  ∀ t ∈ s.reconciler.rows, ∀ id value, t.resolution = .ready id value →
    s.mixer.name? id = some t.rule.name

/-- After a reset the controls have the names of the rows, and no pass changes that. -/
theorem named_serve {s : Rig} {call : Call} (h : call = .reset ∨ s.Named) :
    (s.serve call).2.Named := by
  intro t ht id value hready
  obtain ⟨t', ht', rfl⟩ := mem_rows_serve.1 ht
  rw [Tracked.rule_answer, Mixer.name?_congr (layout_serve s call)]
  rcases Tracked.found_or_resolve_of_ready hready with hfound | hresolve
  · cases call with
    | reset => cases hfound
    | converge facts => exact h.resolve_left (by simp) t' ht' id value hfound
  · exact Mixer.name?_of_find? (ControlRule.find?_of_resolve hresolve)

theorem Named.step {s : Rig} (h : s.Named) (e : Event) : (s.step e).Named := by
  cases e with
  | call call => exact named_serve (.inr h)
  | register name kind slots max choices =>
    exact fun t ht id value hready =>
      Mixer.name?_add (h t ht id value hready) name kind slots max choices
  | refuse name =>
    exact fun t ht id value hready => (Mixer.name?_refuseWrites ..).trans (h t ht id value hready)
  | store w =>
    exact fun t ht id value hready =>
      (Mixer.name?_congr (Mixer.layout_put ..) id).trans (h t ht id value hready)

/-- From a reset on, every call meets controls that have the names of the rows. -/
theorem named_moments (s : Rig) (events : List Event) :
    ∀ mo ∈ s.moments (.call .reset :: events), mo.call = .reset ∨ mo.rig.Named := by
  intro mo hmo
  rcases List.mem_append.1 hmo with hmo | hmo
  · rw [List.mem_singleton.1 hmo]
    exact .inl rfl
  · exact .inr (forall_moments (fun _ e h => h.step e) (named_serve (.inl rfl)) events mo hmo)

/-- What a call adds to the journal, it adds for a row of that name. -/
theorem exists_row_of_written {s : Rig} {call : Call} (h : call = .reset ∨ s.Named) {e : MixerWrite}
    (he : e ∈ (s.outcome call).written) :
    ∃ t ∈ s.reconciler.rows, t.rule.name = e.name ∧ (t.turn? s.mixer call).isSome := by
  obtain ⟨ws, hmixer, hws⟩ := (s.accounts call).mixer
  rw [outcome, hmixer, Mixer.journal_perform, List.drop_left] at he
  obtain ⟨w, hw, hlogged⟩ := List.mem_filterMap.1 he
  obtain ⟨t, ht, hasked⟩ := (hws w).1 hw
  obtain ⟨on, hturn, -⟩ := Tracked.mem_asked.1 hasked
  obtain ⟨id, value, hready, heq⟩ := Tracked.ready_of_turn? hturn
  rw [heq] at hasked
  have hname := named_serve h _ (mem_rows_serve.2 ⟨t, ht, rfl⟩) id value hready
  rw [Tracked.rule_answer, Mixer.name?_congr (layout_serve s call),
    ← (Mixer.mem_slotWrites.1 hasked).1, Mixer.name?_of_logged? hlogged] at hname
  exact ⟨t, ht, (Option.some.inj hname).symm, by rw [hturn]; rfl⟩

section

variable {s : Rig} (hnames : (s.rules.map (·.name)).Nodup) {t : Tracked}
  (ht : t ∈ s.reconciler.rows)

include hnames ht

/-- Of rows with distinct names, one has the name of a row. -/
theorem filter_rows : s.reconciler.rows.filter (·.rule.name = t.rule.name) = [t] := by
  have hnames' : (s.reconciler.rows.map fun t => t.rule.name).Nodup := by
    simpa [rules, Function.comp_def] using hnames
  have hsame : ∀ t' ∈ s.reconciler.rows, decide (t'.rule.name = t.rule.name) = decide (t' = t) :=
    fun t' ht' => decide_eq_decide.2
      ⟨List.inj_on_of_nodup_map hnames' ht' ht, fun heq => congrArg (·.rule.name) heq⟩
  rw [List.filter_congr hsame, List.filter_eq,
    List.count_eq_one_of_mem hnames'.of_map ht]
  rfl

/-- Among the reports of a call, those with the name of a row are the row's. -/
theorem filter_skips (call : Call) :
    (s.outcome call).skips.filter (·.name = t.rule.name) = t.reported s.mixer call := by
  have hpieces : ∀ t' ∈ s.reconciler.rows.reverse, ∀ skip ∈ t'.reported s.mixer call,
      decide (skip.name = t.rule.name) = decide (t'.rule.name = t.rule.name) :=
    fun t' _ skip hskip => by rw [Tracked.name_of_mem_reported hskip]
  rw [outcome, (s.accounts call).skips, filter_flatMap_of_forall hpieces, List.filter_reverse,
    filter_rows hnames ht, List.reverse_singleton, List.flatMap_singleton]

/-- A call that does not write a row adds nothing of its name to the journal. -/
theorem name_ne_of_written {call : Call} (h : call = .reset ∨ s.Named)
    (hturn : t.turn? s.mixer call = none) {e : MixerWrite} (he : e ∈ (s.outcome call).written) :
    e.name ≠ t.rule.name := by
  intro hname
  obtain ⟨t', ht', hname', hsome⟩ := exists_row_of_written h he
  have hmem : t' ∈ s.reconciler.rows.filter (·.rule.name = t.rule.name) :=
    List.mem_filter.2 ⟨ht', decide_eq_true (hname'.trans hname)⟩
  rw [filter_rows hnames ht, List.mem_singleton] at hmem
  rw [hmem, hturn] at hsome
  cases hsome

end

end Rig

end HandsetAudio
