import Mathlib.Data.List.Basic

/-!
# Logs that grow

Journals and records only ever grow. `Grows P` says that what was added meets `P`, `Since P Q` that
something met `P` and all that came later `Q`. Where entries come in pieces,
`filter_flatMap_of_forall` picks those of some owners.
-/

namespace HandsetAudio

/-- The log grew by entries that meet `P`. -/
def Grows {α : Type} (P : α → Prop) (log log' : List α) : Prop :=
  ∃ entries, log' = log ++ entries ∧ ∀ e ∈ entries, P e

namespace Grows

variable {α : Type} {P Q : α → Prop} {log log' log'' : List α}

theorem refl (log : List α) : Grows P log log :=
  ⟨[], (List.append_nil log).symm, fun _ he => (nomatch he)⟩

theorem trans (h : Grows P log log') (h' : Grows P log' log'') : Grows P log log'' := by
  obtain ⟨entries, rfl, hentries⟩ := h
  obtain ⟨entries', rfl, hentries'⟩ := h'
  refine ⟨entries ++ entries', List.append_assoc .., fun e he => ?_⟩
  exact (List.mem_append.1 he).elim (hentries e) (hentries' e)

theorem mono (h : Grows P log log') (hPQ : ∀ e, P e → Q e) : Grows Q log log' := by
  obtain ⟨entries, hlog, hentries⟩ := h
  exact ⟨entries, hlog, fun e he => hPQ e (hentries e he)⟩

theorem concat (log : List α) {e : α} (he : P e) : Grows P log (log ++ [e]) :=
  ⟨[e], rfl, fun e' he' => by rwa [List.mem_singleton.1 he']⟩

end Grows

/-- An entry met `P`, and every later one `Q`. -/
def Since {α : Type} (P Q : α → Prop) (log : List α) : Prop :=
  ∃ before e after, log = before ++ e :: after ∧ P e ∧ ∀ later ∈ after, Q later

theorem not_since_nil {α : Type} {P Q : α → Prop} : ¬Since P Q [] := by
  rintro ⟨before, e, after, hnil, -⟩
  cases before <;> cases hnil

/-- It is the last entry that met `P`, or it was one before and the last one met `Q`. -/
theorem since_concat {α : Type} {P Q : α → Prop} {log : List α} {e : α} :
    Since P Q (log ++ [e]) ↔ P e ∨ Since P Q log ∧ Q e := by
  constructor
  · rintro ⟨before, e', after, hlog, he', hafter⟩
    rcases List.eq_nil_or_concat after with rfl | ⟨after, last, rfl⟩
    · obtain ⟨-, hlast⟩ := List.append_inj' hlog rfl
      rw [List.singleton_inj.1 hlast]
      exact .inl he'
    · rw [List.concat_eq_append, ← List.cons_append, ← List.append_assoc] at hlog
      obtain ⟨rfl, hlast⟩ := List.append_inj' hlog rfl
      rw [List.singleton_inj.1 hlast]
      refine .inr ⟨⟨before, e', after, rfl, he', ?_⟩, hafter last (by simp)⟩
      intro later hlater
      exact hafter later (by simp [hlater])
  · rintro (he | ⟨⟨before, e', after, rfl, he', hafter⟩, he⟩)
    · exact ⟨log, e, [], rfl, he, fun _ h => (nomatch h)⟩
    · refine ⟨before, e', after ++ [e], by simp, he', ?_⟩
      intro later hlater
      rcases List.mem_append.1 hlater with hold | hnew
      · exact hafter later hold
      · rw [List.mem_singleton.1 hnew]
        exact he

/-- What is picked of the pieces is the pieces of what is picked, if every entry of a piece is
picked as its owner is. -/
theorem filter_flatMap_of_forall {α β : Type} {f : α → List β} {p : α → Bool} {q : β → Bool} :
    ∀ {as : List α}, (∀ a ∈ as, ∀ b ∈ f a, q b = p a) →
      (as.flatMap f).filter q = (as.filter p).flatMap f
  | [], _ => rfl
  | a :: as, h => by
    have ih := filter_flatMap_of_forall fun a ha => h a (List.mem_cons_of_mem _ ha)
    have ha := h a (List.mem_cons_self ..)
    rw [List.flatMap_cons, List.filter_append, ih, List.filter_cons]
    split
    next hp =>
      rw [List.filter_eq_self.2 fun b hb => (ha b hb).trans hp, List.flatMap_cons]
    next hp =>
      rw [List.filter_eq_nil_iff.2 fun b hb => by rw [ha b hb]; exact hp, List.nil_append]

end HandsetAudio
