import HandsetAudio.Text.Integer
import Mathlib.Algebra.Group.Int.Defs
import Mathlib.Data.List.TakeWhile

/-!
# Decimal numerals

What spells an integer is said here without a reader: a run of digits, whose value is that of
`Nat.ofDigitChars`, after an optional sign and between blanks. Main statement:

> `int64?_eq_some_iff`: the reader of signed 64-bit integers accepts exactly the spellings of
> the integers in range, and reads their value.
-/

namespace HandsetAudio.Text

/-- A nonempty run of digits with the value `n`; leading zeros are free. -/
structure Numeral (ds : List Char) (n : Nat) : Prop where
  nonempty : ds ≠ []
  digits : ∀ c ∈ ds, c.isDigit = true
  value : Nat.ofDigitChars 10 ds 0 = n

/-- A numeral with an optional sign. -/
inductive Signed : List Char → Int → Prop where
  | bare {ds : List Char} {n : Nat} (h : Numeral ds n) : Signed ds n
  | plus {ds : List Char} {n : Nat} (h : Numeral ds n) : Signed ('+' :: ds) n
  | minus {ds : List Char} {n : Nat} (h : Numeral ds n) : Signed ('-' :: ds) (-n)

/-- The text is a signed numeral of the value `z` between blanks. -/
def Spells (text : String) (z : Int) : Prop :=
  ∃ before numeral after, text.toList = before ++ numeral ++ after ∧
    (∀ c ∈ before, isBlank c = true) ∧ (∀ c ∈ after, isBlank c = true) ∧ Signed numeral z

/-- The signed 64-bit integers. -/
def InInt64 (z : Int) : Prop := -2 ^ 63 ≤ z ∧ z < 2 ^ 63

/-! ## Digits -/

theorem digit?_eq_some_iff {c : Char} {d : Nat} :
    digit? c = some d ↔ c.isDigit = true ∧ d = c.toNat - '0'.toNat := by
  have hrange : c.isDigit = true ↔ '0' ≤ c ∧ c ≤ '9' := by
    rw [Char.isDigit, Bool.and_eq_true, decide_eq_true_iff, decide_eq_true_iff]
    exact Iff.rfl
  rw [digit?, hrange]
  by_cases h : '0' ≤ c ∧ c ≤ '9'
  · rw [if_pos h, Option.some.injEq]
    exact ⟨fun heq => ⟨h, heq.symm⟩, fun heq => heq.2.symm⟩
  · rw [if_neg h]
    exact ⟨fun heq => (nomatch heq), fun heq => absurd heq.1 h⟩

/-- Reading goes on from the value of what was read before. -/
theorem digitsFrom?_eq_some_iff {acc n : Nat} {ds : List Char} :
    digitsFrom? acc ds = some n ↔
      (∀ c ∈ ds, c.isDigit = true) ∧ Nat.ofDigitChars 10 ds acc = n := by
  induction ds generalizing acc with
  | nil => simp [digitsFrom?]
  | cons c ds ih =>
    rw [digitsFrom?, Option.bind_eq_some_iff, Nat.ofDigitChars_cons]
    constructor
    · rintro ⟨d, hd, hrest⟩
      obtain ⟨hdigit, rfl⟩ := digit?_eq_some_iff.1 hd
      obtain ⟨hdigits, hvalue⟩ := ih.1 hrest
      refine ⟨?_, hvalue⟩
      intro c' hc'
      rcases List.mem_cons.1 hc' with rfl | hc'
      · exact hdigit
      · exact hdigits c' hc'
    · rintro ⟨hdigits, hvalue⟩
      have hdigit := hdigits c List.mem_cons_self
      refine ⟨_, digit?_eq_some_iff.2 ⟨hdigit, rfl⟩, ih.2 ⟨?_, hvalue⟩⟩
      intro c' hc'
      exact hdigits c' (List.mem_cons_of_mem c hc')

theorem digits?_eq_some_iff {ds : List Char} {n : Nat} : digits? ds = some n ↔ Numeral ds n := by
  cases ds with
  | nil => exact ⟨fun h => (nomatch h), fun h => absurd rfl h.nonempty⟩
  | cons c ds =>
    rw [digits?, digitsFrom?_eq_some_iff]
    exact ⟨fun h => ⟨List.cons_ne_nil c ds, h.1, h.2⟩, fun h => ⟨h.digits, h.value⟩⟩

/-- A numeral starts with a digit, hence with no sign. -/
theorem Numeral.head_isDigit {c : Char} {ds : List Char} {n : Nat} (h : Numeral (c :: ds) n) :
    c.isDigit = true := h.digits c List.mem_cons_self

theorem signed?_minus (ds : List Char) :
    signed? ('-' :: ds) = (digits? ds).map fun n : Nat => -(n : Int) := by
  rw [signed?]
  cases digits? ds <;> rfl

theorem signed?_eq_some_iff {cs : List Char} {z : Int} : signed? cs = some z ↔ Signed cs z := by
  constructor
  · intro h
    unfold signed? at h
    split at h
    next ds =>
      obtain ⟨n, hn, rfl⟩ := Option.map_eq_some_iff.1 ((signed?_minus ds).symm.trans h)
      exact .minus (digits?_eq_some_iff.1 hn)
    next ds =>
      obtain ⟨n, hn, rfl⟩ := Option.map_eq_some_iff.1 h
      exact .plus (digits?_eq_some_iff.1 hn)
    next ds _ _ =>
      obtain ⟨n, hn, rfl⟩ := Option.map_eq_some_iff.1 h
      exact .bare (digits?_eq_some_iff.1 hn)
  · intro h
    cases h with
    | bare hn =>
      have hread := digits?_eq_some_iff.2 hn
      unfold signed?
      split
      next => exact absurd hn.head_isDigit (by decide)
      next => exact absurd hn.head_isDigit (by decide)
      next => exact Option.map_eq_some_iff.2 ⟨_, hread, rfl⟩
    | plus hn => exact Option.map_eq_some_iff.2 ⟨_, digits?_eq_some_iff.2 hn, rfl⟩
    | minus hn =>
      rw [signed?_minus]
      exact Option.map_eq_some_iff.2 ⟨_, digits?_eq_some_iff.2 hn, rfl⟩

/-! ## Blanks -/

/-- No digit and no sign is a blank. -/
theorem not_isBlank_of_isDigit {c : Char} (h : c.isDigit = true) : isBlank c = false := by
  rw [Char.isDigit, Bool.and_eq_true, decide_eq_true_iff, decide_eq_true_iff] at h
  have hlow : 48 ≤ c.toNat := h.1
  have hhigh : c.toNat ≤ 57 := h.2
  simp only [isBlank, blankRanges, List.any_cons, List.any_nil, Bool.or_eq_false_iff,
    Bool.and_eq_false_iff, decide_eq_false_iff_not, and_true]
  omega

/-- A character of a signed numeral is a digit or a sign. -/
theorem Signed.mem {cs : List Char} {z : Int} (h : Signed cs z) {c : Char} (hc : c ∈ cs) :
    c.isDigit = true ∨ c = '+' ∨ c = '-' := by
  cases h with
  | bare hn => exact .inl (hn.digits c hc)
  | plus hn =>
    rcases List.mem_cons.1 hc with rfl | hc
    · exact .inr (.inl rfl)
    · exact .inl (hn.digits c hc)
  | minus hn =>
    rcases List.mem_cons.1 hc with rfl | hc
    · exact .inr (.inr rfl)
    · exact .inl (hn.digits c hc)

theorem Signed.not_isBlank {cs : List Char} {z : Int} (h : Signed cs z) {c : Char}
    (hc : c ∈ cs) : isBlank c = false := by
  rcases h.mem hc with hdigit | rfl | rfl
  · exact not_isBlank_of_isDigit hdigit
  · decide
  · decide

theorem dropWhile_isBlank {before cs : List Char} (hbefore : ∀ c ∈ before, isBlank c = true)
    (hcs : ∀ c ∈ cs, isBlank c = false) (after : List Char)
    (hafter : ∀ c ∈ after, isBlank c = true) :
    ∃ after', (before ++ cs ++ after).dropWhile isBlank = cs ++ after' ∧
      ∀ c ∈ after', isBlank c = true := by
  rw [List.append_assoc, List.dropWhile_append_of_pos hbefore]
  cases cs with
  | nil =>
    refine ⟨[], ?_, fun c hc => (nomatch hc)⟩
    exact List.dropWhile_eq_nil_iff.2 hafter
  | cons c cs =>
    refine ⟨after, ?_, hafter⟩
    rw [List.cons_append, List.dropWhile_cons_of_neg]
    rw [hcs c List.mem_cons_self]
    exact Bool.false_ne_true

/-- Trimming takes the blanks at both ends away. -/
theorem trim_append {before cs after : List Char} (hbefore : ∀ c ∈ before, isBlank c = true)
    (hcs : ∀ c ∈ cs, isBlank c = false) (hafter : ∀ c ∈ after, isBlank c = true) :
    trim (before ++ cs ++ after) = cs := by
  obtain ⟨after', hfront, hafter'⟩ := dropWhile_isBlank hbefore hcs after hafter
  have hback : (after'.reverse ++ cs.reverse).dropWhile isBlank = cs.reverse := by
    rw [List.dropWhile_append_of_pos fun c hc => hafter' c (List.mem_reverse.1 hc)]
    cases hrev : cs.reverse with
    | nil => rfl
    | cons c rest =>
      have hc : c ∈ cs := List.mem_reverse.1 (hrev ▸ List.mem_cons_self)
      rw [List.dropWhile_cons_of_neg]
      rw [hcs c hc]
      exact Bool.false_ne_true
  rw [trim, hfront, List.reverse_append, hback, List.reverse_reverse]

/-- What trimming takes away are blanks. -/
theorem exists_trim (cs : List Char) :
    ∃ before after, cs = before ++ trim cs ++ after ∧ (∀ c ∈ before, isBlank c = true) ∧
      ∀ c ∈ after, isBlank c = true := by
  let rest := (cs.dropWhile isBlank).reverse
  have hblank : ∀ (l : List Char), ∀ c ∈ l.takeWhile isBlank, isBlank c = true :=
    fun l c hc => List.mem_takeWhile_imp hc
  refine ⟨cs.takeWhile isBlank, (rest.takeWhile isBlank).reverse, ?_, hblank cs, ?_⟩
  · have hback : trim cs ++ (rest.takeWhile isBlank).reverse = cs.dropWhile isBlank := by
      rw [trim, ← List.reverse_append, List.takeWhile_append_dropWhile, List.reverse_reverse]
    rw [List.append_assoc, hback, List.takeWhile_append_dropWhile]
  · intro c hc
    exact hblank rest c (List.mem_reverse.1 hc)

/-! ## Integers between blanks -/

/-- Reading between blanks accepts the spellings and nothing else. -/
theorem signed?_trim_eq_some_iff {text : String} {z : Int} :
    signed? (trim text.toList) = some z ↔ Spells text z := by
  constructor
  · intro h
    obtain ⟨before, after, htext, hbefore, hafter⟩ := exists_trim text.toList
    exact ⟨before, trim text.toList, after, htext, hbefore, hafter, signed?_eq_some_iff.1 h⟩
  · rintro ⟨before, numeral, after, htext, hbefore, hafter, hsigned⟩
    rw [htext, trim_append hbefore (fun c hc => hsigned.not_isBlank hc) hafter]
    exact signed?_eq_some_iff.2 hsigned

/-- **Integers in text**: what is read as a signed 64-bit integer are the spellings of the
integers in range, with their value. -/
theorem int64?_eq_some_iff {text : String} {z : Int} :
    int64? text = some z ↔ Spells text z ∧ InInt64 z := by
  rw [int64?, Option.filter_eq_some_iff, signed?_trim_eq_some_iff, decide_eq_true_iff]
  exact Iff.rfl

/-- A text spells one integer at most. -/
theorem Spells.unique {text : String} {z z' : Int} (h : Spells text z) (h' : Spells text z') :
    z = z' := by
  rw [← signed?_trim_eq_some_iff] at h h'
  exact Option.some.inj (h.symm.trans h')

/-- A character of a spelling is a blank, a digit or a sign. -/
theorem Spells.mem {text : String} {z : Int} (h : Spells text z) {c : Char}
    (hc : c ∈ text.toList) : isBlank c = true ∨ c.isDigit = true ∨ c = '+' ∨ c = '-' := by
  obtain ⟨before, numeral, after, htext, hbefore, hafter, hsigned⟩ := h
  rw [htext] at hc
  rcases List.mem_append.1 hc with hc | hc
  · rcases List.mem_append.1 hc with hc | hc
    · exact .inl (hbefore c hc)
    · exact .inr (hsigned.mem hc)
  · exact .inl (hafter c hc)

end HandsetAudio.Text
