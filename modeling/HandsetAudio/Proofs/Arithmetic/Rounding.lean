import Mathlib.Algebra.Order.Field.Rat
import Mathlib.Data.Rat.Lemmas
import Mathlib.Tactic.FieldSimp
import Mathlib.Tactic.Linarith
import HandsetAudio.Arithmetic.Rounding

/-!
# Bounds of rounded numbers

Rounding to a number of binary digits does not carry a number past an integer that has no more
digits itself:

> `nearest_le`: what is at most `k` is rounded to at most `k`, for integers `k` that are small
> enough.

Nor does it take more away from a number than half of the last digit that is kept:

> `le_nearest`: a number loses at most one part in `2 ^ 53`.
-/

namespace HandsetAudio.Arithmetic

/-- A quotient of at most `m` is rounded to at most `m`. -/
theorem quotientHalfEven_le {n d m : Nat} (hd : 0 < d) (h : n ≤ m * d) :
    quotientHalfEven n d ≤ m := by
  have hquotient : n / d ≤ m := Nat.div_le_of_le_mul (by rwa [Nat.mul_comm] at h)
  have hsplit := Nat.div_add_mod n d
  unfold quotientHalfEven
  simp only
  rcases Nat.lt_or_eq_of_le hquotient with hlt | heq
  · split
    next => exact hquotient
    next => split <;> [omega; (split <;> omega)]
  · -- the quotient is `m` itself, so nothing is left to round up
    have hrest : n % d = 0 := by
      rw [heq, Nat.mul_comm] at hsplit
      omega
    rw [hrest, if_pos (by omega)]
    exact hquotient

/-- The exponent of a quotient of less than a power of two. -/
theorem binaryExponent_le {n d e : Nat} (hn : 0 < n) (h : n < 2 ^ e * d) :
    binaryExponent n d ≤ e := by
  have hlow : 2 ^ n.log2 ≤ n := Nat.log2_self_le (by omega)
  have hhigh : d < 2 ^ (d.log2 + 1) := Nat.lt_log2_self
  have hpow : 2 ^ n.log2 < 2 ^ (e + (d.log2 + 1)) := by
    calc 2 ^ n.log2 ≤ n := hlow
      _ < 2 ^ e * d := h
      _ ≤ 2 ^ e * 2 ^ (d.log2 + 1) := Nat.mul_le_mul_left _ hhigh.le
      _ = 2 ^ (e + (d.log2 + 1)) := (Nat.pow_add ..).symm
  have hlog : n.log2 < e + (d.log2 + 1) := (Nat.pow_lt_pow_iff_right (by omega)).1 hpow
  unfold binaryExponent
  simp only
  split <;> omega

/-- A fraction that is at most an integer. -/
theorem natAbs_num_le {x : Rat} {k : Nat} (hpos : 0 < x.num) (h : x ≤ k) :
    x.num.natAbs ≤ k * x.den := by
  have hden : (0 : Rat) < x.den := by exact_mod_cast x.den_pos
  rw [← Rat.num_div_den x, div_le_iff₀ hden] at h
  have hle : x.num ≤ k * x.den := by exact_mod_cast h
  omega

/-- **Rounding** keeps below small integers. -/
theorem nearest_le {x : Rat} {k : Nat} (hk : k < 2 ^ 51) (h : x ≤ k) : nearest x ≤ k := by
  unfold nearest
  split
  next => exact h
  next =>
    simp only
    generalize hshift : (precision : Int) - 1 - binaryExponent x.num.natAbs x.den = shift
    have hup : 0 < Nat.pow 2 shift.toNat := Nat.pow_pos (by omega)
    rw [Rat.mkRat_eq_div, div_le_iff₀ (by exact_mod_cast hup)]
    rcases Int.lt_or_le 0 x.num with hpos | hneg
    · have hnum := natAbs_num_le hpos h
      have hlt : x.num.natAbs < 2 ^ 51 * x.den :=
        lt_of_le_of_lt hnum (Nat.mul_lt_mul_of_pos_right hk x.den_pos)
      have hexponent := binaryExponent_le (Int.natAbs_pos.2 hpos.ne') hlt
      -- so the number is scaled up, and rounded among more than the integers
      have hdown : (-shift).toNat = 0 := by
        simp only [precision] at hshift
        omega
      have hscaled : x.num.natAbs * Nat.pow 2 shift.toNat ≤ k * Nat.pow 2 shift.toNat * x.den := by
        calc x.num.natAbs * Nat.pow 2 shift.toNat
            ≤ k * x.den * Nat.pow 2 shift.toNat := Nat.mul_le_mul_right _ hnum
          _ = k * Nat.pow 2 shift.toNat * x.den := Nat.mul_right_comm ..
      rw [hdown, Int.sign_eq_one_of_pos hpos, one_mul]
      have hrounded := quotientHalfEven_le x.den_pos hscaled
      simpa using (by exact_mod_cast hrounded :
        ((quotientHalfEven (x.num.natAbs * Nat.pow 2 shift.toNat) x.den : Nat) : Rat) ≤
          k * Nat.pow 2 shift.toNat)
    · have hsign : x.num.sign ≤ 0 := Int.sign_nonpos_iff.2 hneg
      have hvalue : ∀ q : Nat, x.num.sign * (q : Int) ≤ 0 := fun q =>
        mul_nonpos_of_nonpos_of_nonneg hsign (by omega)
      have hbelow := hvalue (quotientHalfEven (x.num.natAbs * Nat.pow 2 shift.toNat)
        (x.den * Nat.pow 2 (-shift).toNat) * Nat.pow 2 (-shift).toNat)
      calc _ ≤ (0 : Rat) := by exact_mod_cast hbelow
        _ ≤ k * Nat.pow 2 shift.toNat := by positivity

/-- A natural number of at most 53 binary digits is its own rounding. -/
theorem nearest_natCast {n : Nat} (h : n ≤ 2 ^ 53) : nearest (n : Rat) = n := by
  rw [← Int.cast_natCast, nearest_intCast]
  rwa [Int.natAbs_natCast]

/-! ## From below -/

/-- A rounded quotient is too small by half of one at most. -/
theorem le_quotientHalfEven {n d : Nat} (hd : 0 < d) :
    2 * n ≤ 2 * (quotientHalfEven n d * d) + d := by
  have hsplit : n = n / d * d + n % d := by rw [Nat.mul_comm, Nat.div_add_mod]
  have hrest := Nat.mod_lt n hd
  unfold quotientHalfEven
  simp only
  generalize n / d = q at hsplit ⊢
  have hnext : (q + 1) * d = q * d + d := Nat.succ_mul q d
  split
  next => omega
  next => split <;> [omega; (split <;> omega)]

/-- The exponent of a quotient is that of a power of two below it. -/
theorem le_of_binaryExponent {n : Nat} (hn : 0 < n) (d : Nat) :
    d * 2 ^ (binaryExponent n d).toNat ≤ n * 2 ^ (-binaryExponent n d).toNat := by
  have hlow : 2 ^ n.log2 ≤ n := Nat.log2_self_le (by omega)
  have hhigh : d < 2 ^ (d.log2 + 1) := Nat.lt_log2_self
  unfold binaryExponent
  simp only
  generalize he : (n.log2 : Int) - d.log2 = e
  split
  next =>
    have hsum : d.log2 + 1 + (e - 1).toNat = n.log2 + (-(e - 1)).toNat := by omega
    calc d * 2 ^ (e - 1).toNat ≤ 2 ^ (d.log2 + 1) * 2 ^ (e - 1).toNat :=
          Nat.mul_le_mul_right _ hhigh.le
      _ = 2 ^ n.log2 * 2 ^ (-(e - 1)).toNat := by rw [← Nat.pow_add, hsum, Nat.pow_add]
      _ ≤ n * 2 ^ (-(e - 1)).toNat := Nat.mul_le_mul_right _ hlow
  next hle => exact Nat.le_of_not_lt hle

/-- The unit of the last digit that is kept of a number is small against the number. -/
theorem unit_le {n : Nat} (hn : 0 < n) (d : Nat) {shift : Int}
    (hshift : (precision : Int) - 1 - binaryExponent n d = shift) :
    2 ^ 52 * (d * 2 ^ (-shift).toNat) ≤ n * 2 ^ shift.toNat := by
  have hle := le_of_binaryExponent hn d
  generalize binaryExponent n d = e at hshift hle
  simp only [precision] at hshift
  have hdown : 52 + (-shift).toNat = e.toNat + (52 - e.toNat) := by omega
  have hup : (-e).toNat + (52 - e.toNat) = shift.toNat := by omega
  calc 2 ^ 52 * (d * 2 ^ (-shift).toNat) = d * 2 ^ (52 + (-shift).toNat) := by
        rw [Nat.pow_add, Nat.mul_left_comm]
    _ = d * 2 ^ e.toNat * 2 ^ (52 - e.toNat) := by rw [hdown, Nat.pow_add, Nat.mul_assoc]
    _ ≤ n * 2 ^ (-e).toNat * 2 ^ (52 - e.toNat) := Nat.mul_le_mul_right _ hle
    _ = n * 2 ^ shift.toNat := by rw [Nat.mul_assoc, ← Nat.pow_add, hup]

/-- **Rounding** takes little away from a number. -/
theorem le_nearest {x : Rat} (h : 0 ≤ x) : x - x / 2 ^ 53 ≤ nearest x := by
  unfold nearest
  split
  next =>
    have hpart : 0 ≤ x / 2 ^ 53 := div_nonneg h (by positivity)
    linarith
  next hbig =>
    have hpos : 0 < x.num := by
      refine lt_of_le_of_ne (Rat.num_nonneg.2 h) fun hzero => hbig ?_
      rw [Rat.num_eq_zero.1 hzero.symm]
      exact ⟨rfl, Nat.zero_le _⟩
    simp only
    generalize hshift : (precision : Int) - 1 - binaryExponent x.num.natAbs x.den = shift
    have hunit := unit_le (Int.natAbs_pos.2 hpos.ne') x.den hshift
    have hdown : 0 < x.den * 2 ^ (-shift).toNat := Nat.mul_pos x.den_pos (Nat.two_pow_pos _)
    have hquotient := le_quotientHalfEven (n := x.num.natAbs * 2 ^ shift.toNat) hdown
    have hup : 0 < 2 ^ shift.toNat := Nat.two_pow_pos _
    simp only [Nat.pow_eq]
    generalize 2 ^ shift.toNat = up at *
    generalize 2 ^ (-shift).toNat = down at *
    generalize quotientHalfEven (x.num.natAbs * up) (x.den * down) = q at *
    -- half a unit is what the quotient can be short of, and a unit is small
    have hshort : 2 ^ 53 * (x.num.natAbs * up) ≤
        2 ^ 53 * (q * (x.den * down)) + x.num.natAbs * up := by omega
    have hnum : (x.num.natAbs : Rat) = x * x.den := by
      calc (x.num.natAbs : Rat) = ((x.num.natAbs : Int) : Rat) := (Int.cast_natCast _).symm
        _ = x.num := by rw [Int.natAbs_of_nonneg hpos.le]
        _ = x * x.den := (Rat.mul_den_eq_num x).symm
    have hcast : (2 : Rat) ^ 53 * (x * x.den * up) ≤
        2 ^ 53 * (q * (x.den * down)) + x * x.den * up := by
      rw [← hnum]
      exact_mod_cast hshort
    have hden : (0 : Rat) < x.den := by exact_mod_cast x.den_pos
    rw [Rat.mkRat_eq_div, Int.sign_eq_one_of_pos hpos, one_mul, le_div_iff₀ (by exact_mod_cast hup)]
    refine le_of_mul_le_mul_left ?_ hden
    push_cast
    linarith

theorem nearest_nonneg {x : Rat} (h : 0 ≤ x) : 0 ≤ nearest x := by
  have hle := le_nearest h
  linarith

end HandsetAudio.Arithmetic
