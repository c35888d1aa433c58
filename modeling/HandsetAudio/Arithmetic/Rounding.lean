/-!
# Exact arithmetic, rounded

Every operation is carried out exactly on rational numbers and rounded once.
`quotientHalfEven` rounds a quotient of naturals to the nearest natural, a tie to the
even one. `nearest` rounds to 53 significant binary digits, a tie to the even last
digit: on values whose exponent stays in range this is the rounding of double
precision, and `Rounded` holds the four operations built on it. A number that already
fits is its own rounding (`nearest_intCast`).
-/

namespace HandsetAudio.Arithmetic

/-- `n / d` rounded to the nearest natural, a tie to the even one. -/
def quotientHalfEven (n d : Nat) : Nat :=
  let q := n / d
  let r := n % d
  if 2 * r < d then q
  else if d < 2 * r then q + 1
  else if q % 2 = 0 then q else q + 1

/-- The exponent `e` with `2 ^ e ≤ n / d < 2 ^ (e + 1)`, for positive `n` and `d`. -/
def binaryExponent (n d : Nat) : Int :=
  let e : Int := n.log2 - d.log2
  if n * Nat.pow 2 (-e).toNat < d * Nat.pow 2 e.toNat then e - 1 else e

/-- Significant binary digits of a double. -/
def precision : Nat := 53

/-- `x` rounded to `precision` significant binary digits, a tie to the even digit. -/
def nearest (x : Rat) : Rat :=
  if x.den = 1 ∧ x.num.natAbs ≤ Nat.pow 2 precision then x
  else
    let n := x.num.natAbs
    let shift : Int := precision - 1 - binaryExponent n x.den
    let up := Nat.pow 2 shift.toNat
    let down := Nat.pow 2 (-shift).toNat
    mkRat (x.num.sign * (quotientHalfEven (n * up) (x.den * down) * down : Nat)) up

/-- An integer of at most `precision` binary digits is its own rounding. -/
theorem nearest_intCast (z : Int) (h : z.natAbs ≤ Nat.pow 2 precision) : nearest z = z := by
  rw [nearest, if_pos ⟨Rat.den_intCast z, h⟩]

/-- The integer nearest to `x`, a tie away from zero. -/
def roundAway (x : Rat) : Int :=
  if x < 0 then -(1 / 2 - x).floor else (x + 1 / 2).floor

namespace Rounded

/-- The rounded sum. -/
def add (x y : Rat) : Rat := nearest (x + y)

/-- The rounded difference. -/
def sub (x y : Rat) : Rat := nearest (x - y)

/-- The rounded product. -/
def mul (x y : Rat) : Rat := nearest (x * y)

/-- The rounded quotient. -/
def div (x y : Rat) : Rat := nearest (x / y)

end Rounded

end HandsetAudio.Arithmetic
