import HandsetAudio.Arithmetic.Rounding

/-!
# Single-precision numbers as text

`Binary32` is the exact value behind the 32 bits of a single-precision number.
`shortest` writes the fewest decimal digits that read back as the same number,
always in positional notation; `fixed` writes a given number of decimal places, a tie
going to the even digit.

Both work on naturals only. A finite number is `mantissa * 2 ^ exponent`, and the
numbers that read back as it form an interval around it, whose ends belong to it
exactly when the mantissa is even.
-/

namespace HandsetAudio.Arithmetic

/-- The value of a single-precision number. -/
inductive Binary32 where
  /-- `mantissa * 2 ^ exponent`, negated if `negative`. -/
  | finite (negative : Bool) (mantissa : Nat) (exponent : Int)
  | infinite (negative : Bool)
  | nan
  deriving DecidableEq, Repr

namespace Binary32

/-- The exponent of the subnormal numbers. -/
def leastExponent : Int := -149

/-- The least mantissa of a normal number. -/
def hiddenBit : Nat := 0x800000

/-- The value with the bit pattern `b`: sign, eight bits of exponent, 23 of fraction. -/
def ofBits (b : UInt32) : Binary32 :=
  let n := b.toNat
  let negative : Bool := 0x80000000 ≤ n
  let biased : Nat := n / hiddenBit % 0x100
  let fraction : Nat := n % hiddenBit
  if biased = 255 then (if fraction = 0 then .infinite negative else .nan)
  else if biased = 0 then .finite negative fraction leastExponent
  else .finite negative (hiddenBit + fraction) (leastExponent + (biased - 1 : Nat))

/-- The value of a floating-point number. -/
def ofFloat (x : Float32) : Binary32 := ofBits x.toBits

/-- The interval of values that read back as `mantissa * 2 ^ exponent`, over the
common denominator `den`. -/
structure Interval where
  /-- Numerator of the lower end. -/
  low : Nat
  /-- Numerator of the number itself. -/
  value : Nat
  /-- Numerator of the upper end. -/
  high : Nat
  /-- The common denominator. -/
  den : Nat
  /-- Whether the two ends belong to the interval. -/
  closed : Bool

/-- The interval of a positive finite number. Below a power of two the numbers lie
twice as dense, so the lower half of the interval is half as long there. -/
def interval (mantissa : Nat) (exponent : Int) : Interval :=
  let up := Nat.pow 2 (exponent - 2).toNat
  let below := if mantissa = hiddenBit ∧ leastExponent < exponent then 1 else 2
  { low := (4 * mantissa - below) * up
    value := 4 * mantissa * up
    high := (4 * mantissa + 2) * up
    den := Nat.pow 2 (2 - exponent).toNat
    closed := mantissa % 2 = 0 }

/-- Whether `n / d` lies in the interval. -/
def Interval.contains (i : Interval) (n d : Nat) : Bool :=
  if i.closed then i.low * d ≤ n * i.den && n * i.den ≤ i.high * d
  else i.low * d < n * i.den && n * i.den < i.high * d

/-- The multiple of `10 ^ k` in the interval that is nearest to its number, as a
multiplier of `10 ^ k`; of two equally near ones the greater. -/
def Interval.gridPoint? (i : Interval) (k : Int) : Option Nat :=
  let up := Nat.pow 10 k.toNat
  let down := Nat.pow 10 (-k).toNat
  let n := i.value * down
  let d := i.den * up
  let q := n / d
  let hit (m : Nat) : Bool := i.contains (m * up) down
  let nearerAbove := d ≤ 2 * (n % d)
  if hit (q + 1) && (nearerAbove || !hit q) then some (q + 1)
  else if hit q then some q
  else none

/-- Searches the grids `10 ^ k`, `10 ^ (k - 1)`, … for the first one with a point in
the interval, and gives the point with the exponent of its grid. -/
def Interval.coarsest (i : Interval) : Nat → Int → Nat × Int
  | 0, k => (0, k)
  | fuel + 1, k =>
    match i.gridPoint? k with
    | some m => (m, k)
    | none => i.coarsest fuel (k - 1)

/-- Decimal digits of the coarsest decimal that reads back as `mantissa * 2 ^ exponent`,
with the power of ten that they count. Every such number has a grid between `10 ^ 39`
and `10 ^ (-50)`, so a hundred grids are enough. -/
def decimal (mantissa : Nat) (exponent : Int) : Nat × Int :=
  (interval mantissa exponent).coarsest 100 39

/-- `m * 10 ^ k` in positional notation. -/
def positional (m : Nat) (k : Int) : String :=
  let ds := Nat.toDigits 10 m
  if 0 ≤ k then String.ofList (ds ++ List.replicate k.toNat '0')
  else
    let places := (-k).toNat
    let padded := List.replicate (places + 1 - ds.length) '0' ++ ds
    let whole := padded.length - places
    String.ofList (padded.take whole ++ '.' :: padded.drop whole)

/-- The sign of a written number. -/
def sign (negative : Bool) : String := if negative then "-" else ""

/-- The number in the fewest digits that read back as it, without an exponent. -/
def shortest : Binary32 → String
  | .nan => "NaN"
  | .infinite negative => sign negative ++ "inf"
  | .finite negative 0 _ => sign negative ++ "0"
  | .finite negative (m + 1) e =>
    let (digits, k) := decimal (m + 1) e
    sign negative ++ positional digits k

/-- The number with exactly `places` decimal places, a tie to the even digit. -/
def fixed (places : Nat) : Binary32 → String
  | .nan => "NaN"
  | .infinite negative => sign negative ++ "inf"
  | .finite negative m e =>
    let digits :=
      quotientHalfEven (m * Nat.pow 10 places * Nat.pow 2 e.toNat) (Nat.pow 2 (-e).toNat)
    sign negative ++ positional digits (-(places : Int))

end Binary32

end HandsetAudio.Arithmetic
