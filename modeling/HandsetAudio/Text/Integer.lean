import HandsetAudio.Text.Blank

/-!
# Decimal integers in text

`digits?` reads a nonempty run of ASCII digits. `int64?` and `word32?` read a
decimal number between blanks, with an optional sign, and refuse one that does not
fit the type; `hex8` writes a word with eight hexadecimal digits.
-/

namespace HandsetAudio.Text

/-- The value of an ASCII digit. -/
def digit? (c : Char) : Option Nat :=
  if '0' ≤ c ∧ c ≤ '9' then some (c.toNat - '0'.toNat) else none

/-- Reads digits into `acc`, most significant first. -/
def digitsFrom? (acc : Nat) : List Char → Option Nat
  | [] => some acc
  | c :: cs => (digit? c).bind fun d => digitsFrom? (10 * acc + d) cs

/-- The number spelled by a nonempty run of ASCII digits. -/
def digits? : List Char → Option Nat
  | [] => none
  | c :: cs => digitsFrom? 0 (c :: cs)

/-- A decimal integer with an optional sign. -/
def signed? : List Char → Option Int
  | '-' :: ds => (digits? ds).map fun n => -(n : Int)
  | '+' :: ds => (digits? ds).map Int.ofNat
  | ds => (digits? ds).map Int.ofNat

/-- A decimal integer with an optional plus sign. -/
def unsigned? : List Char → Option Nat
  | '+' :: ds => digits? ds
  | ds => digits? ds

/-- The signed 64-bit integer that the text spells between blanks. -/
def int64? (s : String) : Option Int :=
  (signed? (trim s.toList)).filter fun z =>
    -0x8000000000000000 ≤ z ∧ z < 0x8000000000000000

/-- The unsigned 32-bit integer that the text spells between blanks. -/
def word32? (s : String) : Option Nat :=
  (unsigned? (trim s.toList)).filter fun n => n < 0x100000000

/-- The hexadecimal digits of `n`, at least `width` of them. -/
def hexDigits (width n : Nat) : List Char :=
  let ds := Nat.toDigits 16 n
  List.replicate (width - ds.length) '0' ++ ds

/-- A word as `0x` and eight hexadecimal digits. -/
def hex8 (n : Nat) : String := "0x" ++ String.ofList (hexDigits 8 n)

end HandsetAudio.Text
