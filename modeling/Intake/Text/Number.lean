import Intake.Text.Blank
import Intake.Decimal.Binary
import Intake.Saturating

/-!
# Numbers written in text

Integers are an optional sign and digits of ASCII, nothing else, and in range. Real numbers have
an optional fraction and exponent besides, or are one of the words for infinity and for no number,
in any case.
-/

namespace Intake.Text

/-- The whole number that a non-empty run of digits stands for. -/
def natOfDigits? (cs : List Char) : Option Nat :=
  if cs.isEmpty || !cs.all isDigit then none else some (digitsValue cs)

/-- An integer of any size, with an optional sign. -/
def intOfChars? : List Char → Option Int
  | '-' :: cs => (natOfDigits? cs).map fun n => -(n : Int)
  | '+' :: cs => (natOfDigits? cs).map Int.ofNat
  | cs => (natOfDigits? cs).map Int.ofNat

/-- The 64-bit word for an integer in its range. -/
def int64OfInt? (i : Int) : Option Int64 :=
  if minInt64 ≤ i ∧ i ≤ maxInt64 then some (Int64.ofInt i) else none

/-- A signed 64-bit integer. -/
def int64? (s : String) : Option Int64 :=
  (intOfChars? s.toList).bind int64OfInt?

/-- A count that fits 64 bits, with an optional plus sign. -/
def count? (s : String) : Option Nat :=
  let digits := match s.toList with
    | '+' :: cs => cs
    | cs => cs
  (natOfDigits? digits).filter (· < UInt64.size)

/-- Characters without a sign at their start. -/
def withoutSign : List Char → List Char
  | '+' :: rest | '-' :: rest => rest
  | cs => cs

/-- A decimal number without sign: the value is the first component times ten to the second. -/
def unsignedDecimal? (cs : List Char) : Option (Nat × Int) :=
  let whole := cs.takeWhile isDigit
  let rest := cs.dropWhile isDigit
  let (fraction, rest) := match rest with
    | '.' :: more => (more.takeWhile isDigit, more.dropWhile isDigit)
    | rest => ([], rest)
  if whole.isEmpty && fraction.isEmpty then none
  else
    let significand := digitsValue (whole ++ fraction)
    let shift : Int := -(fraction.length : Int)
    match rest with
    | [] => some (significand, shift)
    | c :: more =>
      if c = 'e' || c = 'E' then (intOfChars? more).map fun e => (significand, e + shift) else none

/-- A real number without sign. -/
def unsignedReal? (cs : List Char) : Option Float :=
  let word := String.ofList (cs.map Char.toLower)
  if word = "inf" || word = "infinity" then some (Float.ofBits Decimal.infinityBits)
  else if word = "nan" then some (Float.ofBits Decimal.nanBits)
  else (unsignedDecimal? cs).map fun d => Float.ofBits (Decimal.nearestBits d.1 d.2)

/-- A real number in binary64, the nearest one to the written value. -/
def real? (s : String) : Option Float :=
  match s.toList with
  | '-' :: cs => (unsignedReal? cs).map Float.neg
  | '+' :: cs => unsignedReal? cs
  | cs => unsignedReal? cs

end Intake.Text
