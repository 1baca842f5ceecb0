/-!
# Decimal numbers in binary64

The binary64 number nearest to a decimal one, found in exact arithmetic on natural numbers; of two
equally near ones the even.
-/

namespace Intake.Decimal

/-- The bits of positive infinity. -/
def infinityBits : UInt64 := 0x7FF0000000000000

/-- The bits of a quiet not-a-number. -/
def nanBits : UInt64 := 0x7FF8000000000000

/-- The least significand of 53 bits, whose first bit is not written down: two to the 52. -/
def hiddenBit : Nat := 4503599627370496

/-- The quotient rounded to the nearest natural number, a tie to the even one. -/
def roundDiv (num den : Nat) : Nat :=
  let q := num / den
  let r := num % den
  if 2 * r < den then q
  else if 2 * r = den then q + q % 2
  else q + 1

/-- `n` times two to the `e`, as a fraction with the denominator `d`. -/
def scale (n d : Nat) (e : Int) : Nat × Nat :=
  match e with
  | .ofNat k => (n * Nat.pow 2 k, d)
  | .negSucc k => (n, d * Nat.pow 2 (k + 1))

/-- The bits of the number nearest to the positive fraction `num / den`. -/
def fractionBits (num den : Nat) : UInt64 :=
  -- the fraction lies between 2^(l-1) and 2^(l+1)
  let l : Int := (num.log2 : Int) - den.log2
  let low : Int := max (l - 53) (-1074)
  let (n, d) := scale num den (-low)
  let e := if n / d < 2 * hiddenBit then low else low + 1
  let (n, d) := scale num den (-e)
  let bits := (e + 1074).toNat * hiddenBit + roundDiv n d
  if bits < infinityBits.toNat then UInt64.ofNat bits else infinityBits

/-- The bits of the number nearest to `m` times ten to the `e`. -/
def nearestBits (m : Nat) (e : Int) : UInt64 :=
  -- a power of ten lies between these powers of two
  let least := if e < 0 then 4 * e else 3 * e
  let most := if e < 0 then 3 * e else 4 * e
  if m = 0 then 0
  -- so far out the answer does not depend on the digits
  else if (m.log2 : Int) + least > 2000 then infinityBits
  else if (m.log2 : Int) + 1 + most < -2000 then 0
  else match e with
    | .ofNat k => fractionBits (m * Nat.pow 10 k) 1
    | .negSucc k => fractionBits m (Nat.pow 10 (k + 1))

end Intake.Decimal
