import Intake.Decimal.Shortest

/-!
# Layouts of real numbers

Where the point stands among the shortest digits of a number, and when an exponent is written.

* `plainText`: never an exponent, no fraction when the number is whole; a tie between two shortest
  texts goes up.
* `documentText`: always a fraction or an exponent; a signed exponent from 10^16 on and below
  10^-5; a tie goes to the even digit.
-/

namespace Intake.Decimal

/-- Digits as text. -/
def digitText (ds : List Nat) : String :=
  String.ofList (ds.map fun d => Char.ofNat (48 + d))

/-- `n` zeros as text. -/
def zeros (n : Nat) : String :=
  String.ofList (List.replicate n '0')

/-- The sign bit is set. -/
def isNegative (bits : UInt64) : Bool :=
  bits >>> 63 == 1

/-- Digits with the point in its place, whole numbers without one. -/
def Digits.positional (d : Digits) : String :=
  match d.exponent with
  | .ofNat k => digitText d.digits ++ zeros k
  | .negSucc k =>
    let places := k + 1
    let n := d.digits.length
    if places < n then
      digitText (d.digits.take (n - places)) ++ "." ++ digitText (d.digits.drop (n - places))
    else "0." ++ zeros (places - n) ++ digitText d.digits

/-- One digit, the other digits after a point, and the power of ten with its sign. -/
def Digits.scientific (d : Digits) : String :=
  let power : Int := d.exponent + (d.digits.length : Int) - 1
  let rest := d.digits.drop 1
  digitText (d.digits.take 1) ++ (if rest.isEmpty then "" else "." ++ digitText rest) ++
    (if power < 0 then "e-" else "e+") ++ toString power.natAbs

/-- A number as text without an exponent. -/
def plainText (x : Float) : String :=
  let bits := x.toBits
  if x.isNaN then "NaN"
  else
    let sign := if isNegative bits then "-" else ""
    if x.isInf then sign ++ "inf" else sign ++ (shortest .up bits).positional

/-- A finite number as a document writes it. -/
def documentText (x : Float) : String :=
  let bits := x.toBits
  let d := shortest .toEven bits
  let point : Int := d.exponent + (d.digits.length : Int)
  let body :=
    if -5 < point ∧ point ≤ 16 then
      if d.exponent ≥ 0 then d.positional ++ ".0" else d.positional
    else d.scientific
  (if isNegative bits then "-" else "") ++ body

end Intake.Decimal
