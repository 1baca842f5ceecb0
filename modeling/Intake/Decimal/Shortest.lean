import Intake.Decimal.Binary

/-!
# Shortest digits

The fewest decimal digits that read back as a given binary64 number, and of those the nearest to
it.

A finite positive number is `m` times two to the `q`. The reals that round to it form an interval
around it, closed when `m` is even. For one digit, two digits and so on the two neighbours of the
number on that decimal grid are tested in exact arithmetic; the first grid with a neighbour in the
interval wins. Where the number lies exactly between two neighbours that both read back, a `Tie`
decides.
-/

namespace Intake.Decimal

/-- Which of two equally near grid points is taken. -/
inductive Tie where
  | up
  | toEven
deriving DecidableEq, Repr

/-- With the tie between `below` and its successor, the point below is taken. -/
def Tie.takesBelow : Tie → (below : Nat) → Bool
  | .up, _ => false
  | .toEven, below => below % 2 == 0

/-- A finite number's sign apart: `m` times two to the `q`. -/
structure Dyadic where
  m : Nat
  q : Int
deriving DecidableEq, Repr

/-- The magnitude of a finite number, from its bits. -/
def dyadicOfBits (bits : UInt64) : Dyadic :=
  let exponent := ((bits >>> 52) &&& 0x7FF).toNat
  let fraction := (bits &&& 0xFFFFFFFFFFFFF).toNat
  if exponent = 0 then ⟨fraction, -1074⟩ else ⟨fraction + hiddenBit, (exponent : Int) - 1075⟩

/-- The reals that round to a number: `lo/den` to `hi/den`, the number itself at `mid/den`. -/
structure Interval where
  lo : Nat
  mid : Nat
  hi : Nat
  den : Nat
  closed : Bool
deriving Repr

/-- The interval of a positive number. Below a power of two the gap is half as wide. -/
def Dyadic.interval (x : Dyadic) : Interval :=
  let half := if x.m = hiddenBit ∧ x.q > -1074 then 1 else 2
  let (unit, den) := scale 1 1 (x.q - 2)
  ⟨(4 * x.m - half) * unit, 4 * x.m * unit, (4 * x.m + 2) * unit, den, x.m % 2 = 0⟩

/-- The point `n / d` lies in the interval. -/
def Interval.mem (v : Interval) (n d : Nat) : Bool :=
  if v.closed then v.lo * d ≤ n * v.den && n * v.den ≤ v.hi * d
  else v.lo * d < n * v.den && n * v.den < v.hi * d

/-- Decimal digits, most significant first, and the power of ten of the last one. -/
structure Digits where
  digits : List Nat
  exponent : Int
deriving DecidableEq, Repr

/-- Ten to the `k` as a fraction. -/
def powerOfTen : Int → Nat × Nat
  | .ofNat k => (Nat.pow 10 k, 1)
  | .negSucc k => (1, Nat.pow 10 (k + 1))

/-- The grid point in the interval that is nearest to its middle, on the grid of step ten to the
`k`, as a multiple of the step. -/
def Interval.nearest? (v : Interval) (tie : Tie) (k : Int) : Option Nat :=
  let (sn, sd) := powerOfTen k
  let below := v.mid * sd / (v.den * sn)
  let above := below + 1
  let inBelow := v.mem (below * sn) sd
  let inAbove := v.mem (above * sn) sd
  if inBelow && inAbove then
    -- twice the middle against the sum of the neighbours
    let twice := 2 * v.mid * sd
    let sum := (below + above) * sn * v.den
    some (if twice < sum || (twice == sum && tie.takesBelow below) then below else above)
  else if inBelow then some below
  else if inAbove then some above
  else none

/-- The greatest `e` with ten to the `e` at most the fraction, from an estimate. -/
def decimalExponent (num den : Nat) : Int :=
  let guess : Int := (((num.log2 : Int) - den.log2) * 1233) / 4096
  let reaches (e : Int) : Bool :=
    let (n, d) := powerOfTen e
    n * den ≤ num * d
  if reaches (guess + 2) then guess + 2
  else if reaches (guess + 1) then guess + 1
  else if reaches guess then guess
  else if reaches (guess - 1) then guess - 1
  else guess - 2

/-- Drops trailing zeros, at most `fuel` of them. -/
def dropZeros : (fuel n : Nat) → (e : Int) → Nat × Int
  | 0, n, e => (n, e)
  | fuel + 1, n, e => if n % 10 = 0 then dropZeros fuel (n / 10) (e + 1) else (n, e)

/-- The first grid that holds a point of the interval, from the coarsest. -/
def Interval.search (v : Interval) (tie : Tie) (top : Int) :
    (steps count : Nat) → Option (Nat × Int)
  | 0, _ => none
  | steps + 1, count =>
    let k := top - count
    match v.nearest? tie k with
    | some n => if n = 0 then v.search tie top steps (count + 1) else some (n, k)
    | none => v.search tie top steps (count + 1)

/-- The decimal digits of a natural number, most significant first. -/
def digitsOfNat (n : Nat) : List Nat :=
  (Nat.toDigits 10 n).map fun c => c.toNat - 48

/-- The shortest digits of a finite number; those of zero are a single zero. -/
def shortest (tie : Tie) (bits : UInt64) : Digits :=
  let x := dyadicOfBits bits
  if x.m = 0 then ⟨[0], 0⟩
  else
    let v := x.interval
    let (n, k) := (v.search tie (decimalExponent v.mid v.den) 18 0).getD (v.mid / v.den, 0)
    let (n, k) := dropZeros 400 n k
    ⟨digitsOfNat n, k⟩

end Intake.Decimal
