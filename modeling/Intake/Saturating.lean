/-!
# Arithmetic within bounds

Sums, differences and products of 64-bit integers that stop at the bounds, and differences that
refuse to leave them.

* `toInt_clamp`: the value of a clamped integer.
* `checkedSub`: a difference, if it is a 64-bit integer.
-/

namespace Intake

/-- The least 64-bit integer. -/
abbrev minInt64 : Int := -9223372036854775808

/-- The greatest 64-bit integer. -/
abbrev maxInt64 : Int := 9223372036854775807

/-- The 64-bit integer nearest to `i`. -/
def clamp (i : Int) : Int64 :=
  if i < minInt64 then Int64.minValue
  else if maxInt64 < i then Int64.maxValue
  else Int64.ofInt i

/-- Within the bounds clamping changes nothing. -/
theorem toInt_clamp {i : Int} (hlo : minInt64 ≤ i) (hhi : i ≤ maxInt64) : (clamp i).toInt = i := by
  unfold clamp
  rw [if_neg (Int.not_lt.mpr hlo), if_neg (Int.not_lt.mpr hhi)]
  exact Int64.toInt_ofInt_of_le hlo (Int.lt_add_one_of_le hhi)

/-- The sum, within the bounds. -/
def satAdd (a b : Int64) : Int64 := clamp (a.toInt + b.toInt)

/-- The difference, within the bounds. -/
def satSub (a b : Int64) : Int64 := clamp (a.toInt - b.toInt)

/-- The difference, if it is a 64-bit integer. -/
def checkedSub (a b : Int64) : Option Int64 :=
  let d := a.toInt - b.toInt
  if minInt64 ≤ d ∧ d ≤ maxInt64 then some (Int64.ofInt d) else none

/-- The product, within the bounds. -/
def satMul (a b : Int64) : Int64 := clamp (a.toInt * b.toInt)

end Intake
