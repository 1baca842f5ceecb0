import Intake.Saturating

/-!
# Integers of 64 bits

* `IsWord`: the integer is one.
* `toInt_ofInt`, `toInt_satAdd`, `toInt_satSub`, `toInt_satMul`: arithmetic is exact where the
  result is one.
-/

namespace Intake

/-- The integer has 64 bits. -/
def IsWord (i : Int) : Prop :=
  minInt64 ≤ i ∧ i ≤ maxInt64

instance (i : Int) : Decidable (IsWord i) :=
  inferInstanceAs (Decidable (_ ∧ _))

variable {i : Int} {a b : Int64}

theorem isWord_toInt (a : Int64) : IsWord a.toInt :=
  ⟨a.le_toInt, Int.le_of_lt_add_one a.toInt_lt⟩

theorem toInt_ofInt (h : IsWord i) : (Int64.ofInt i).toInt = i :=
  Int64.toInt_ofInt_of_le h.1 (Int.lt_add_one_of_le h.2)

theorem toInt_satAdd (h : IsWord (a.toInt + b.toInt)) : (satAdd a b).toInt = a.toInt + b.toInt :=
  toInt_clamp h.1 h.2

theorem toInt_satSub (h : IsWord (a.toInt - b.toInt)) : (satSub a b).toInt = a.toInt - b.toInt :=
  toInt_clamp h.1 h.2

theorem toInt_satMul (h : IsWord (a.toInt * b.toInt)) : (satMul a b).toInt = a.toInt * b.toInt :=
  toInt_clamp h.1 h.2

end Intake
