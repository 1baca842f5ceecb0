import Mathlib

/-!
# Words as floats

A 64-bit word as a binary64 number is finite: the exponents that it can get when it is rounded stay
far below the greatest one.

* `Binary64.Packs`: a number whose exponent the format has.
* `Binary64.isFinite_pack`: such a number stays finite when it is packed into bits.
* `Binary64.packs_round`: a word that is rounded is such a number.
* `Binary64.isFinite_toFloat`: **a word as a float is finite.**
-/

namespace Intake.Binary64

open Float.Model Float.Model.UnpackedFloat

/-- The number is zero, or its exponent is one that the format has. -/
def Packs : UnpackedFloat → Prop
  | .zero _ => True
  | .finite _ _ e _ => e < 972
  | _ => False

/-- Bits whose exponent is not the one of infinities are a finite number. -/
theorem isFinite_unpack {b : BitVec Format.binary64.numBits}
    (h : unpackExponent b ≠ -BitVec.ofNat Format.binary64.exponentBits 1) :
    (UnpackedFloat.unpack Format.binary64 b).isNaN = false ∧
      (UnpackedFloat.unpack Format.binary64 b).isInf = false := by
  unfold UnpackedFloat.unpack
  simp only
  rw [if_neg h]
  split
  · split <;> exact ⟨rfl, rfl⟩
  · exact ⟨rfl, rfl⟩

/-- **A number with an exponent of the format stays finite when it is packed.** -/
theorem isFinite_pack {u : UnpackedFloat} (h : Packs u) :
    (Float.Model.pack u).isNaN = false ∧ (Float.Model.pack u).isInf = false := by
  have hzero : (0 : BitVec Format.binary64.exponentBits) ≠
      -BitVec.ofNat Format.binary64.exponentBits 1 := by
    decide
  refine isFinite_unpack ?_
  change unpackExponent (UnpackedFloat.pack Format.binary64 u) ≠ _
  cases u with
  | infinity => cases h
  | notANumber => cases h
  | zero s =>
    change unpackExponent (packComponents Format.binary64 s 0 0) ≠ _
    rwa [unpackExponent_packComponents]
  | finite s m e hm =>
    have hexponent : e < 972 := h
    -- the exponent that stands for infinity is the one above all that a finite number can have
    have hpack : UnpackedFloat.pack Format.binary64 (.finite s m e hm) =
        if 2048 ≤ (e + 1023 + 52).toNat + 1 then packedInfinity Format.binary64 s
        else if m.log2 + 1 = 53 then
          packComponents Format.binary64 s (BitVec.ofNat 11 (e + 1023 + 52).toNat) (BitVec.ofNat 52 m)
        else packComponents Format.binary64 s 0#11 (BitVec.ofNat 52 m) := rfl
    rw [hpack, if_neg (by omega)]
    split
    · rw [unpackExponent_packComponents]
      intro heq
      have hsame : (e + 1023 + 52).toNat % 2048 = 2047 := congrArg BitVec.toNat heq
      omega
    · rwa [unpackExponent_packComponents]

theorem log2_le_of_lt {m k : Nat} (h : m < 2 ^ (k + 1)) : m.log2 ≤ k := by
  rcases Nat.eq_zero_or_pos m with rfl | hpos
  · exact Nat.zero_le k
  · exact Nat.le_of_lt_succ ((Nat.log2_lt (Nat.ne_of_gt hpos)).2 h)

theorem mantissa_shiftRight_le (em : ExtendedMantissa) (k : Nat) :
    (em >>> k).mantissa ≤ em.mantissa := by
  induction k with
  | zero => exact Nat.le_refl _
  | succ k ih => exact Nat.le_trans (Nat.div_le_self _ 2) ih

theorem roundedMantissa_le (em : ExtendedMantissa) : em.roundedMantissa ≤ em.mantissa + 1 := by
  obtain ⟨m, round, sticky⟩ := em
  have hparity : m % 2 ≤ 1 := Nat.le_of_lt_succ (Nat.mod_lt m (by decide))
  cases round <;> cases sticky
  · exact Nat.le_succ m
  · exact Nat.le_succ m
  · exact Nat.add_le_add_left hparity m
  · exact Nat.le_refl _

/-- The exponent after a shift is the one before it or the one that was aimed at. -/
theorem exponent_shiftToTargetExponent_le {m : Nat} {e bound : Int} {accuracy : Accuracy}
    (hm : (m.log2 : Int) + e ≤ bound) (he : e ≤ bound) (hbound : 0 ≤ bound) :
    (shiftToTargetExponent Format.binary64 m e accuracy).2 ≤ bound := by
  have hmantissa : (Format.binary64.mantissaBits : Int) = 53 := rfl
  have hleast : Format.binary64.minExponent = -1074 := rfl
  unfold shiftToTargetExponent shiftToExponent totalExponent Format.targetExponent
  simp only [hmantissa, hleast]
  omega

theorem mantissa_shiftToTargetExponent_le (m : Nat) (e : Int) (accuracy : Accuracy) :
    (shiftToTargetExponent Format.binary64 m e accuracy).1.mantissa ≤ m := by
  have hmantissa : (ExtendedMantissa.ofMantissaAndAccuracy m accuracy).mantissa = m := by
    obtain _ | order := accuracy
    · rfl
    · cases order <;> rfl
  exact Nat.le_trans (mantissa_shiftRight_le _ _) (Nat.le_of_eq hmantissa)

/-- A number of not too many bits has an exponent of the format after it is rounded. -/
theorem packs_roundWithAccuracy {s : Sign} {m : Nat} {e : Int} {accuracy : Accuracy}
    (hm : m < 2 ^ 116) (he : e ≤ 0) :
    Packs (roundWithAccuracy Format.binary64 s m e accuracy) := by
  have hlog : m.log2 ≤ 115 := log2_le_of_lt hm
  have hfirst : (shiftToTargetExponent Format.binary64 m e accuracy).2 ≤ 115 :=
    exponent_shiftToTargetExponent_le (by omega) (by omega) (by decide)
  have hmantissa := mantissa_shiftToTargetExponent_le m e accuracy
  unfold roundWithAccuracy
  generalize shiftToTargetExponent Format.binary64 m e accuracy = first at hfirst hmantissa ⊢
  obtain ⟨em, e'⟩ := first
  dsimp only at hfirst hmantissa ⊢
  have hrounded : em.roundedMantissa.log2 ≤ 116 := by
    refine log2_le_of_lt ?_
    have hle := roundedMantissa_le em
    omega
  have hlast : (shiftToTargetExponent Format.binary64 em.roundedMantissa e' .exact).2 ≤ 231 :=
    exponent_shiftToTargetExponent_le (by omega) (by omega) (by decide)
  split
  · trivial
  · exact Int.lt_of_le_of_lt hlast (by decide)

/-- A word that is rounded has an exponent of the format. -/
theorem packs_round {s : Sign} {n : Nat} (hn : n < 2 ^ 64) :
    Packs (UnpackedFloat.round Format.binary64 s n 0) := by
  have hmantissa : (Format.binary64.mantissaBits : Int) = 53 := rfl
  have hleast : Format.binary64.minExponent = -1074 := rfl
  -- the word gets no more than 52 bits on its right
  have hshift : (0 - Format.binary64.targetExponent (totalExponent n 0)).toNat ≤ 52 := by
    unfold totalExponent Format.targetExponent
    rw [hmantissa, hleast]
    omega
  refine packs_roundWithAccuracy ?_ (by omega)
  rw [Nat.shiftLeft_eq]
  calc n * 2 ^ (0 - Format.binary64.targetExponent (totalExponent n 0)).toNat
      ≤ n * 2 ^ 52 := Nat.mul_le_mul_left n (Nat.pow_le_pow_right (by decide) hshift)
    _ < 2 ^ 64 * 2 ^ 52 := Nat.mul_lt_mul_of_pos_right hn (by decide)

/-- **A word as a float is finite.** -/
theorem isFinite_toFloat (n : UInt64) : n.toFloat.isNaN = false ∧ n.toFloat.isInf = false := by
  refine isFinite_pack (u := UnpackedFloat.ofUInt64 Format.binary64 n) ?_
  change Packs (UnpackedFloat.normalize Format.binary64 (n.toNat : Int) 0 .positive)
  unfold UnpackedFloat.normalize
  split
  · next hlt => exact absurd (Int.compare_eq_lt.1 hlt) (by omega)
  · trivial
  · rw [Int.toNat_natCast]
    exact packs_round n.toNat_lt

end Intake.Binary64
