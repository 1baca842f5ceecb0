import Intake.Calendar.Reading
import Intake.Proofs.Words
import Intake.Text.Number
import Mathlib.Data.List.DropRight
import Mathlib.Tactic.NormNum

/-!
# Runs of digits

* `Text.Spells`: a run of digits stands for a number.
* `Text.spells_toDigits`, `Calendar.spells_padNat`: the digits of a number stand for it, also with
  zeros before them.
* `Text.int64?_toString`: the decimal text of a 64-bit integer is read as that integer.
* `Text.count?_toString`: so is that of a number that fits 64 bits, where a count is read.
* `Text.trim_of_ends`: a text without blanks at its ends is not changed by trimming.
* `Calendar.readDigits_of_spells`, `Calendar.readDigits_run_of_spells`: a run of digits is read as
  the number that it stands for, up to its length or as far as it goes.
-/

namespace Intake

namespace Text

/-- The characters are digits, and together they are the number. -/
structure Spells (cs : List Char) (n : Nat) : Prop where
  isDigit : ∀ c ∈ cs, isDigit c = true
  value : digitsValue cs = n

variable {cs rest : List Char} {n : Nat}

theorem isDigit_of_mem_toDigits {c : Char} (h : c ∈ Nat.toDigits 10 n) : isDigit c = true := by
  have hc : c.isDigit = true := Nat.isDigit_of_mem_toDigits (by decide) (by decide) h
  simpa [isDigit, Char.isDigit, Char.le_def] using hc

/-- The digits of a number stand for it. -/
theorem spells_toDigits (n : Nat) : Spells (Nat.toDigits 10 n) n where
  isDigit := fun _ => isDigit_of_mem_toDigits
  value := Nat.ofDigitChars_ten_toDigits

/-- Zeros before its digits do not change a number. -/
theorem Spells.zeros (h : Spells cs n) (k : Nat) : Spells (List.replicate k '0' ++ cs) n where
  isDigit := by
    intro c hc
    rcases List.mem_append.1 hc with hc | hc
    · rw [List.eq_of_mem_replicate hc]
      decide
    · exact h.isDigit c hc
  value := by
    have hzeros : digitsValue (List.replicate k '0') = 0 :=
      Nat.ofDigitChars_replicate_zero.trans (Nat.mul_zero _)
    unfold digitsValue at hzeros ⊢
    rw [List.foldl_append, hzeros]
    exact h.value

/-- Digits that follow others shift their number. -/
theorem digitsValue_append (cs ds : List Char) :
    digitsValue (cs ++ ds) = 10 ^ ds.length * digitsValue cs + digitsValue ds :=
  (Nat.ofDigitChars_append 0).trans Nat.ofDigitChars_eq_ofDigitChars_zero

/-- A run of digits stands for a number below the power of ten for its length. -/
theorem digitsValue_lt (h : ∀ c ∈ cs, isDigit c = true) : digitsValue cs < 10 ^ cs.length := by
  induction cs with
  | nil => decide
  | cons c cs ih =>
    have hdigit : c.toNat ≤ 57 := by
      have hc := h c List.mem_cons_self
      simp only [isDigit, Bool.and_eq_true, decide_eq_true_eq] at hc
      exact hc.2
    have hfirst : digitsValue [c] ≤ 9 := by
      change 10 * 0 + (c.toNat - 48) ≤ 9
      omega
    have hrest := ih fun d hd => h d (List.mem_cons_of_mem c hd)
    have hle := Nat.mul_le_mul_left (10 ^ cs.length) hfirst
    rw [← List.singleton_append, digitsValue_append, List.length_append, List.length_singleton,
      Nat.pow_add, Nat.pow_one]
    omega

/-- The first digits of a number are those of its quotient by a power of ten. -/
theorem Spells.take (h : Spells cs n) (k : Nat) :
    Spells (cs.take k) (n / 10 ^ (cs.length - k)) where
  isDigit := fun c hc => h.isDigit c (List.mem_of_mem_take hc)
  value := by
    have hsplit := digitsValue_append (cs.take k) (cs.drop k)
    have hlt : digitsValue (cs.drop k) < 10 ^ (cs.length - k) := by
      rw [← List.length_drop]
      exact digitsValue_lt fun c hc => h.isDigit c (List.mem_of_mem_drop hc)
    rw [List.take_append_drop, h.value, List.length_drop] at hsplit
    rw [hsplit, Nat.mul_add_div (Nat.pow_pos (by decide)), Nat.div_eq_of_lt hlt, Nat.add_zero]

theorem isBlank_of_isDigit {c : Char} (h : isDigit c = true) : isBlank c = false := by
  have hbounds : 48 ≤ c.toNat ∧ c.toNat ≤ 57 := by
    simpa [isDigit, Char.le_def, UInt32.le_iff_toNat_le] using h
  simp only [isBlank, Bool.or_eq_false_iff, Bool.and_eq_false_iff, decide_eq_false_iff_not,
    beq_eq_false_iff_ne, ne_eq]
  omega

/-- A run of digits has no blanks before it. -/
theorem Spells.dropWhile_isBlank (h : Spells cs n) (hne : cs ≠ []) (rest : List Char) :
    (cs ++ rest).dropWhile isBlank = cs ++ rest := by
  obtain ⟨c, cs, rfl⟩ := List.exists_cons_of_ne_nil hne
  have hc := isBlank_of_isDigit (h.isDigit c List.mem_cons_self)
  rw [List.cons_append, List.dropWhile_cons, hc]
  rfl

/-- A run of digits stands for its number. -/
theorem natOfDigits?_of_spells (h : Spells cs n) (hne : cs ≠ []) : natOfDigits? cs = some n := by
  unfold natOfDigits?
  rw [List.all_eq_true.2 h.isDigit, h.value, List.isEmpty_eq_false_iff.2 hne]
  rfl

theorem toList_toString_of_nonneg {i : Int} (h : 0 ≤ i) :
    (toString i).toList = Nat.toDigits 10 i.toNat := by
  rw [Int.toString_eq_repr, Int.repr_eq_if, if_pos h, Nat.toList_repr]

theorem toList_toString_of_neg {i : Int} (h : i < 0) :
    (toString i).toList = '-' :: Nat.toDigits 10 (-i).toNat := by
  rw [Int.toString_eq_repr, Int.repr_eq_if, if_neg (by omega), String.toList_append,
    Nat.toList_repr]
  rfl

/-- The decimal text of an integer is read as that integer. -/
theorem intOfChars?_toString (i : Int) : intOfChars? (toString i).toList = some i := by
  have hdigits (n : Nat) : natOfDigits? (Nat.toDigits 10 n) = some n :=
    natOfDigits?_of_spells (spells_toDigits n) Nat.toDigits_ne_nil
  by_cases h : 0 ≤ i
  · rw [toList_toString_of_nonneg h]
    unfold intOfChars?
    split
    -- a sign is no digit
    · next heq => exact absurd (isDigit_of_mem_toDigits (heq ▸ List.mem_cons_self)) (by decide)
    · next heq => exact absurd (isDigit_of_mem_toDigits (heq ▸ List.mem_cons_self)) (by decide)
    · rw [hdigits, Option.map_some]
      exact congrArg some (Int.toNat_of_nonneg h)
  · rw [toList_toString_of_neg (by omega), intOfChars?, hdigits]
    refine congrArg some ?_
    change -((-i).toNat : Int) = i
    omega

/-- A number in plain decimal is counted as that number. -/
theorem count?_toString {n : Nat} (h : n < UInt64.size) : count? (toString n) = some n := by
  have hchars : (toString n).toList = Nat.toDigits 10 n := Nat.toList_repr
  have hdigits := natOfDigits?_of_spells (spells_toDigits n) Nat.toDigits_ne_nil
  unfold count?
  rw [hchars]
  split
  -- a sign is no digit
  · next heq => exact absurd (isDigit_of_mem_toDigits (heq ▸ List.mem_cons_self)) (by decide)
  · simp [hdigits, Option.filter, h]

theorem int64OfInt?_toInt (i : Int64) : int64OfInt? i.toInt = some i :=
  (if_pos (isWord_toInt i)).trans (congrArg some (Int64.ofInt_toInt i))

/-- **The decimal text of a 64-bit integer is read as that integer.** -/
theorem int64?_toString (i : Int64) : int64? (toString i.toInt) = some i := by
  rw [int64?, intOfChars?_toString, Option.bind_some, int64OfInt?_toInt]

/-- A text without blanks at its ends is not changed by trimming. -/
theorem trimChars_of_ends (hne : cs ≠ []) (hfirst : isBlank (cs.head hne) = false)
    (hlast : isBlank (cs.getLast hne) = false) : trimChars cs = cs := by
  have hstart : cs.dropWhile isBlank = cs := by
    rw [List.dropWhile_eq_self_iff]
    intro hpos
    rw [List.getElem_zero, hfirst]
    exact Bool.false_ne_true
  have hend : cs.rdropWhile isBlank = cs := by
    rw [List.rdropWhile_eq_self_iff]
    intro _
    rw [hlast]
    exact Bool.false_ne_true
  unfold trimChars dropEndWhile
  rw [hstart]
  exact hend

theorem trim_of_ends {s : String} (hne : s.toList ≠ [])
    (hfirst : isBlank (s.toList.head hne) = false)
    (hlast : isBlank (s.toList.getLast hne) = false) : trim s = s := by
  rw [trim, trimChars_of_ends hne hfirst hlast, String.ofList_toList]

/-- A text that begins and ends with something that has no blanks is not changed by trimming. -/
theorem trim_of_append {s : String} {as bs cs : List Char} (h : s.toList = as ++ (bs ++ cs))
    (has : as ≠ [] ∧ ∀ c ∈ as, isBlank c = false) (hcs : cs ≠ [] ∧ ∀ c ∈ cs, isBlank c = false) :
    trim s = s := by
  have hne : s.toList ≠ [] := by
    rw [h]
    exact List.append_ne_nil_of_left_ne_nil has.1 _
  refine trim_of_ends hne ?_ ?_
  · simp only [h, List.head_append_of_ne_nil has.1]
    exact has.2 _ (List.head_mem has.1)
  · simp only [h, ← List.append_assoc, List.getLast_append_of_ne_nil _ hcs.1]
    exact hcs.2 _ (List.getLast_mem hcs.1)

end Text

namespace Calendar

open Text (Spells)

variable {cs rest : List Char} {n : Nat}

theorem toList_filled (c : Char) (width : Nat) (text : String) :
    (filled c width text).toList = List.replicate (width - text.length) c ++ text.toList := by
  rw [filled, String.toList_append, String.toList_ofList]

theorem toList_padNat (width n : Nat) :
    (padNat .zero width n).toList =
      List.replicate (width - (toString n).length) '0' ++ Nat.toDigits 10 n := by
  rw [padNat, toList_filled, Nat.toString_eq_repr, Nat.toList_repr]

/-- A number that is filled up with zeros stands for itself. -/
theorem spells_padNat (width n : Nat) : Spells (padNat .zero width n).toList n := by
  rw [toList_padNat]
  exact (Text.spells_toDigits n).zeros _

theorem length_padNat (width n : Nat) :
    (padNat .zero width n).toList.length = max width (Nat.toDigits 10 n).length := by
  have hlength : (toString n).length = (Nat.toDigits 10 n).length := by
    rw [← String.length_toList, Nat.toString_eq_repr, Nat.toList_repr]
  rw [toList_padNat, List.length_append, List.length_replicate, hlength]
  omega

theorem padNat_ne_nil {width n : Nat} (hwidth : 0 < width) :
    (padNat .zero width n).toList ≠ [] := by
  have hlength := length_padNat width n
  exact List.ne_nil_of_length_pos (by omega)

/-- A number below a power of ten has as many digits as its exponent says. -/
theorem length_padNat_of_lt {width : Nat} (hwidth : 0 < width) (h : n < 10 ^ width) :
    (padNat .zero width n).toList.length = width := by
  have hle := (Nat.length_toDigits_le_iff (by decide) hwidth).2 h
  rw [length_padNat]
  omega

/-- A run of digits is read as its number, even if other digits follow. -/
theorem readDigits_of_spells {least most : Nat} (h : Spells cs n) (hlength : cs.length = most)
    (hleast : least ≤ most) (hn : (n : Int) ≤ maxInt64) (rest : List Char) :
    readDigits least (some most) (cs ++ rest) = some ((n : Int), rest) := by
  have hrun : ((cs ++ rest).takeWhile Text.isDigit).take most = cs := by
    rw [List.takeWhile_append_of_pos h.isDigit, ← hlength, List.take_left]
  unfold readDigits
  simp only [hrun, h.value]
  rw [if_neg (by omega), if_neg (by omega), List.drop_left]

/-- A number that is filled up with zeros to its width is read as itself. -/
theorem readDigits_padNat {least width : Nat} {v : Int} (hleast : least ≤ width)
    (hwidth : 0 < width) (hwidth' : width ≤ 18) (hv : 0 ≤ v) (hv' : v < (10 ^ width : Nat))
    (rest : List Char) :
    readDigits least (some width) ((padNat .zero width v.toNat).toList ++ rest) =
      some (v, rest) := by
  have hmax : ((10 ^ width : Nat) : Int) ≤ maxInt64 :=
    Int.le_trans (Int.ofNat_le.2 (Nat.pow_le_pow_right (by decide) hwidth')) (by decide)
  have hlength := length_padNat_of_lt (n := v.toNat) hwidth (by omega)
  have hread := readDigits_of_spells (spells_padNat width v.toNat) hlength hleast (by omega) rest
  rwa [Int.toNat_of_nonneg hv] at hread

/-- A run of digits that ends is read as its number. -/
theorem readDigits_run_of_spells {least : Nat} (h : Spells cs n) (hleast : least ≤ cs.length)
    (hn : (n : Int) ≤ maxInt64) (hrest : rest.takeWhile Text.isDigit = []) :
    readDigits least none (cs ++ rest) = some ((n : Int), rest) := by
  have hrun : (cs ++ rest).takeWhile Text.isDigit = cs := by
    rw [List.takeWhile_append_of_pos h.isDigit, hrest, List.append_nil]
  unfold readDigits
  simp only [hrun, h.value]
  rw [if_neg (by omega), if_neg (by omega), List.drop_left]

end Calendar

end Intake
