import Intake.Proofs.Digits
import Intake.TimeFormat

/-!
# Counts since 1970

A count of units since the start of 1970 is an instant, and so is its decimal text. If no unit is
given, the number of digits tells it.

* `Calendar.readInternet_toString`: the decimal text of an integer is no date.
* `TimeFormat.parse_toString`: the decimal text of a count is read as the count is.
* `TimeUnit.guess_of_nonneg`: the unit that the number of digits tells.
* `denotes_of_guess`: the instant of a count whose unit is guessed.
* `same_instant_in_all_units`: **an instant between 2001 and 2262 is the same in seconds,
  milliseconds, microseconds and nanoseconds**, up to the resolution of each.
-/

namespace Intake

namespace Calendar

theorem expect_eq_none {a : Char} {cs : List Char} (h : a ∉ cs) : expect a cs = none := by
  cases cs with
  | nil => rfl
  | cons c rest =>
    have hne : c ≠ a := fun heq => h (heq ▸ List.mem_cons_self)
    exact if_neg hne

/-- A run of digits leaves a part of the text. -/
theorem subset_of_readDigits {least : Nat} {most : Option Nat} {cs rest : List Char} {v : Int}
    (h : readDigits least most cs = some (v, rest)) : rest ⊆ cs := by
  simp only [readDigits, Option.ite_none_left_eq_some, Option.some.injEq, Prod.mk.injEq] at h
  obtain ⟨-, -, -, rfl⟩ := h
  exact List.drop_subset _ _

/-- A text without a hyphen is no date. -/
theorem readInternet_of_not_mem {text : String} (h : '-' ∉ text.toList) :
    readInternet text = none := by
  unfold readInternet
  refine Option.bind_eq_none_iff.2 ?_
  rintro ⟨year, cs⟩ hyear
  refine Option.bind_eq_none_iff.2 fun p _ => ?_
  rw [expect_eq_none fun hmem => h (subset_of_readDigits hyear hmem)]
  rfl

/-- A text that does not start with a digit is no date. -/
theorem readInternet_of_takeWhile {text : String} (h : text.toList.takeWhile Text.isDigit = []) :
    readInternet text = none := by
  have hyear : readDigits 4 (some 4) text.toList = none := by
    unfold readDigits
    rw [h]
    rfl
  change (readDigits 4 (some 4) text.toList).bind _ = none
  rw [hyear, Option.bind_none]

/-- The decimal text of an integer is no date: the sign is not followed by four digits, nor are any
four digits by a sign. -/
theorem readInternet_toString (i : Int) : readInternet (toString i) = none := by
  by_cases h : 0 ≤ i
  · refine readInternet_of_not_mem ?_
    rw [Text.toList_toString_of_nonneg h]
    intro hmem
    exact absurd (Text.isDigit_of_mem_toDigits hmem) (by decide)
  · refine readInternet_of_takeWhile ?_
    rw [Text.toList_toString_of_neg (by omega)]
    rfl

end Calendar

namespace Text

theorem isBlank_of_isDigit_or_hyphen {c : Char} (h : isDigit c = true ∨ c = '-') :
    isBlank c = false := by
  rcases h with h | rfl
  · exact isBlank_of_isDigit h
  · decide

/-- The decimal text of an integer is made of digits and a sign. -/
theorem isDigit_or_hyphen_of_mem_toString {i : Int} {c : Char} (h : c ∈ (toString i).toList) :
    isDigit c = true ∨ c = '-' := by
  by_cases hi : 0 ≤ i
  · rw [toList_toString_of_nonneg hi] at h
    exact .inl (isDigit_of_mem_toDigits h)
  · rw [toList_toString_of_neg (by omega)] at h
    rcases List.mem_cons.1 h with rfl | h
    · exact .inr rfl
    · exact .inl (isDigit_of_mem_toDigits h)

/-- There are no blanks in the decimal text of an integer. -/
theorem trim_toString (i : Int) : trim (toString i) = toString i := by
  have hne : (toString i).toList ≠ [] := by
    by_cases h : 0 ≤ i
    · rw [toList_toString_of_nonneg h]
      exact Nat.toDigits_ne_nil
    · rw [toList_toString_of_neg (by omega)]
      exact List.cons_ne_nil _ _
  have hblank : ∀ c ∈ (toString i).toList, isBlank c = false := fun c hc =>
    isBlank_of_isDigit_or_hyphen (isDigit_or_hyphen_of_mem_toString hc)
  exact trim_of_ends hne (hblank _ (List.head_mem hne)) (hblank _ (List.getLast_mem hne))

end Text

/-- **The decimal text of a count is read as the count is**, if there is no pattern. -/
theorem TimeFormat.parse_toString {f : TimeFormat} (h : f.pattern = none) (i : Int64) :
    f.parse (.str (toString i.toInt)) = f.parse (.int i) := by
  change f.parseTrimmed (Text.trim (toString i.toInt)) = .ok (f.ofInt i)
  rw [Text.trim_toString, parseTrimmed, h]
  simp only [Option.bind_none, Calendar.readInternet_toString, Text.int64?_toString]

/-- The unit of a count after 1970, by the number of its digits. -/
theorem TimeUnit.guess_of_nonneg {i : Int64} (h : 0 ≤ i.toInt) :
    guess i =
      if i.toInt < 10 ^ 10 then seconds
      else if i.toInt < 10 ^ 13 then milliseconds
      else if i.toInt < 10 ^ 16 then microseconds
      else nanoseconds := by
  have habs : (i.toInt.natAbs : Int) = i.toInt := Int.natAbs_of_nonneg h
  unfold guess
  rw [← habs]
  norm_cast

/-- Without a pattern and a unit, a count and its decimal text are read as the instant so many
microseconds after the start of 1970. -/
def Denotes (count micros : Int) : Prop :=
  ∃ i : Int64, ∃ t : Instant, i.toInt = count ∧ t.micros.toInt = micros ∧
    TimeFormat.parse {} (.int i) = .ok t ∧ TimeFormat.parse {} (.str (toString count)) = .ok t

/-- **The instant of a count whose unit is guessed.** -/
theorem denotes_of_guess {i : Int64} {count micros : Int} {unit : TimeUnit} (hcount : i.toInt = count)
    (hguess : TimeUnit.guess i = unit) (hmicros : (unit.intToMicros i).toInt = micros) :
    Denotes count micros := by
  have hparse : TimeFormat.parse {} (.int i) = .ok ⟨unit.intToMicros i⟩ := by
    subst hguess
    rfl
  refine ⟨i, ⟨unit.intToMicros i⟩, hcount, hmicros, hparse, ?_⟩
  rw [← hcount, TimeFormat.parse_toString rfl, hparse]

/-- The instant of a count of a unit that is longer than a microsecond. -/
theorem denotes_of_factor {i factor : Int64} {count scale : Int} {unit : TimeUnit}
    (hcount : i.toInt = count) (hguess : TimeUnit.guess i = unit)
    (hunit : unit.intToMicros i = satMul i factor) (hfactor : factor.toInt = scale)
    (hword : IsWord (scale * count)) : Denotes count (scale * count) := by
  refine denotes_of_guess hcount hguess ?_
  subst hcount hfactor
  rw [Int.mul_comm] at hword ⊢
  rw [hunit, toInt_satMul hword]

/-- **An instant is the same in all units**, up to the resolution of each. From 9 September 2001,
when seconds since 1970 got ten digits, until nanoseconds no longer fit 64 bits, in 2262, take an
instant as whole seconds, milliseconds, microseconds or nanoseconds. Without a pattern and a unit the
count and its decimal text are both read as the same instant again, less what the unit does not
count. -/
theorem same_instant_in_all_units {t : Int} (hlo : 10 ^ 15 ≤ t) (hhi : 1000 * t ≤ maxInt64) :
    Denotes (t / 10 ^ 6) (10 ^ 6 * (t / 10 ^ 6)) ∧ Denotes (t / 10 ^ 3) (10 ^ 3 * (t / 10 ^ 3)) ∧
      Denotes t t ∧ Denotes (1000 * t) t := by
  have hword {count : Int} (hpos : 0 ≤ count) (hle : count ≤ 1000 * t) : IsWord count :=
    ⟨Int.le_trans (by decide) hpos, Int.le_trans hle hhi⟩
  have hmax : maxInt64 = 9223372036854775807 := rfl
  refine ⟨?_, ?_, ?_, ?_⟩
  · -- ten digits
    have hcount : (Int64.ofInt (t / 10 ^ 6)).toInt = t / 10 ^ 6 :=
      toInt_ofInt (hword (by omega) (by omega))
    have hguess : TimeUnit.guess (Int64.ofInt (t / 10 ^ 6)) = .seconds := by
      rw [TimeUnit.guess_of_nonneg (by omega), hcount, if_pos (by omega)]
    have hfactor : (1000000 : Int64).toInt = 10 ^ 6 := by decide
    exact denotes_of_factor hcount hguess rfl hfactor (hword (by omega) (by omega))
  · -- thirteen digits
    have hcount : (Int64.ofInt (t / 10 ^ 3)).toInt = t / 10 ^ 3 :=
      toInt_ofInt (hword (by omega) (by omega))
    have hguess : TimeUnit.guess (Int64.ofInt (t / 10 ^ 3)) = .milliseconds := by
      rw [TimeUnit.guess_of_nonneg (by omega), hcount, if_neg (by omega), if_pos (by omega)]
    have hfactor : (1000 : Int64).toInt = 10 ^ 3 := by decide
    exact denotes_of_factor hcount hguess rfl hfactor (hword (by omega) (by omega))
  · -- sixteen digits
    have hcount : (Int64.ofInt t).toInt = t := toInt_ofInt (hword (by omega) (by omega))
    have hguess : TimeUnit.guess (Int64.ofInt t) = .microseconds := by
      rw [TimeUnit.guess_of_nonneg (by omega), hcount, if_neg (by omega), if_neg (by omega),
        if_pos (by omega)]
    exact denotes_of_guess hcount hguess hcount
  · -- nineteen digits
    have hcount : (Int64.ofInt (1000 * t)).toInt = 1000 * t :=
      toInt_ofInt (hword (by omega) (by omega))
    have hguess : TimeUnit.guess (Int64.ofInt (1000 * t)) = .nanoseconds := by
      rw [TimeUnit.guess_of_nonneg (by omega), hcount, if_neg (by omega), if_neg (by omega),
        if_neg (by omega)]
    refine denotes_of_guess hcount hguess ?_
    have hmicros : (1000 * t).tdiv 1000 = t := Int.mul_tdiv_cancel_left t (by decide)
    rw [TimeUnit.intToMicros, hcount, hmicros]
    exact toInt_ofInt (hword (by omega) (by omega))

/-- The start of 2024 in all units. -/
theorem new_year_in_all_units :
    (10 : Int) ^ 15 ≤ 1704067200123456 ∧ 1000 * 1704067200123456 ≤ maxInt64 ∧
      Denotes 1704067200 1704067200000000 ∧ Denotes 1704067200123 1704067200123000 ∧
      Denotes 1704067200123456 1704067200123456 ∧ Denotes 1704067200123456000 1704067200123456 :=
  have hlo : (10 : Int) ^ 15 ≤ 1704067200123456 := by decide
  have hhi : (1000 : Int) * 1704067200123456 ≤ maxInt64 := by decide
  ⟨hlo, hhi, same_instant_in_all_units hlo hhi⟩

end Intake
