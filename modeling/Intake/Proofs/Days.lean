import Intake.Calendar.Date
import Mathlib

/-!
# Days and dates

Years are counted from March to February here, so that a leap day ends its year.

* `firstDay`, `yearOf`: the first day of a year, and the year that a day lies in.
* `day_mem_yearOf`: a day lies between the first days of its year and of the next one.
* `Date.isReal_ofDays`, `Date.toDays_ofDays`, `Date.IsReal.ofDays_toDays`: **each day has one date
  that exists, and each date that exists one day.**
* `Date.IsReal.mem_year`: a date lies between the first of January of its year and of the next one.
* `Moment.isReal_ofMicros`, `Moment.toMicros_ofMicros`: each microsecond has a date and a time of
  day, which count to that microsecond.
* `Moment.inRange_iff`: the microseconds that are kept are those of the years that are.
-/

namespace Intake.Calendar

/-- The first day of a year from March on, counted from the first of March of the year zero. -/
def firstDay (y : Int) : Int :=
  365 * y + y / 4 - y / 100 + y / 400

/-- The year of a cycle that a day of the cycle lies in. -/
def yearOfCycle (d : Int) : Int :=
  (d - d / 1460 + d / 36524 - d / 146096) / 365

/-- The year from March on that a day lies in. -/
def yearOf (z : Int) : Int :=
  yearOfCycle (z % 146097) + z / 146097 * 400

theorem firstDay_succ (y : Int) :
    firstDay (y + 1) = firstDay y + if isLeap (y + 1) then 366 else 365 := by
  simp only [isLeap, Bool.and_eq_true, Bool.or_eq_true, decide_eq_true_eq]
  unfold firstDay
  split <;> omega

theorem firstDay_add_cycles (y k : Int) : firstDay (y + k * 400) = firstDay y + k * 146097 := by
  unfold firstDay
  omega

theorem firstDay_strictMono : StrictMono firstDay := by
  refine strictMono_int_of_lt_succ fun y => ?_
  rw [firstDay_succ]
  split <;> omega

theorem yearOfCycle_mono : Monotone yearOfCycle := by
  refine monotone_int_of_le_succ fun d => ?_
  refine Int.ediv_le_ediv (by decide) ?_
  omega

/-- The first and the last day of each year of a cycle lie in that year. -/
theorem yearOfCycle_firstDay : ∀ y : Fin 400,
    yearOfCycle (firstDay y) = y ∧ yearOfCycle (firstDay (y + 1) - 1) = y := by
  decide +kernel

theorem yearOfCycle_mem {d : Int} (hlo : 0 ≤ d) (hhi : d < 146097) :
    0 ≤ yearOfCycle d ∧ yearOfCycle d ≤ 399 :=
  ⟨yearOfCycle_mono hlo, yearOfCycle_mono (Int.le_sub_one_of_lt hhi)⟩

/-- A day of the cycle lies in its year. -/
theorem day_mem_yearOfCycle {d : Int} (hlo : 0 ≤ d) (hhi : d < 146097) :
    firstDay (yearOfCycle d) ≤ d ∧ d < firstDay (yearOfCycle d + 1) := by
  have hends {y : Int} (hy : 0 ≤ y) (hy' : y < 400) :
      yearOfCycle (firstDay y) = y ∧ yearOfCycle (firstDay (y + 1) - 1) = y := by
    have h := yearOfCycle_firstDay ⟨y.toNat, by omega⟩
    rwa [show ((y.toNat : Nat) : Int) = y from Int.toNat_of_nonneg hy] at h
  obtain ⟨hzero, hlast⟩ := yearOfCycle_mem hlo hhi
  generalize hy : yearOfCycle d = y at hzero hlast ⊢
  constructor
  · by_cases hfirst : y = 0
    · rwa [hfirst]
    · -- the day before the first one of the year lies in the year before
      have hprev := (hends (y := y - 1) (by omega) (by omega)).2
      rw [Int.sub_add_cancel] at hprev
      exact Int.le_of_sub_one_lt (yearOfCycle_mono.reflect_lt (by omega))
  · by_cases hlast' : y = 399
    · rwa [hlast']
    · have hnext := (hends (y := y + 1) (by omega) (by omega)).1
      exact yearOfCycle_mono.reflect_lt (by omega)

/-- **A day lies in its year.** -/
theorem day_mem_yearOf (z : Int) : firstDay (yearOf z) ≤ z ∧ z < firstDay (yearOf z + 1) := by
  have hmem := day_mem_yearOfCycle (Int.emod_nonneg z (b := 146097) (by decide))
    (Int.emod_lt_of_pos z (by decide))
  have hsplit := Int.emod_add_ediv_mul z 146097
  unfold yearOf
  rw [Int.add_right_comm, firstDay_add_cycles, firstDay_add_cycles]
  omega

/-- A day lies in no other year. -/
theorem yearOf_eq {y z : Int} (hlo : firstDay y ≤ z) (hhi : z < firstDay (y + 1)) :
    yearOf z = y := by
  obtain ⟨hstart, hend⟩ := day_mem_yearOf z
  have hle : yearOf z < y + 1 := firstDay_strictMono.lt_iff_lt.1 (Int.lt_of_le_of_lt hstart hhi)
  have hge : y < yearOf z + 1 := firstDay_strictMono.lt_iff_lt.1 (Int.lt_of_le_of_lt hlo hend)
  omega

theorem daysInMonth_le (year month : Int) :
    daysInMonth year month ≤
      if month = 2 then 29
      else if month = 4 ∨ month = 6 ∨ month = 9 ∨ month = 11 then 30 else 31 := by
  unfold daysInMonth
  split
  · split <;> decide
  · exact Int.le_refl _

namespace Date

/-- The month is one of twelve, and the day one of its days. -/
structure IsReal (d : Date) : Prop where
  month_pos : 1 ≤ d.month
  month_le : d.month ≤ 12
  day_pos : 1 ≤ d.day
  day_le_last : d.day ≤ daysInMonth d.year d.month

theorem IsReal.day_le {d : Date} (h : d.IsReal) :
    d.day ≤
      if d.month = 2 then 29
      else if d.month = 4 ∨ d.month = 6 ∨ d.month = 9 ∨ d.month = 11 then 30 else 31 :=
  Int.le_trans h.day_le_last (daysInMonth_le _ _)

theorem IsReal.day_le_31 {d : Date} (h : d.IsReal) : d.day ≤ 31 := by
  have hlast := h.day_le
  split at hlast
  · omega
  · split at hlast <;> omega

/-- The year from March on that a date lies in. -/
def marchYear (d : Date) : Int :=
  if d.month ≤ 2 then d.year - 1 else d.year

/-- The days of a date's year from March on that lie before it. -/
def dayOfYear (d : Date) : Int :=
  (153 * ((d.month + 9) % 12) + 2) / 5 + d.day - 1

theorem toDays_eq (d : Date) : d.toDays = firstDay d.marchYear + d.dayOfYear - 719468 := by
  change d.marchYear / 400 * 146097 + (d.marchYear % 400 * 365 + d.marchYear % 400 / 4 -
    d.marchYear % 400 / 100 + d.dayOfYear) - 719468 = _
  unfold firstDay
  omega

/-- The date of a day of a year from March on, from day zero. -/
def ofDayOfYear (y n : Int) : Date :=
  let monthFromMarch := (5 * n + 2) / 153
  let month := if monthFromMarch < 10 then monthFromMarch + 3 else monthFromMarch - 9
  ⟨if month ≤ 2 then y + 1 else y, month, n - (153 * monthFromMarch + 2) / 5 + 1⟩

/-- A day of a year from March on has a date, which lies in that year and is that day of it. -/
theorem ofDayOfYear_spec {y n : Int} (hlo : 0 ≤ n)
    (hhi : n < if isLeap (y + 1) then 366 else 365) :
    (ofDayOfYear y n).IsReal ∧ (ofDayOfYear y n).marchYear = y ∧
      (ofDayOfYear y n).dayOfYear = n := by
  unfold ofDayOfYear marchYear dayOfYear
  generalize hm : (5 * n + 2) / 153 = m
  by_cases hlt : m < 10
  · -- from March to December
    have hlast : n < 366 := Int.lt_of_lt_of_le hhi (by split <;> decide)
    simp only [if_pos hlt, if_neg (show ¬m + 3 ≤ 2 by omega)]
    refine ⟨⟨?_, ?_, ?_, ?_⟩, trivial, ?_⟩
    · change 1 ≤ m + 3
      omega
    · change m + 3 ≤ 12
      omega
    · change 1 ≤ n - (153 * m + 2) / 5 + 1
      omega
    · change n - (153 * m + 2) / 5 + 1 ≤ daysInMonth y (m + 3)
      rw [daysInMonth, if_neg (by omega)]
      split <;> omega
    · omega
  · -- January and February of the next year
    have hlast : n < 366 := Int.lt_of_lt_of_le hhi (by split <;> decide)
    simp only [if_neg hlt, if_pos (show m - 9 ≤ 2 by omega)]
    refine ⟨⟨?_, ?_, ?_, ?_⟩, Int.add_sub_cancel y 1, ?_⟩
    · change 1 ≤ m - 9
      omega
    · change m - 9 ≤ 12
      omega
    · change 1 ≤ n - (153 * m + 2) / 5 + 1
      omega
    · change n - (153 * m + 2) / 5 + 1 ≤ daysInMonth (y + 1) (m - 9)
      unfold daysInMonth
      split
      · by_cases hleap : isLeap (y + 1)
        · rw [if_pos hleap] at hhi ⊢
          omega
        · rw [if_neg hleap] at hhi ⊢
          omega
      · rw [if_neg (by omega)]
        omega
    · omega

theorem ofDays_eq (days : Int) :
    ofDays days = ofDayOfYear (yearOf (days + 719468))
      (days + 719468 - firstDay (yearOf (days + 719468))) := by
  have hn : ∀ z, z - firstDay (yearOf z) = z % 146097 - (365 * yearOfCycle (z % 146097) +
      yearOfCycle (z % 146097) / 4 - yearOfCycle (z % 146097) / 100) := by
    intro z
    have hmem := yearOfCycle_mem (Int.emod_nonneg z (b := 146097) (by decide))
      (Int.emod_lt_of_pos z (by decide))
    have hsplit := Int.emod_add_ediv_mul z 146097
    rw [yearOf, firstDay_add_cycles, firstDay]
    omega
  rw [hn]
  rfl

/-- The date of a day exists, and it is that day of its year. -/
theorem ofDays_spec (days : Int) :
    (ofDays days).IsReal ∧ (ofDays days).marchYear = yearOf (days + 719468) ∧
      (ofDays days).dayOfYear = days + 719468 - firstDay (yearOf (days + 719468)) := by
  obtain ⟨hlo, hhi⟩ := day_mem_yearOf (days + 719468)
  rw [firstDay_succ] at hhi
  rw [ofDays_eq]
  exact ofDayOfYear_spec (by omega) (by omega)

theorem isReal_ofDays (days : Int) : (ofDays days).IsReal :=
  (ofDays_spec days).1

/-- **The date of a day counts that many days.** -/
theorem toDays_ofDays (days : Int) : (ofDays days).toDays = days := by
  obtain ⟨-, hyear, hday⟩ := ofDays_spec days
  rw [toDays_eq, hyear, hday]
  omega

/-- The month is told by the day of the year from March on. -/
theorem monthFromMarch_eq {month day : Int} (hpos : 1 ≤ month) (hle : month ≤ 12) (hday : 1 ≤ day)
    (hlast : day ≤
      if month = 2 then 29
      else if month = 4 ∨ month = 6 ∨ month = 9 ∨ month = 11 then 30 else 31) :
    (5 * ((153 * ((month + 9) % 12) + 2) / 5 + day - 1) + 2) / 153 = (month + 9) % 12 := by
  interval_cases month <;> norm_num at hlast ⊢ <;> omega

/-- The day of a date is one of its year from March on. -/
theorem IsReal.dayOfYear_mem {d : Date} (h : d.IsReal) :
    0 ≤ d.dayOfYear ∧ d.dayOfYear < if isLeap (d.marchYear + 1) then 366 else 365 := by
  have hlast := h.day_le_31
  obtain ⟨hmonth, hmonth', hday, hday'⟩ := h
  by_cases hfebruary : d.month = 2
  · -- the last month, whose length tells that of the year
    have hyear : d.marchYear + 1 = d.year := by
      rw [marchYear, if_pos (by omega), Int.sub_add_cancel]
    rw [daysInMonth, if_pos hfebruary] at hday'
    rw [hyear, dayOfYear]
    by_cases hleap : isLeap d.year
    · rw [if_pos hleap] at hday' ⊢
      omega
    · rw [if_neg hleap] at hday' ⊢
      omega
  · have hlt : d.dayOfYear < 365 := by
      unfold dayOfYear
      omega
    rw [dayOfYear] at hlt ⊢
    refine ⟨by omega, Int.lt_of_lt_of_le hlt ?_⟩
    split <;> omega

theorem IsReal.mem_marchYear {d : Date} (h : d.IsReal) :
    firstDay d.marchYear ≤ firstDay d.marchYear + d.dayOfYear ∧
      firstDay d.marchYear + d.dayOfYear < firstDay (d.marchYear + 1) := by
  obtain ⟨hlo, hhi⟩ := h.dayOfYear_mem
  rw [firstDay_succ]
  omega

/-- **A date is the date of the days that it counts.** -/
theorem IsReal.ofDays_toDays {d : Date} (h : d.IsReal) : ofDays d.toDays = d := by
  have hdays : d.toDays + 719468 = firstDay d.marchYear + d.dayOfYear := by
    rw [toDays_eq]
    omega
  obtain ⟨hlo, hhi⟩ := h.mem_marchYear
  have hyear : yearOf (firstDay d.marchYear + d.dayOfYear) = d.marchYear := yearOf_eq hlo hhi
  have hday : firstDay d.marchYear + d.dayOfYear - firstDay d.marchYear = d.dayOfYear := by
    omega
  -- months are counted from March on, in which all but the last have their days by one rule
  have hmarch : (5 * d.dayOfYear + 2) / 153 = (d.month + 9) % 12 :=
    monthFromMarch_eq h.month_pos h.month_le h.day_pos h.day_le
  have hmonth : (if (d.month + 9) % 12 < 10 then (d.month + 9) % 12 + 3
      else (d.month + 9) % 12 - 9) = d.month := by
    have hpos := h.month_pos
    have hle := h.month_le
    split <;> omega
  have hyear' : (if d.month ≤ 2 then d.marchYear + 1 else d.marchYear) = d.year := by
    unfold marchYear
    split
    · exact Int.sub_add_cancel _ _
    · rfl
  have hday' : d.dayOfYear - (153 * ((d.month + 9) % 12) + 2) / 5 + 1 = d.day := by
    unfold dayOfYear
    omega
  rw [ofDays_eq, hdays, hyear, hday, ofDayOfYear, hmarch]
  simp only [hmonth, hyear', hday']

/-- The days from 1970 to the first of January of a year. -/
def newYear (year : Int) : Int :=
  (Date.mk year 1 1).toDays

theorem newYear_eq (year : Int) : newYear year = firstDay (year - 1) + 306 - 719468 :=
  toDays_eq _

theorem newYear_strictMono : StrictMono newYear := by
  intro year later h
  have hlt := firstDay_strictMono (Int.sub_lt_sub_right h 1)
  rw [newYear_eq, newYear_eq]
  omega

/-- A date lies between the first of January of its year and that of the next one. -/
theorem IsReal.mem_year {d : Date} (h : d.IsReal) :
    newYear d.year ≤ d.toDays ∧ d.toDays < newYear (d.year + 1) := by
  obtain ⟨-, hend⟩ := h.mem_marchYear
  have hlast := h.day_le_31
  obtain ⟨hmonth, hmonth', hday, -⟩ := h
  rw [newYear_eq, newYear_eq, Int.add_sub_cancel, toDays_eq]
  by_cases hearly : d.month ≤ 2
  · rw [marchYear, if_pos hearly] at hend ⊢
    rw [Int.sub_add_cancel] at hend
    unfold dayOfYear at hend ⊢
    omega
  · have hlong := firstDay_succ (d.year - 1)
    rw [Int.sub_add_cancel] at hlong
    rw [marchYear, if_neg hearly, dayOfYear]
    split at hlong <;> omega

/-- A date lies on or after the first of January of a year if its year does. -/
theorem IsReal.newYear_le_iff {d : Date} (h : d.IsReal) (year : Int) :
    newYear year ≤ d.toDays ↔ year ≤ d.year := by
  obtain ⟨hstart, hend⟩ := h.mem_year
  constructor
  · intro hle
    exact Int.lt_add_one_iff.1 (newYear_strictMono.lt_iff_lt.1 (Int.lt_of_le_of_lt hle hend))
  · intro hle
    exact Int.le_trans (newYear_strictMono.monotone hle) hstart

end Date

namespace Moment

/-- The date exists, and the parts of the time of day are within their bounds. -/
structure IsReal (m : Moment) : Prop where
  date : m.date.IsReal
  hour : 0 ≤ m.hour ∧ m.hour < 24
  minute : 0 ≤ m.minute ∧ m.minute < 60
  second : 0 ≤ m.second ∧ m.second < 60
  micro : 0 ≤ m.micro ∧ m.micro < 1000000

theorem isReal_ofMicros (micros : Int) : (ofMicros micros).IsReal := by
  have hlo := Int.emod_nonneg micros (b := dayMicros) (by decide)
  have hhi := Int.emod_lt_of_pos micros (b := dayMicros) (by decide)
  unfold dayMicros secondMicros at hlo hhi
  unfold ofMicros dayMicros secondMicros
  constructor
  · exact Date.isReal_ofDays _
  all_goals dsimp only; omega

/-- **The date and time of a microsecond count to that microsecond.** -/
theorem toMicros_ofMicros (micros : Int) : (ofMicros micros).toMicros = micros := by
  unfold toMicros ofMicros
  dsimp only
  rw [Date.toDays_ofDays]
  unfold dayMicros secondMicros
  omega

/-- A moment is the one of the microseconds that it counts. -/
theorem IsReal.ofMicros_toMicros {m : Moment} (h : m.IsReal) : ofMicros m.toMicros = m := by
  obtain ⟨hdate, hhour, hminute, hsecond, hmicro⟩ := h
  have hday : m.toMicros / dayMicros = m.date.toDays := by
    unfold toMicros dayMicros secondMicros
    omega
  -- what is left of the day, and of it what is left of the second
  have hrest : m.toMicros % dayMicros =
      ((m.hour * 60 + m.minute) * 60 + m.second) * secondMicros + m.micro := by
    unfold toMicros dayMicros secondMicros
    omega
  have hmicros : m.toMicros % dayMicros % secondMicros = m.micro := by
    rw [hrest]
    unfold secondMicros
    omega
  have hseconds : m.toMicros % dayMicros / secondMicros =
      (m.hour * 60 + m.minute) * 60 + m.second := by
    rw [hrest]
    unfold secondMicros
    omega
  have hhours : ((m.hour * 60 + m.minute) * 60 + m.second) / 3600 = m.hour := by omega
  have hminutes : ((m.hour * 60 + m.minute) * 60 + m.second) / 60 % 60 = m.minute := by omega
  have hlast : ((m.hour * 60 + m.minute) * 60 + m.second) % 60 = m.second := by omega
  unfold ofMicros
  simp only [hday, hseconds, hmicros, hhours, hminutes, hlast, hdate.ofDays_toDays]

/-- **A moment is kept if its year is.** -/
theorem inRange_iff (micros : Int) :
    inRange micros ↔
      minYear ≤ (ofMicros micros).date.year ∧ (ofMicros micros).date.year ≤ maxYear := by
  have hdays : (ofMicros micros).date.toDays = micros / dayMicros := Date.toDays_ofDays _
  have hstart (year : Int) :
      Date.newYear year * dayMicros ≤ micros ↔ year ≤ (ofMicros micros).date.year := by
    rw [← Int.le_ediv_iff_mul_le (by decide), ← hdays]
    exact (Date.isReal_ofDays _).newYear_le_iff year
  simp only [inRange, Bool.and_eq_true, decide_eq_true_eq]
  refine and_congr (hstart minYear) ?_
  calc micros < endMicros
    _ ↔ ¬endMicros ≤ micros := Int.not_le.symm
    _ ↔ ¬maxYear + 1 ≤ (ofMicros micros).date.year := not_congr (hstart (maxYear + 1))
    _ ↔ (ofMicros micros).date.year ≤ maxYear := by omega

/-- The moment is one of the calendar, in a year that dates are kept for. -/
structure IsKept (m : Moment) : Prop extends m.IsReal where
  minYear_le : minYear ≤ m.date.year
  le_maxYear : m.date.year ≤ maxYear

theorem isKept_ofMicros {micros : Int} (h : inRange micros) : (ofMicros micros).IsKept where
  toIsReal := isReal_ofMicros micros
  minYear_le := ((inRange_iff micros).1 h).1
  le_maxYear := ((inRange_iff micros).1 h).2

theorem IsKept.isValid {m : Moment} (h : m.IsKept) : m.date.isValid := by
  simp only [Date.isValid, Bool.and_eq_true, decide_eq_true_eq]
  exact ⟨⟨⟨⟨⟨h.minYear_le, h.le_maxYear⟩, h.date.month_pos⟩, h.date.month_le⟩, h.date.day_pos⟩,
    h.date.day_le_last⟩

end Moment

end Intake.Calendar
