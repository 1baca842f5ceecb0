import Intake.Proofs.Days
import Intake.Calendar.Reading

/-!
# Parts of a moment

The parts of a date and time that a text of a moment gives, and the moment that they give.

* `Parts.toLocalMicros_ofMoment`, `Parts.toInstantMicros_ofMoment_zulu`: **all parts of a moment
  give that moment**, without an offset as local time and with the offset of universal time.
* `Parts.Tells`: some parts are those of a moment, and no part contradicts it.
* `Parts.Tells.told`: so it stays when one more part is given.
-/

namespace Intake.Calendar

variable {m : Moment} {p : Parts}

namespace Parts

/-- The parts of a moment. -/
def ofMoment (m : Moment) : Parts where
  year := some m.date.year
  month := some m.date.month
  day := some m.date.day
  halfDay := some (m.hour / 12)
  hourOfHalf := some (m.hour % 12)
  minute := some m.minute
  second := some m.second
  nanosecond := some (m.micro * 1000)

/-- The date of the parts of a moment. -/
theorem toDate_ofMoment (h : m.date.isValid) : (ofMoment m).toDate = .ok m.date := by
  have hnamed : (ofMoment m).named (some m.date.year) none = .ok m.date := if_pos h
  have hagrees : (ofMoment m).agrees m.date := by
    simp [agrees, ofMoment]
  change (do
    let d ← (ofMoment m).named (some m.date.year) none
    if (ofMoment m).agrees d then .ok d else .error .impossible) = _
  rw [hnamed]
  exact if_pos hagrees

theorem toNanos_ofMoment (m : Moment) :
    (ofMoment m).toNanos =
      .ok (((m.hour * 60 + m.minute) * 60 + m.second) * 1000000000 + m.micro * 1000) := by
  have hhour : m.hour / 12 * 12 + m.hour % 12 = m.hour := Int.ediv_mul_add_emod _ _
  change Except.ok ((((m.hour / 12 * 12 + m.hour % 12) * 60 + m.minute) * 60 + m.second) *
    1000000000 + m.micro * 1000) = _
  rw [hhour]

theorem toLocalNanos_ofMoment (h : m.date.isValid) (offset : Int) :
    (ofMoment m).toLocalNanos offset = some (m.toMicros * 1000) := by
  rw [toLocalNanos, toDate_ofMoment h, toNanos_ofMoment]
  refine congrArg some ?_
  unfold Moment.toMicros dayMicros secondMicros
  omega

/-- A moment whose parts have no offset is read as local time. -/
theorem toInstantMicros_ofMoment (m : Moment) : (ofMoment m).toInstantMicros = none := rfl

theorem toLocalMicros_ofMoment (h : m.date.isValid) :
    (ofMoment m).toLocalMicros = some m.toMicros := by
  rw [toLocalMicros, toLocalNanos_ofMoment h, Option.map_some,
    Int.mul_ediv_cancel _ (by decide)]

theorem toInstantMicros_ofMoment_zulu (h : m.date.isValid) (hrange : inRange m.toMicros) :
    ({ ofMoment m with offset := some 0 } : Parts).toInstantMicros = some m.toMicros := by
  have hnanos : ({ ofMoment m with offset := some 0 } : Parts).toLocalNanos 0 =
      some (m.toMicros * 1000) := toLocalNanos_ofMoment h 0
  change (do
    let nanos ← ({ ofMoment m with offset := some 0 } : Parts).toLocalNanos 0
    let micros := nanos / 1000 - 0 * 1000000
    if inRange micros then some micros else none) = _
  rw [hnanos]
  change (if inRange (m.toMicros * 1000 / 1000 - 0 * 1000000) then
    some (m.toMicros * 1000 / 1000 - 0 * 1000000) else none) = _
  rw [Int.mul_ediv_cancel _ (by decide), Int.zero_mul, Int.sub_zero, if_pos hrange]

/-- Each of the parts that a moment has is missing or the moment's. -/
structure Tells (p : Parts) (m : Moment) : Prop where
  year : p.year = none ∨ p.year = some m.date.year
  month : p.month = none ∨ p.month = some m.date.month
  day : p.day = none ∨ p.day = some m.date.day
  halfDay : p.halfDay = none ∨ p.halfDay = some (m.hour / 12)
  hourOfHalf : p.hourOfHalf = none ∨ p.hourOfHalf = some (m.hour % 12)
  minute : p.minute = none ∨ p.minute = some m.minute
  second : p.second = none ∨ p.second = some m.second
  nanosecond : p.nanosecond = none ∨ p.nanosecond = some (m.micro * 1000)

theorem tells_empty (m : Moment) : ({} : Parts).Tells m where
  year := .inl rfl
  month := .inl rfl
  day := .inl rfl
  halfDay := .inl rfl
  hourOfHalf := .inl rfl
  minute := .inl rfl
  second := .inl rfl
  nanosecond := .inl rfl

/-- The parts with one more of a moment's. -/
def told (m : Moment) (p : Parts) : PatternItem → Parts
  | .number .year _ => { p with year := some m.date.year }
  | .number .month _ => { p with month := some m.date.month }
  | .number .day _ => { p with day := some m.date.day }
  | .number .hour _ => { p with halfDay := some (m.hour / 12), hourOfHalf := some (m.hour % 12) }
  | .number .minute _ => { p with minute := some m.minute }
  | .number .second _ => { p with second := some m.second }
  | .fixedFraction _ => { p with nanosecond := some (m.micro * 1000) }
  | _ => p

/-- A part that is missing or the same can be given, within its bounds. -/
theorem give_of_tells {lo hi v : Int} {old : Option Int} (h : old = none ∨ old = some v)
    (hlo : lo ≤ v) (hhi : v ≤ hi) : give lo hi old v = some (some v) := by
  unfold give
  rw [if_neg (by omega)]
  rcases h with rfl | rfl
  · rfl
  · exact if_pos rfl

theorem Tells.told (h : p.Tells m) (item : PatternItem) : (p.told m item).Tells m := by
  unfold Parts.told
  split
  · exact { h with year := .inr rfl }
  · exact { h with month := .inr rfl }
  · exact { h with day := .inr rfl }
  · exact { h with halfDay := .inr rfl, hourOfHalf := .inr rfl }
  · exact { h with minute := .inr rfl }
  · exact { h with second := .inr rfl }
  · exact { h with nanosecond := .inr rfl }
  · exact h

section Setters

variable (h : p.Tells m) (hm : m.IsKept)
include h hm

theorem Tells.setYear : p.setYear m.date.year = some (p.told m (.number .year .zero)) := by
  have hmin : minInt32 ≤ m.date.year := Int.le_trans (by decide) hm.minYear_le
  have hmax : m.date.year ≤ maxInt32 := Int.le_trans hm.le_maxYear (by decide)
  rw [Parts.setYear, give_of_tells h.year hmin hmax]
  rfl

theorem Tells.setMonth : p.setMonth m.date.month = some (p.told m (.number .month .zero)) := by
  have hdate := hm.date
  rw [Parts.setMonth, give_of_tells h.month hdate.month_pos hdate.month_le]
  rfl

theorem Tells.setDay : p.setDay m.date.day = some (p.told m (.number .day .zero)) := by
  have hdate := hm.date
  rw [Parts.setDay, give_of_tells h.day hdate.day_pos hdate.day_le_31]
  rfl

theorem Tells.setHour : p.setHour m.hour = some (p.told m (.number .hour .zero)) := by
  have hbounds := hm.hour
  rw [Parts.setHour, if_neg (by omega), give_of_tells h.halfDay (by omega) (by omega),
    give_of_tells h.hourOfHalf (by omega) (by omega)]
  rfl

theorem Tells.setMinute : p.setMinute m.minute = some (p.told m (.number .minute .zero)) := by
  have hbounds := hm.minute
  rw [Parts.setMinute, give_of_tells h.minute (by omega) (by omega)]
  rfl

theorem Tells.setSecond : p.setSecond m.second = some (p.told m (.number .second .zero)) := by
  have hbounds := hm.second
  rw [Parts.setSecond, give_of_tells h.second (by omega) (by omega)]
  rfl

theorem Tells.setNanosecond :
    p.setNanosecond (m.micro * 1000) = some (p.told m (.fixedFraction 6)) := by
  have hbounds := hm.micro
  rw [Parts.setNanosecond, give_of_tells h.nanosecond (by omega) (by omega)]
  rfl

end Setters

end Parts

end Intake.Calendar
