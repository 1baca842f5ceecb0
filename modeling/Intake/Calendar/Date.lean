/-!
# Dates

Days of the Gregorian calendar, run backwards without end, and their count from 1 January 1970.
The year is taken to begin in March, so that a leap day ends it, and four hundred years make one
cycle of 146097 days.
-/

namespace Intake.Calendar

/-- A day. -/
structure Date where
  year : Int
  month : Int
  day : Int
deriving DecidableEq, Repr

/-- The year has a leap day. -/
def isLeap (year : Int) : Bool :=
  year % 4 = 0 && (year % 100 ≠ 0 || year % 400 = 0)

/-- The number of days in a month. -/
def daysInMonth (year month : Int) : Int :=
  if month = 2 then (if isLeap year then 29 else 28)
  else if month = 4 ∨ month = 6 ∨ month = 9 ∨ month = 11 then 30
  else 31

/-- The years that dates are kept for. -/
def minYear : Int := -262143

/-- The last year that dates are kept for. -/
def maxYear : Int := 262142

/-- The day exists and its year is kept. -/
def Date.isValid (d : Date) : Bool :=
  minYear ≤ d.year && d.year ≤ maxYear && 1 ≤ d.month && d.month ≤ 12 && 1 ≤ d.day &&
    d.day ≤ daysInMonth d.year d.month

/-- Days from 1 January 1970. -/
def Date.toDays (d : Date) : Int :=
  let y := if d.month ≤ 2 then d.year - 1 else d.year
  let yearOfCycle := y % 400
  let dayOfYear := (153 * ((d.month + 9) % 12) + 2) / 5 + d.day - 1
  let dayOfCycle := yearOfCycle * 365 + yearOfCycle / 4 - yearOfCycle / 100 + dayOfYear
  y / 400 * 146097 + dayOfCycle - 719468

/-- The day that lies so many days after 1 January 1970. -/
def Date.ofDays (days : Int) : Date :=
  let z := days + 719468
  let dayOfCycle := z % 146097
  let yearOfCycle :=
    (dayOfCycle - dayOfCycle / 1460 + dayOfCycle / 36524 - dayOfCycle / 146096) / 365
  let dayOfYear := dayOfCycle - (365 * yearOfCycle + yearOfCycle / 4 - yearOfCycle / 100)
  let monthFromMarch := (5 * dayOfYear + 2) / 153
  let day := dayOfYear - (153 * monthFromMarch + 2) / 5 + 1
  let month := if monthFromMarch < 10 then monthFromMarch + 3 else monthFromMarch - 9
  let year := yearOfCycle + z / 146097 * 400
  ⟨if month ≤ 2 then year + 1 else year, month, day⟩

/-- The number of the day in its year, from one. -/
def Date.ordinal (d : Date) : Int :=
  d.toDays - (Date.mk d.year 1 1).toDays + 1

/-- The day with this number in its year. -/
def Date.ofOrdinal (year ordinal : Int) : Date :=
  Date.ofDays ((Date.mk year 1 1).toDays + ordinal - 1)

/-- The day of the week, from zero for Monday. -/
def Date.weekday (d : Date) : Int :=
  (d.toDays + 3) % 7

/-- The number of the quarter of the year. -/
def Date.quarter (d : Date) : Int :=
  (d.month - 1) / 3 + 1

/-- The number of the week in its year, where weeks begin on a day of the week. Days before the
first such day lie in week zero. -/
def Date.weekFrom (start : Int) (d : Date) : Int :=
  (d.ordinal - (d.weekday - start) % 7 + 6) / 7

/-- The Thursday of a day's week. Weeks begin on Monday and belong to the year of their Thursday. -/
def Date.thursday (d : Date) : Date :=
  Date.ofDays (d.toDays - d.weekday + 3)

/-- The year that a day's week belongs to. -/
def Date.weekYear (d : Date) : Int :=
  d.thursday.year

/-- The number of a day's week in the year that it belongs to. -/
def Date.weekOfYear (d : Date) : Int :=
  (d.thursday.ordinal - 1) / 7 + 1

/-- The day of the week in the week of this number that belongs to the year. The fourth of January
lies in the first one. -/
def Date.ofWeek (year week weekday : Int) : Date :=
  let fourth := Date.mk year 1 4
  Date.ofDays (fourth.toDays - fourth.weekday + (week - 1) * 7 + weekday)

/-- Short names of the days of the week. -/
def weekdayNames : List String :=
  ["Monday", "Tuesday", "Wednesday", "Thursday", "Friday", "Saturday", "Sunday"]

/-- Names of the months. -/
def monthNames : List String :=
  ["January", "February", "March", "April", "May", "June", "July", "August", "September",
    "October", "November", "December"]

/-- Microseconds in a second. -/
def secondMicros : Int := 1000000

/-- Microseconds in a day. -/
def dayMicros : Int := 86400 * secondMicros

/-- A date and a time of day. -/
structure Moment where
  date : Date
  hour : Int
  minute : Int
  second : Int
  micro : Int
deriving DecidableEq, Repr

/-- The moment that lies so many microseconds after the start of 1970. -/
def Moment.ofMicros (micros : Int) : Moment :=
  let rest := micros % dayMicros
  let seconds := rest / secondMicros
  ⟨Date.ofDays (micros / dayMicros), seconds / 3600, seconds / 60 % 60, seconds % 60,
    rest % secondMicros⟩

/-- Microseconds from the start of 1970. -/
def Moment.toMicros (m : Moment) : Int :=
  m.date.toDays * dayMicros + ((m.hour * 60 + m.minute) * 60 + m.second) * secondMicros + m.micro

/-- The microseconds of the first moment that dates are kept for. -/
def minMicros : Int := (Date.mk minYear 1 1).toDays * dayMicros

/-- The microseconds of the first moment after those that dates are kept for. -/
def endMicros : Int := (Date.mk (maxYear + 1) 1 1).toDays * dayMicros

/-- The moment lies in a year that dates are kept for. -/
def inRange (micros : Int) : Bool :=
  minMicros ≤ micros && micros < endMicros

end Intake.Calendar
