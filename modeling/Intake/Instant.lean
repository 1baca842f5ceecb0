import Intake.Calendar.Pattern
import Intake.Saturating

/-!
# Instants

Points in time to the microsecond, counted from the start of 1970 in universal time. Arithmetic on
them stops at the bounds of the count.
-/

namespace Intake

/-- A point in time. -/
structure Instant where
  micros : Int64
deriving DecidableEq, Repr

namespace Instant

/-- The instant so many milliseconds and microseconds after the start of 1970. -/
def ofMillis (millis extra : Int64) : Instant :=
  ⟨satAdd (satMul millis 1000) extra⟩

/-- Whole milliseconds from the start of 1970, towards the past. -/
def millis (t : Instant) : Int64 :=
  Int64.ofInt (t.micros.toInt / 1000)

/-- The instant so many microseconds later. -/
def plus (t : Instant) (micros : Int64) : Instant :=
  ⟨satAdd t.micros micros⟩

/-- The instant so many microseconds earlier. -/
def minus (t : Instant) (micros : Int64) : Instant :=
  ⟨satSub t.micros micros⟩

/-- The date and time, in a year that dates are kept for. -/
def moment? (t : Instant) : Option Calendar.Moment :=
  if Calendar.inRange t.micros.toInt then some (Calendar.Moment.ofMicros t.micros.toInt) else none

/-- The time since an earlier instant, unless it is no 64-bit integer. -/
def since? (t start : Instant) : Option Int64 :=
  checkedSub t.micros start.micros

/-- The instant under a pattern; outside the calendar, the count of microseconds, whatever the
pattern. -/
def format (pattern : String) (t : Instant) : Option String :=
  match t.moment? with
  | some m => m.format pattern
  | none => some (toString t.micros.toInt)

/-- The pattern of an instant that has none of its own. -/
def plainPattern : String := "%Y-%m-%dT%H:%M:%S%.6fZ"

/-- The instant as text. -/
def text (t : Instant) : String :=
  (t.format plainPattern).getD ""

end Instant

end Intake
