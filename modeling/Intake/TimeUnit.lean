import Intake.Value
import Intake.Text.Casing

/-!
# Units of time

Counts of a unit as microseconds, and the unit that a count since 1970 is most likely in.

* `TimeUnit.guess`: up to ten digits are seconds, thirteen milliseconds, sixteen microseconds.
-/

namespace Intake

/-- A unit of time. -/
inductive TimeUnit where
  | nanoseconds | microseconds | milliseconds | seconds | minutes | hours | days
deriving DecidableEq, Repr

namespace TimeUnit

/-- The name of a unit. -/
def name : TimeUnit → String
  | nanoseconds => "Nanoseconds"
  | microseconds => "Microseconds"
  | milliseconds => "Milliseconds"
  | seconds => "Seconds"
  | minutes => "Minutes"
  | hours => "Hours"
  | days => "Days"

/-- The unit of a name or short name, without regard to case and blanks around it; else the name in
the form that was looked for. -/
def ofName (s : String) : Except String TimeUnit :=
  match Text.lower (Text.trim s) with
  | "nanoseconds" | "nanos" | "ns" => .ok nanoseconds
  | "microseconds" | "micros" | "us" => .ok microseconds
  | "milliseconds" | "millis" | "ms" => .ok milliseconds
  | "seconds" | "secs" | "s" => .ok seconds
  | "minutes" | "mins" | "m" => .ok minutes
  | "hours" | "h" => .ok hours
  | "days" | "d" => .ok days
  | other => .error s!"unknown time unit '{other}'"

/-- How many microseconds one unit has, in binary64. -/
def factor : TimeUnit → Float
  | nanoseconds => 0.001
  | microseconds => 1
  | milliseconds => 1000
  | seconds => 1000000
  | minutes => 60000000
  | hours => 3600000000
  | days => 86400000000

/-- A number of units as microseconds, rounded to the nearest, halves away from zero. -/
def toMicros (u : TimeUnit) (x : Float) : Int64 :=
  Value.truncate (x * u.factor).round

/-- A whole number of units as microseconds, within the bounds. Nanoseconds are cut towards zero. -/
def intToMicros (u : TimeUnit) (i : Int64) : Int64 :=
  match u with
  | nanoseconds => Int64.ofInt (i.toInt.tdiv 1000)
  | microseconds => i
  | milliseconds => satMul i 1000
  | seconds => satMul i 1000000
  | minutes => satMul i 60000000
  | hours => satMul i 3600000000
  | days => satMul i 86400000000

/-- The unit of a count since 1970, by its size. -/
def guess (i : Int64) : TimeUnit :=
  let n := i.toInt.natAbs
  if n < 10000000000 then seconds
  else if n < 10000000000000 then milliseconds
  else if n < 10000000000000000 then microseconds
  else nanoseconds

end TimeUnit

end Intake
