import Intake.Calendar.Reading
import Intake.Failure
import Intake.TimeUnit

/-!
# Time formats

How values become instants and instants become text, from a pattern and a unit that may both be
missing.

* `TimeFormat.parse`: a number counts units; a text is tried against the pattern, then as internet
  date and time, then as a number.
* `TimeFormat.format`: an instant as text. A pattern that cannot be written stops the program.
-/

namespace Intake

/-- How instants are written. -/
structure TimeFormat where
  pattern : Option String := none
  units : Option TimeUnit := none
deriving DecidableEq, Repr

namespace TimeFormat

/-- The instant of a whole number of units, guessed from its size if there are none. -/
def ofInt (f : TimeFormat) (i : Int64) : Instant :=
  ⟨(f.units.getD (TimeUnit.guess i)).intToMicros i⟩

/-- The instant of a number of units. -/
def ofFloat (f : TimeFormat) (x : Float) : Instant :=
  ⟨(f.units.getD (TimeUnit.guess (Value.truncate x))).toMicros x⟩

/-- The instant of microseconds that a calendar gave. -/
def ofCalendar (micros : Int) : Instant :=
  ⟨Int64.ofInt micros⟩

/-- The instant that a text without blanks around it stands for. -/
def parseTrimmed (f : TimeFormat) (s : String) : Except String Instant :=
  match f.pattern.bind (Calendar.readPattern · s) with
  | some micros => .ok (ofCalendar micros)
  | none =>
    match Calendar.readInternet s with
    | some micros => .ok (ofCalendar micros)
    | none =>
      match Text.int64? s with
      | some i => .ok (f.ofInt i)
      | none =>
        match Text.real? s with
        | some x => .ok (f.ofFloat x)
        | none =>
          match f.pattern with
          | some pattern => .error s!"'{s}' does not match timestamp pattern '{pattern}'"
          | none => .error s!"invalid timestamp format: '{s}'"

/-- The instant that a text stands for. -/
def parseText (f : TimeFormat) (s : String) : Except String Instant :=
  f.parseTrimmed (Text.trim s)

/-- The instant that a value stands for. -/
def parse (f : TimeFormat) : Value → Except String Instant
  | .instant t => .ok t
  | .int i => .ok (f.ofInt i)
  | .float x => .ok (f.ofFloat x)
  | .str s => f.parseText s
  | .bytes bs => f.parseText (Text.Utf8.decodeLossy bs)
  | v => .error ("cannot convert '" ++ v.text ++ "' to timestamp")

/-- The instant as text. -/
def format (f : TimeFormat) (t : Instant) : Except Failure String :=
  match f.pattern with
  | some pattern => (t.format pattern).elim (.error (.fault (.unprintable pattern))) .ok
  | none => .ok t.text

end TimeFormat

end Intake
