import Intake.Calendar.Pattern
import Intake.Saturating

/-!
# Reading times

A text is read along a pattern into separate parts of a date and time, which then have to agree on
one moment.

* A number may have fewer digits than its width and blanks in front; a year may have a sign, and
  then as many digits as it likes.
* A blank of the pattern stands for any number of blanks, also none.
* All of the text has to be used.
-/

namespace Intake.Calendar

/-- The parts of a date and time that a text gave. -/
structure Parts where
  year : Option Int := none
  century : Option Int := none
  yearOfCentury : Option Int := none
  month : Option Int := none
  day : Option Int := none
  ordinal : Option Int := none
  weekday : Option Int := none
  quarter : Option Int := none
  weekFromSunday : Option Int := none
  weekFromMonday : Option Int := none
  weekOfYear : Option Int := none
  weekYear : Option Int := none
  weekYearOfCentury : Option Int := none
  /-- Zero before noon and one after. -/
  halfDay : Option Int := none
  hourOfHalf : Option Int := none
  minute : Option Int := none
  second : Option Int := none
  nanosecond : Option Int := none
  /-- Seconds east of universal time. -/
  offset : Option Int := none
  timestamp : Option Int := none
deriving DecidableEq, Repr

/-- A part given a value within its bounds, which must not contradict an earlier one. -/
def give (lo hi : Int) (old : Option Int) (v : Int) : Option (Option Int) :=
  if v < lo ∨ hi < v then none
  else match old with
    | some w => if w = v then some old else none
    | none => some (some v)

/-- The least 32-bit integer. -/
def minInt32 : Int := -2147483648

/-- The greatest 32-bit integer. -/
def maxInt32 : Int := 2147483647

namespace Parts

def setHour (p : Parts) (v : Int) : Option Parts := do
  if v < 0 ∨ 23 < v then none
  let half ← give 0 1 p.halfDay (v / 12)
  let hour ← give 0 11 p.hourOfHalf (v % 12)
  return { p with halfDay := half, hourOfHalf := hour }

def setHour12 (p : Parts) (v : Int) : Option Parts := do
  if v < 1 ∨ 12 < v then none
  let hour ← give 0 11 p.hourOfHalf (v % 12)
  return { p with hourOfHalf := hour }

def setYear (p : Parts) (v : Int) : Option Parts :=
  (give minInt32 maxInt32 p.year v).map fun x => { p with year := x }

def setOrdinal (p : Parts) (v : Int) : Option Parts :=
  (give 1 366 p.ordinal v).map fun x => { p with ordinal := x }

def setMinute (p : Parts) (v : Int) : Option Parts :=
  (give 0 59 p.minute v).map fun x => { p with minute := x }

def setSecond (p : Parts) (v : Int) : Option Parts :=
  (give 0 60 p.second v).map fun x => { p with second := x }

def setNanosecond (p : Parts) (v : Int) : Option Parts :=
  (give 0 999999999 p.nanosecond v).map fun x => { p with nanosecond := x }

def setMonth (p : Parts) (v : Int) : Option Parts :=
  (give 1 12 p.month v).map fun x => { p with month := x }

def setDay (p : Parts) (v : Int) : Option Parts :=
  (give 1 31 p.day v).map fun x => { p with day := x }

def setWeekday (p : Parts) (v : Int) : Option Parts :=
  (give 0 6 p.weekday v).map fun x => { p with weekday := x }

def setOffset (p : Parts) (v : Int) : Option Parts :=
  (give minInt32 maxInt32 p.offset v).map fun x => { p with offset := x }

/-- Sets a numeric part. -/
def setNumber (p : Parts) (part : NumberPart) (v : Int) : Option Parts :=
  match part with
  | .year => p.setYear v
  | .century => (give 0 maxInt32 p.century v).map fun x => { p with century := x }
  | .yearOfCentury => (give 0 99 p.yearOfCentury v).map fun x => { p with yearOfCentury := x }
  | .month => p.setMonth v
  | .day => p.setDay v
  | .ordinal => p.setOrdinal v
  | .hour => p.setHour v
  | .hour12 => p.setHour12 v
  | .minute => p.setMinute v
  | .second => p.setSecond v
  | .nanosecond => p.setNanosecond v
  | .timestamp => (give minInt64 maxInt64 p.timestamp v).map fun x => { p with timestamp := x }
  | .weekdayFromSunday => if v < 0 ∨ 6 < v then none else p.setWeekday ((v + 6) % 7)
  | .weekdayFromMonday => if v < 1 ∨ 7 < v then none else p.setWeekday (v - 1)
  | .quarter => (give 1 4 p.quarter v).map fun x => { p with quarter := x }
  | .weekFromSunday => (give 0 53 p.weekFromSunday v).map fun x => { p with weekFromSunday := x }
  | .weekFromMonday => (give 0 53 p.weekFromMonday v).map fun x => { p with weekFromMonday := x }
  | .weekOfYear => (give 1 53 p.weekOfYear v).map fun x => { p with weekOfYear := x }
  | .weekYear => (give minInt32 maxInt32 p.weekYear v).map fun x => { p with weekYear := x }
  | .weekYearOfCentury =>
    (give 0 99 p.weekYearOfCentury v).map fun x => { p with weekYearOfCentury := x }

end Parts

/-- The most digits that a number is read from, and whether a sign may stand in front. -/
def numberWidth : NumberPart → Option Nat × Bool
  | .year | .weekYear => (some 4, true)
  | .ordinal => (some 3, false)
  | .nanosecond => (some 9, false)
  | .timestamp => (none, false)
  | .weekdayFromSunday | .weekdayFromMonday | .quarter => (some 1, false)
  | _ => (some 2, false)

/-- A run of at least `least` and at most `most` digits, and what follows it. -/
def readDigits (least : Nat) (most : Option Nat) (cs : List Char) : Option (Int × List Char) :=
  let run := cs.takeWhile Text.isDigit
  let digits := match most with
    | some n => run.take n
    | none => run
  if digits.length < least then none
  else
    let v : Int := Text.digitsValue digits
    if v > maxInt64 then none else some (v, cs.drop digits.length)

/-- A number of a date or time, and what follows it. -/
def readNumber (part : NumberPart) (cs : List Char) : Option (Int × List Char) :=
  let cs := cs.dropWhile Text.isBlank
  let (width, hasSign) := numberWidth part
  match hasSign, cs with
  | true, '-' :: rest => (readDigits 1 none rest).map fun r => (-r.1, r.2)
  | true, '+' :: rest => readDigits 1 none rest
  | _, _ => readDigits 1 width cs

/-- The texts agree but for the case of letters of ASCII, as far as the first one goes. -/
def stripIgnoringCase (lead cs : List Char) : Option (List Char) :=
  if lead.length ≤ cs.length ∧ (cs.take lead.length).map Char.toLower = lead.map Char.toLower then
    some (cs.drop lead.length)
  else none

/-- The place of the name in the list, by its first three letters or, if `long`, by all when more
of them stand there. -/
def readName (names : List String) (long : Bool) (cs : List Char) : Option (Int × List Char) :=
  names.zipIdx.findSome? fun (name, i) =>
    let letters := name.toList
    (stripIgnoringCase (letters.take 3) cs).map fun rest =>
      let rest := if long then (stripIgnoringCase (letters.drop 3) rest).getD rest else rest
      ((i : Int), rest)

/-- Up to nine digits of a second's fraction, in nanoseconds; further digits are passed over. -/
def readFraction (cs : List Char) : Option (Int × List Char) :=
  let run := cs.takeWhile Text.isDigit
  if run.isEmpty then none
  else
    let kept := run.take 9
    some ((Text.digitsValue kept * Nat.pow 10 (9 - kept.length) : Nat), cs.dropWhile Text.isDigit)

/-- Exactly `digits` digits of a second's fraction, in nanoseconds. -/
def readFixedFraction (digits : Nat) (cs : List Char) : Option (Int × List Char) :=
  (readDigits digits (some digits) cs).map fun r => (r.1 * Nat.pow 10 (9 - digits), r.2)

/-- Two digits. -/
def twoDigits? : List Char → Option (Nat × List Char)
  | a :: b :: rest =>
    if Text.isDigit a && Text.isDigit b then
      some (10 * Text.digitValue a + Text.digitValue b, rest)
    else none
  | _ => none

/-- A sign, which may be the one of mathematics, and what follows it. -/
def readSign? : List Char → Option (Bool × List Char)
  | '+' :: rest => some (false, rest)
  | '-' :: rest | '−' :: rest => some (true, rest)
  | _ => none

/-- A sign, hours and minutes, in seconds. `separator` passes over what may stand between them. With
`hoursAlone` the minutes may be missing. -/
def readOffset (hoursAlone : Bool) (separator : List Char → Option (List Char)) (cs : List Char) :
    Option (Int × List Char) := do
  let (negative, cs) ← readSign? cs
  let (hours, cs) ← twoDigits? cs
  let cs ← separator cs
  let (minutes, cs) ← if hoursAlone && cs.isEmpty then some (0, cs) else twoDigits? cs
  if minutes > 59 then none
  let seconds : Int := hours * 3600 + minutes * 60
  return (if negative then -seconds else seconds, cs)

/-- The letter for universal time or an offset, in seconds. -/
def readZuluOffset (hoursAlone : Bool) (separator : List Char → Option (List Char))
    (cs : List Char) : Option (Int × List Char) :=
  match cs with
  | 'Z' :: rest | 'z' :: rest => some (0, rest)
  | cs => readOffset hoursAlone separator cs

/-- Passes over colons and blanks. -/
def skipColons (cs : List Char) : Option (List Char) :=
  some (cs.dropWhile fun c => c == ':' || Text.isBlank c)

/-- Passes over one character. -/
def expect (a : Char) : List Char → Option (List Char)
  | c :: rest => if c = a then some rest else none
  | [] => none

/-- Reads one part of a pattern that consists of no others. -/
def PatternItem.readSimple (p : Parts) (cs : List Char) : PatternItem → Option (Parts × List Char)
  | literal a => (expect a cs).map fun rest => (p, rest)
  | blank _ => some (p, cs.dropWhile Text.isBlank)
  | number part _ => do
    let (v, rest) ← readNumber part cs
    return (← p.setNumber part v, rest)
  | shortMonth => do
    let (i, rest) ← readName monthNames false cs
    return (← p.setMonth (i + 1), rest)
  | longMonth => do
    let (i, rest) ← readName monthNames true cs
    return (← p.setMonth (i + 1), rest)
  | shortWeekday => do
    let (i, rest) ← readName weekdayNames false cs
    return (← p.setWeekday i, rest)
  | longWeekday => do
    let (i, rest) ← readName weekdayNames true cs
    return (← p.setWeekday i, rest)
  | halfDay _ => do
    let (v, rest) ← match stripIgnoringCase ['a', 'm'] cs, stripIgnoringCase ['p', 'm'] cs with
      | some rest, _ => some ((0 : Int), rest)
      | none, some rest => some (1, rest)
      | none, none => none
    let half ← give 0 1 p.halfDay v
    return ({ p with halfDay := half }, rest)
  | fraction =>
    match cs with
    | '.' :: more => do
      let (v, rest) ← readFraction more
      return (← p.setNanosecond v, rest)
    | _ => some (p, cs)
  | fixedFraction digits =>
    match cs with
    | '.' :: more => do
      let (v, rest) ← readFixedFraction digits more
      return (← p.setNanosecond v, rest)
    | _ => some (p, cs)
  | bareFraction digits => do
    let (v, rest) ← readFixedFraction digits cs
    return (← p.setNanosecond v, rest)
  | zoneName => some (p, cs.dropWhile fun c => !Text.isBlank c)
  | offset form => do
    let cs := cs.dropWhile Text.isBlank
    let (v, rest) ←
      if form = .loose then readZuluOffset true skipColons cs else readOffset false skipColons cs
    return (← p.setOffset v, rest)
  | internet | unknown => none

/-- Reads some parts of a pattern that consist of no others. -/
def readSimple (items : List PatternItem) (p : Parts) (cs : List Char) :
    Option (Parts × List Char) :=
  items.foldlM (fun (p, cs) item => item.readSimple p cs) (p, cs)

/-- The parts of a date, with blanks in front of hyphens. -/
def internetDate : List PatternItem :=
  [.number .year .zero, .blank ' ', .literal '-', .number .month .zero, .blank ' ', .literal '-',
    .number .day .zero]

/-- The parts of a time of day, with blanks in front of colons. -/
def internetTime : List PatternItem :=
  [.number .hour .zero, .blank ' ', .literal ':', .number .minute .zero, .blank ' ', .literal ':',
    .number .second .zero, .fraction, .blank ' ']

/-- Reads date, time and offset as on the internet, with more freedom about blanks. Universal time
may have its name. -/
def readRelaxedInternet (p : Parts) (cs : List Char) : Option (Parts × List Char) := do
  let (p, cs) ← readSimple internetDate p cs
  let cs ← match cs with
    | c :: rest => if c = 'T' ∨ c = 't' ∨ c = ' ' then some rest else none
    | [] => none
  let (p, cs) ← readSimple internetTime p cs
  let (v, rest) ←
    match stripIgnoringCase ['u', 't', 'c'] cs with
    | some rest => some (0, rest)
    | none => readZuluOffset false skipColons cs
  return (← p.setOffset v, rest)

/-- Reads one part of a pattern. -/
def PatternItem.read (p : Parts) (cs : List Char) (item : PatternItem) :
    Option (Parts × List Char) :=
  if item = .internet then readRelaxedInternet p cs else item.readSimple p cs

/-- Reads a whole text along the parts of a pattern. -/
def readParts (p : Parts) : List PatternItem → List Char → Option Parts
  | [], [] => some p
  | [], _ :: _ => none
  | item :: items, cs => do
    let (p, rest) ← item.read p cs
    readParts p items rest

/-- Why parts give no date or time. -/
inductive Lack where
  /-- A part is missing. -/
  | missing
  /-- Parts contradict each other or the calendar. -/
  | impossible
deriving DecidableEq, Repr

namespace Parts

/-- A full year: written out, or its century and its place in it, or the place alone, from 1970 to
2069. -/
def fullYear (year century place : Option Int) : Except Lack (Option Int) :=
  match year, century, place with
  | y, none, none => .ok y
  | some y, c, r =>
    if y < 0 then .error .impossible
    else if c.getD (y / 100) = y / 100 ∧ r.getD (y % 100) = y % 100 then .ok (some y)
    else .error .impossible
  | none, some c, some r => .ok (some (c * 100 + r))
  | none, none, some r => .ok (some (r + if r < 70 then 2000 else 1900))
  | none, some _, none => .error .missing

/-- The date agrees with every part that was given. -/
def agrees (p : Parts) (d : Date) : Bool :=
  p.year.all (· = d.year) && p.century.all (fun c => 0 ≤ d.year && c = d.year / 100) &&
    p.yearOfCentury.all (fun r => 0 ≤ d.year && r = d.year % 100) &&
    p.month.all (· = d.month) && p.day.all (· = d.day) && p.ordinal.all (· = d.ordinal) &&
    p.weekday.all (· = d.weekday) && p.quarter.all (· = d.quarter) &&
    p.weekFromSunday.all (· = d.weekFrom 6) && p.weekFromMonday.all (· = d.weekFrom 0) &&
    p.weekOfYear.all (· = d.weekOfYear) && p.weekYear.all (· = d.weekYear) &&
    p.weekYearOfCentury.all (fun r => 0 ≤ d.weekYear && r = d.weekYear % 100)

/-- The date, if its year is kept and the day exists. -/
def existing (d : Date) : Except Lack Date :=
  if d.isValid then .ok d else .error .impossible

/-- The day of this number in a year. -/
def ofOrdinal (year ordinal : Int) : Except Lack Date :=
  if 1 ≤ ordinal ∧ ordinal ≤ (if isLeap year then 366 else 365) then
    existing (Date.ofOrdinal year ordinal)
  else .error .impossible

/-- The day of the week in a week of a year, where weeks begin on the day `start`. -/
def ofWeekFrom (start year week weekday : Int) : Except Lack Date :=
  let first := (start - (Date.mk year 1 1).weekday) % 7 + 1
  ofOrdinal year (first + (week - 1) * 7 + (weekday - start) % 7)

/-- The day of the week in a week that belongs to a year. -/
def ofWeekYear (year week weekday : Int) : Except Lack Date :=
  let d := Date.ofWeek year week weekday
  if d.weekYear = year ∧ d.weekOfYear = week then existing d else .error .impossible

/-- The date that parts name in the first of these ways for which they suffice: by month and day, by
the number of the day, or by a week and a day of the week. -/
def named (p : Parts) (year weekYear : Option Int) : Except Lack Date :=
  match year, p.month, p.day, p.ordinal with
  | some year, some month, some day, _ => existing ⟨year, month, day⟩
  | some year, _, _, some ordinal => ofOrdinal year ordinal
  | year, _, _, _ =>
    match year, p.weekFromSunday, p.weekFromMonday, p.weekday with
    | some year, some week, _, some weekday => ofWeekFrom 6 year week weekday
    | some year, _, some week, some weekday => ofWeekFrom 0 year week weekday
    | _, _, _, weekday =>
      match weekYear, p.weekOfYear, weekday with
      | some year, some week, some weekday => ofWeekYear year week weekday
      | _, _, _ => .error .missing

/-- The date of the parts. -/
def toDate (p : Parts) : Except Lack Date := do
  let year ← fullYear p.year p.century p.yearOfCentury
  let weekYear ← fullYear p.weekYear none p.weekYearOfCentury
  let d ← p.named year weekYear
  if p.agrees d then .ok d else .error .impossible

/-- Nanoseconds since midnight. The second 60 counts as the first of the next minute. -/
def toNanos (p : Parts) : Except Lack Int :=
  match p.halfDay, p.hourOfHalf, p.minute with
  | some half, some hour, some minute =>
    match p.second, p.nanosecond with
    | none, some _ => .error .missing
    | second, nano =>
      .ok ((((half * 12 + hour) * 60 + minute) * 60 + second.getD 0) * 1000000000 + nano.getD 0)
  | _, _, _ => .error .missing

/-- The local time of the parts, in nanoseconds from the start of 1970 without regard to any
offset. With a count of seconds the missing parts are taken from it, at the given offset. -/
def toLocalNanos (p : Parts) (offset : Int) : Option Int :=
  match p.toDate, p.toNanos with
  | .ok d, .ok n =>
    let seconds := d.toDays * 86400 + n / 1000000000
    -- the second 60 belongs to the minute before
    let leap := p.second == some 60
    match p.timestamp with
    | some given =>
      let here := if leap then seconds - 1 - offset else seconds - offset
      if given = here ∨ (leap ∧ given = here + 1) then some (d.toDays * 86400000000000 + n)
      else none
    | none => some (d.toDays * 86400000000000 + n)
  | date, time =>
    match p.timestamp with
    | none => none
    | some timestamp =>
      if date matches .error .impossible || time matches .error .impossible then none
      else
        let seconds := timestamp + offset
        if !inRange (seconds * 1000000) then none
        else do
          let m := Moment.ofMicros (seconds * 1000000)
          let (p, m) ←
            if p.second = some 60 then
              if m.second = 59 then some (p, m)
              else if m.second = 0 then some (p, Moment.ofMicros ((seconds - 1) * 1000000))
              else none
            else (p.setSecond m.second).map fun p => (p, m)
          let p ← p.setYear m.date.year
          let p ← p.setOrdinal m.date.ordinal
          let p ← p.setHour m.hour
          let p ← p.setMinute m.minute
          match p.toDate, p.toNanos with
          | .ok d, .ok n => some (d.toDays * 86400000000000 + n)
          | _, _ => none

/-- The instant of parts with an offset, in microseconds from the start of 1970. A count of seconds
needs no offset. -/
def toInstantMicros (p : Parts) : Option Int := do
  let offset ← match p.offset, p.timestamp with
    | some offset, _ => some offset
    | none, some _ => some 0
    | none, none => none
  let nanos ← p.toLocalNanos offset
  if offset ≤ -86400 ∨ 86400 ≤ offset then none
  let micros := nanos / 1000 - offset * 1000000
  if inRange micros then some micros else none

/-- The local time of the parts read as universal time, in microseconds. -/
def toLocalMicros (p : Parts) : Option Int :=
  (p.toLocalNanos 0).map (· / 1000)

/-- The first microsecond of the date of the parts. -/
def toDateMicros (p : Parts) : Option Int :=
  match p.toDate with
  | .ok d => some (d.toDays * dayMicros)
  | .error _ => none

end Parts

/-- Reads a text along a pattern, in microseconds from the start of 1970: an instant if there is an
offset, else a date and time, else a date, both in universal time. -/
def readPattern (pattern text : String) : Option Int :=
  (readParts {} (patternItems pattern.toList) text.toList).bind fun p =>
    p.toInstantMicros <|> p.toLocalMicros <|> p.toDateMicros

/-- Reads the profile of ISO 8601 for the internet: date, `T` or a space, time with seconds, and
`Z` or an offset with a colon. -/
def readInternet (text : String) : Option Int := do
  let number (width : Nat) (cs : List Char) := readDigits width (some width) cs
  let (year, cs) ← number 4 text.toList
  let p ← ({} : Parts).setYear year
  let (month, cs) ← number 2 (← expect '-' cs)
  let p ← p.setMonth month
  let (day, cs) ← number 2 (← expect '-' cs)
  let p ← p.setDay day
  let cs ← match cs with
    | c :: rest => if c = 'T' ∨ c = 't' ∨ c = ' ' then some rest else none
    | [] => none
  let (hour, cs) ← number 2 cs
  let p ← p.setHour hour
  let (minute, cs) ← number 2 (← expect ':' cs)
  let p ← p.setMinute minute
  let (second, cs) ← number 2 (← expect ':' cs)
  let p ← p.setSecond second
  let (p, cs) ← match cs with
    | '.' :: more =>
      (readFraction more).bind fun (v, rest) => (p.setNanosecond v).map fun p => (p, rest)
    | cs => some (p, cs)
  let (offset, cs) ← readZuluOffset false (expect ':') cs
  if offset.natAbs > (23 * 60 + 59) * 60 then none
  let p ← p.setOffset offset
  if cs.isEmpty then p.toInstantMicros else none

end Intake.Calendar
