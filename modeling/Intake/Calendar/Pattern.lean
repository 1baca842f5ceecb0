import Intake.Calendar.Date
import Intake.Text.Blank

/-!
# Time patterns

A pattern is literal text with directives, each a percent sign and a letter. This module holds the
directives and how they are written out for a moment in universal time.
-/

namespace Intake.Calendar

/-- How a number is filled up to its width. -/
inductive Padding where
  | none
  | zero
  | space
deriving DecidableEq, Repr

/-- A numeric part of a date or time. -/
inductive NumberPart where
  | year | century | yearOfCentury | month | day | ordinal | hour | hour12 | minute | second
  | nanosecond | timestamp | weekdayFromSunday | weekdayFromMonday | quarter
  /-- Weeks whose first day is a Sunday or a Monday, counted from the first such day of a year. -/
  | weekFromSunday | weekFromMonday
  /-- Weeks from Monday that belong to the year of their Thursday, and that year. -/
  | weekOfYear | weekYear | weekYearOfCentury
deriving DecidableEq, Repr

/-- How a distance from universal time is written. -/
inductive OffsetForm where
  /-- Hours and minutes. -/
  | plain
  /-- Hours and minutes with a colon. -/
  | colon
  /-- Hours, minutes and seconds with colons. -/
  | seconds
  /-- Hours alone. -/
  | hours
  /-- Any of them, or the letter for universal time; only for reading. -/
  | loose
deriving DecidableEq, Repr

/-- One part of a pattern. -/
inductive PatternItem where
  | literal (c : Char)
  | blank (c : Char)
  | number (part : NumberPart) (padding : Padding)
  | shortMonth | longMonth | shortWeekday | longWeekday
  | halfDay (isLower : Bool)
  /-- A point and up to nine digits. -/
  | fraction
  /-- A point and `digits` digits. -/
  | fixedFraction (digits : Nat)
  /-- `digits` digits without a point. -/
  | bareFraction (digits : Nat)
  | zoneName
  | offset (form : OffsetForm)
  /-- Date, time and offset in the profile of ISO 8601 for the internet. -/
  | internet
  /-- A directive that does not exist. -/
  | unknown
deriving DecidableEq, Repr

namespace PatternItem

/-- Number directives with their usual padding. -/
def number? : Char → Option (NumberPart × Padding)
  | 'Y' => some (.year, .zero)
  | 'C' => some (.century, .zero)
  | 'y' => some (.yearOfCentury, .zero)
  | 'm' => some (.month, .zero)
  | 'd' => some (.day, .zero)
  | 'e' => some (.day, .space)
  | 'j' => some (.ordinal, .zero)
  | 'H' => some (.hour, .zero)
  | 'k' => some (.hour, .space)
  | 'I' => some (.hour12, .zero)
  | 'l' => some (.hour12, .space)
  | 'M' => some (.minute, .zero)
  | 'S' => some (.second, .zero)
  | 'f' => some (.nanosecond, .zero)
  | 's' => some (.timestamp, .none)
  | 'w' => some (.weekdayFromSunday, .zero)
  | 'u' => some (.weekdayFromMonday, .zero)
  | 'q' => some (.quarter, .none)
  | 'U' => some (.weekFromSunday, .zero)
  | 'W' => some (.weekFromMonday, .zero)
  | 'V' => some (.weekOfYear, .zero)
  | 'G' => some (.weekYear, .zero)
  | 'g' => some (.weekYearOfCentury, .zero)
  | _ => none

/-- A number with the padding that stands between the percent sign and the letter. -/
def padded (padding : Padding) (c : Char) : PatternItem :=
  match number? c with
  | some (part, _) => number part padding
  | none => unknown

/-- Directives that stand for several others. -/
def composite? : Char → Option (List PatternItem)
  | 'F' => some [number .year .zero, literal '-', number .month .zero, literal '-',
      number .day .zero]
  | 'T' | 'X' =>
    some [number .hour .zero, literal ':', number .minute .zero, literal ':', number .second .zero]
  | 'R' => some [number .hour .zero, literal ':', number .minute .zero]
  | 'D' | 'x' =>
    some [number .month .zero, literal '/', number .day .zero, literal '/',
      number .yearOfCentury .zero]
  | 'v' => some [number .day .space, literal '-', shortMonth, literal '-', number .year .zero]
  | 'r' =>
    some [number .hour12 .zero, literal ':', number .minute .zero, literal ':',
      number .second .zero, blank ' ', halfDay false]
  | 'c' =>
    some [shortWeekday, blank ' ', shortMonth, blank ' ', number .day .space, blank ' ',
      number .hour .zero, literal ':', number .minute .zero, literal ':', number .second .zero,
      blank ' ', number .year .zero]
  | _ => none

/-- The directive of one letter. -/
def ofLetter (c : Char) : List PatternItem :=
  match number? c, composite? c with
  | some (part, padding), _ => [number part padding]
  | none, some items => items
  | none, none =>
    match c with
    | 'b' | 'h' => [shortMonth]
    | 'B' => [longMonth]
    | 'a' => [shortWeekday]
    | 'A' => [longWeekday]
    | 'p' => [halfDay false]
    | 'P' => [halfDay true]
    | 'Z' => [zoneName]
    | 'z' => [offset .plain]
    | '+' => [internet]
    | 'n' => [blank '\n']
    | 't' => [blank '\t']
    | '%' => [literal '%']
    | _ => [unknown]

/-- A count of fraction digits that directives are written with. -/
def fractionDigits? : Char → Option Nat
  | '3' => some 3
  | '6' => some 6
  | '9' => some 9
  | _ => none

end PatternItem

open PatternItem in
/-- The parts of a pattern. -/
def patternItems : List Char → List PatternItem
  | '%' :: '.' :: 'f' :: rest => fraction :: patternItems rest
  | '%' :: '.' :: n :: 'f' :: rest =>
    (match fractionDigits? n with
      | some k => fixedFraction k
      | none => unknown) :: patternItems rest
  | '%' :: ':' :: 'z' :: rest => offset .colon :: patternItems rest
  | '%' :: ':' :: ':' :: 'z' :: rest => offset .seconds :: patternItems rest
  | '%' :: ':' :: ':' :: ':' :: 'z' :: rest => offset .hours :: patternItems rest
  | '%' :: '#' :: 'z' :: rest => offset .loose :: patternItems rest
  | '%' :: '-' :: c :: rest => padded .none c :: patternItems rest
  | '%' :: '_' :: c :: rest => padded .space c :: patternItems rest
  | '%' :: '0' :: c :: rest => padded .zero c :: patternItems rest
  | '%' :: '3' :: 'f' :: rest => bareFraction 3 :: patternItems rest
  | '%' :: '6' :: 'f' :: rest => bareFraction 6 :: patternItems rest
  | '%' :: '9' :: 'f' :: rest => bareFraction 9 :: patternItems rest
  | '%' :: c :: rest => ofLetter c ++ patternItems rest
  | ['%'] => [unknown]
  | c :: rest => (if Text.isBlank c then blank c else literal c) :: patternItems rest
  | [] => []

/-- Characters filled up in front to a width. -/
def filled (c : Char) (width : Nat) (text : String) : String :=
  String.ofList (List.replicate (width - text.length) c) ++ text

/-- A number without sign in at least `width` characters. -/
def padNat (padding : Padding) (width n : Nat) : String :=
  let digits := toString n
  match padding with
  | .none => digits
  | .zero => filled '0' width digits
  | .space => filled ' ' width digits

/-- A number in at least `width` characters, of which a minus sign is one. -/
def padInt (padding : Padding) (width : Nat) (i : Int) : String :=
  if 0 ≤ i then padNat padding width i.toNat
  else
    match padding with
    | .none => toString i
    | .zero => "-" ++ filled '0' (width - 1) (toString i.natAbs)
    | .space => filled ' ' width (toString i)

/-- A number below 256 with a single character for its tens, which is a digit as long as there is
one. -/
def padByte (padding : Padding) (n : Nat) : String :=
  if n < 100 then padNat padding 2 n
  else String.ofList [Char.ofNat (48 + n / 10), Char.ofNat (48 + n % 10)]

/-- A year: four digits, and a sign in front when it is negative or has more. -/
def yearText (padding : Padding) (year : Int) : String :=
  if 0 ≤ year ∧ year ≤ 9999 then padNat padding 4 year.toNat
  else
    let sign := if year < 0 then "-" else "+"
    let digits := toString year.natAbs
    match padding with
    | .space => filled ' ' 5 (sign ++ digits)
    | padding => sign ++ padNat padding 4 year.natAbs

/-- The hour on a clock face. -/
def hourOnFace (hour : Int) : Int :=
  if hour % 12 = 0 then 12 else hour % 12

/-- The digits of a second's fraction, after the last that is not part of a group of zeros. -/
def fractionText (micro : Int) : String :=
  if micro = 0 then ""
  else if micro % 1000 = 0 then "." ++ padNat .zero 3 (micro / 1000).toNat
  else "." ++ padNat .zero 6 micro.toNat

/-- The first `digits` digits of a second's fraction. -/
def fixedFractionText (digits : Nat) (micro : Int) : String :=
  let nanos := padNat .zero 9 (micro * 1000).toNat
  String.ofList (nanos.toList.take digits)

/-- The `n`th name of a list, its first three letters if `short`. -/
def nameText (names : List String) (n : Int) (short : Bool) : String :=
  let name := (names[n.toNat]?).getD ""
  if short then String.ofList (name.toList.take 3) else name

/-- A numeric part of a moment in universal time. -/
def numberText (m : Moment) (part : NumberPart) (padding : Padding) : String :=
  match part with
  | .year => yearText padding m.date.year
  | .century => padByte padding (m.date.year / 100 % 256).toNat
  | .yearOfCentury => padNat padding 2 (m.date.year % 100).toNat
  | .month => padNat padding 2 m.date.month.toNat
  | .day => padNat padding 2 m.date.day.toNat
  | .ordinal => padNat padding 3 m.date.ordinal.toNat
  | .hour => padNat padding 2 m.hour.toNat
  | .hour12 => padNat padding 2 (hourOnFace m.hour).toNat
  | .minute => padNat padding 2 m.minute.toNat
  | .second => padNat padding 2 m.second.toNat
  | .nanosecond => padNat padding 9 (m.micro * 1000).toNat
  | .timestamp => padInt padding 9 (m.toMicros / secondMicros)
  | .weekdayFromSunday => padNat .none 1 ((m.date.weekday + 1) % 7).toNat
  | .weekdayFromMonday => padNat .none 1 (m.date.weekday + 1).toNat
  | .quarter => padNat .none 1 m.date.quarter.toNat
  | .weekFromSunday => padNat padding 2 (m.date.weekFrom 6).toNat
  | .weekFromMonday => padNat padding 2 (m.date.weekFrom 0).toNat
  | .weekOfYear => padNat padding 2 m.date.weekOfYear.toNat
  | .weekYear => yearText padding m.date.weekYear
  | .weekYearOfCentury => padNat padding 2 (m.date.weekYear % 100).toNat

/-- The distance of universal time from itself, unless its form is one for reading alone. -/
def OffsetForm.zero? : OffsetForm → Option String
  | plain => some "+0000"
  | colon => some "+00:00"
  | seconds => some "+00:00:00"
  | hours => some "+00"
  | loose => none

/-- The profile of ISO 8601 for the internet, for a moment in universal time. -/
def Moment.internet (m : Moment) : String :=
  let two (i : Int) : String := padNat .zero 2 i.toNat
  yearText .zero m.date.year ++ "-" ++ two m.date.month ++ "-" ++ two m.date.day ++ "T" ++
    two m.hour ++ ":" ++ two m.minute ++ ":" ++ two m.second ++ fractionText m.micro ++ "+00:00"

/-- One part of a pattern for a moment in universal time. A directive that does not exist cannot be
written, nor can one for reading alone. -/
def PatternItem.text? (m : Moment) : PatternItem → Option String
  | literal c => some (String.singleton c)
  | blank c => some (String.singleton c)
  | number part padding => some (numberText m part padding)
  | shortMonth => some (nameText monthNames (m.date.month - 1) true)
  | longMonth => some (nameText monthNames (m.date.month - 1) false)
  | shortWeekday => some (nameText weekdayNames m.date.weekday true)
  | longWeekday => some (nameText weekdayNames m.date.weekday false)
  | halfDay isLower =>
    some (if isLower then (if m.hour < 12 then "am" else "pm") else if m.hour < 12 then "AM" else "PM")
  | fraction => some (fractionText m.micro)
  | fixedFraction digits => some ("." ++ fixedFractionText digits m.micro)
  | bareFraction digits => some (fixedFractionText digits m.micro)
  | zoneName => some "UTC"
  | offset form => form.zero?
  | internet => some m.internet
  | unknown => none

/-- A moment in universal time under a pattern, if all parts of the pattern can be written. -/
def Moment.format (pattern : String) (m : Moment) : Option String :=
  ((patternItems pattern.toList).mapM (PatternItem.text? m)).map String.join

end Intake.Calendar
