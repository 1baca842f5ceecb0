import Intake.Calendar.Date
import Intake.Text.Hex
import Intake.Text.Number
import Intake.Toml.Datum

/-!
# TOML scalars

Keys, strings in four kinds of quotes, numbers, truth values and times.

* `string?`, `unquoted?`: the scalar at the start of characters and what follows it.
-/

namespace Intake.Toml

/-- The character may not stand in a text as it is. -/
def isControl (c : Char) : Bool :=
  (c.toNat < 0x20 && c != '\t') || c.toNat == 0x7F

/-- The character is a blank or a tab. -/
def isBlank (c : Char) : Bool :=
  c == ' ' || c == '\t'

/-- The character that an escape of one letter stands for. -/
def shortEscape? : Char → Option Char
  | 'b' => some (Char.ofNat 8)
  | 't' => some '\t'
  | 'n' => some '\n'
  | 'f' => some (Char.ofNat 12)
  | 'r' => some '\r'
  | 'e' => some (Char.ofNat 27)
  | '"' => some '"'
  | '\\' => some '\\'
  | _ => none

/-- The character that an escape stands for, and what follows it. -/
def escape? : List Char → Option (Char × List Char)
  | c :: rest =>
    match Text.Hex.escapeWidth? c with
    | some width => (Text.Hex.char? width rest).map fun ch => (ch, rest.drop width)
    | none => (shortEscape? c).map fun ch => (ch, rest)
  | [] => none

/-- The rest of a string in double quotes. -/
def basic? : (fuel : Nat) → List Char → Option (List Char × List Char)
  | 0, _ | _, [] => none
  | fuel + 1, c :: rest =>
    if c == '"' then some ([], rest)
    else if c == '\\' then do
      let (ch, rest) ← escape? rest
      (basic? fuel rest).map fun r => (ch :: r.1, r.2)
    else if isControl c then none
    else (basic? fuel rest).map fun r => (c :: r.1, r.2)

/-- The rest of a string in single quotes. -/
def literal? : List Char → Option (List Char × List Char)
  | [] => none
  | c :: rest =>
    if c == '\'' then some ([], rest)
    else if isControl c then none
    else (literal? rest).map fun r => (c :: r.1, r.2)

/-- Three quotes end a string of several lines; up to two more before them belong to it. -/
def closing? (quote : Char) (cs : List Char) : Option (List Char × List Char) :=
  let n := min 5 (cs.takeWhile (· == quote)).length
  if 3 ≤ n then some (List.replicate (n - 3) quote, cs.drop n) else none

/-- The characters after a line that ends in a backslash, and after the blank lines below it. -/
def continued? (cs : List Char) : Option (List Char) :=
  match cs.dropWhile isBlank with
  | '\n' :: rest => some (rest.dropWhile fun c => isBlank c || c == '\n')
  | _ => none

/-- The rest of a string of several lines. With `escapes` a backslash starts an escape. -/
def multiline? (quote : Char) (escapes : Bool) : (fuel : Nat) → List Char →
    Option (List Char × List Char)
  | 0, _ | _, [] => none
  | fuel + 1, c :: rest =>
    match closing? quote (c :: rest) with
    | some (last, after) => some (last, after)
    | none =>
      if c == '\\' && escapes then
        match continued? rest with
        | some after => multiline? quote escapes fuel after
        | none => do
          let (ch, rest) ← escape? rest
          (multiline? quote escapes fuel rest).map fun r => (ch :: r.1, r.2)
      else if isControl c && c != '\n' then none
      else (multiline? quote escapes fuel rest).map fun r => (c :: r.1, r.2)

/-- Characters without the line end that they start with. -/
def afterLineEnd : List Char → List Char
  | '\n' :: rest => rest
  | cs => cs

/-- The string at the start, in one line or several. -/
def string? (cs : List Char) : Option (List Char × List Char) :=
  let fuel := cs.length + 1
  match cs with
  | '"' :: '"' :: '"' :: rest => multiline? '"' true fuel (afterLineEnd rest)
  | '\'' :: '\'' :: '\'' :: rest => multiline? '\'' false fuel (afterLineEnd rest)
  | '"' :: rest => basic? fuel rest
  | '\'' :: rest => literal? rest
  | _ => none

/-- The character may stand in a key without quotes. -/
def isKeyChar (c : Char) : Bool :=
  c.isAlphanum || c == '-' || c == '_'

/-- One part of a key. -/
def keyPart? (cs : List Char) : Option (String × List Char) :=
  match cs with
  | '"' :: rest => (basic? (cs.length + 1) rest).map fun r => (String.ofList r.1, r.2)
  | '\'' :: rest => (literal? rest).map fun r => (String.ofList r.1, r.2)
  | cs =>
    let part := cs.takeWhile isKeyChar
    if part.isEmpty then none else some (String.ofList part, cs.dropWhile isKeyChar)

/-- How many parts a key may have, and how deep arrays and inline tables may stand in each other. -/
def maxDepth : Nat := 80

/-- The parts of a key, separated by dots, and what follows them and blanks. -/
def keyParts? : (fuel : Nat) → List Char → Option (List String × List Char)
  | 0, _ => none
  | fuel + 1, cs => do
    let (part, rest) ← keyPart? (cs.dropWhile isBlank)
    match rest.dropWhile isBlank with
    | '.' :: rest => (keyParts? fuel rest).map fun r => (part :: r.1, r.2)
    | rest => some ([part], rest)

/-- A key of not too many parts, and what follows it and blanks. -/
def key? (cs : List Char) : Option (List String × List Char) := do
  let (parts, rest) ← keyParts? (cs.length + 1) cs
  if parts.length ≤ maxDepth then some (parts, rest) else none

/-- Digits in which single underscores may stand between two of them. -/
def spacedDigits? (isDigit : Char → Bool) : List Char → Option (List Char)
  | [] => none
  | [c] => if isDigit c then some [c] else none
  | c :: '_' :: rest =>
    if isDigit c then (spacedDigits? isDigit rest).map (c :: ·) else none
  | c :: rest => if isDigit c then (spacedDigits? isDigit rest).map (c :: ·) else none

/-- The number of digits of a base. -/
def natOf? (base : Nat) (cs : List Char) : Option Nat :=
  (spacedDigits? (fun c => (Text.Hex.value? c).any (· < base)) cs).map fun ds =>
    ds.foldl (fun acc d => acc * base + (Text.Hex.value? d).getD 0) 0

/-- A decimal number without needless zeros at its start. -/
def decimal? (cs : List Char) : Option Nat :=
  match cs with
  | '0' :: _ :: _ => none
  | cs => natOf? 10 cs

/-- An integer that fits 128 bits, with a sign or without. -/
def int? (cs : List Char) : Option Int :=
  let limit : Int := UInt64.size * UInt64.size
  let value := match cs with
    | '0' :: 'x' :: rest => (natOf? 16 rest).map Int.ofNat
    | '0' :: 'o' :: rest => (natOf? 8 rest).map Int.ofNat
    | '0' :: 'b' :: rest => (natOf? 2 rest).map Int.ofNat
    | '+' :: rest => (decimal? rest).map Int.ofNat
    | '-' :: rest => (decimal? rest).map fun n => -Int.ofNat n
    | cs => (decimal? cs).map Int.ofNat
  value.filter fun i => -(limit / 2) ≤ i && i < limit

/-- The characters are written as a float: one of the special ones, or a decimal number with a
fraction, an exponent or both. -/
def looksFloat (cs : List Char) : Bool :=
  let cs := Text.withoutSign cs
  if cs == ['i', 'n', 'f'] || cs == ['n', 'a', 'n'] then true
  else
    let whole := cs.takeWhile fun c => Text.isDigit c || c == '_'
    let rest := cs.drop whole.length
    let isExponent (cs : List Char) : Bool := (natOf? 10 (Text.withoutSign cs)).isSome
    (decimal? whole).isSome &&
      match rest with
      | '.' :: rest =>
        let fraction := rest.takeWhile fun c => Text.isDigit c || c == '_'
        (natOf? 10 fraction).isSome &&
          match rest.drop fraction.length with
          | [] => true
          | e :: rest => (e == 'e' || e == 'E') && isExponent rest
      | e :: rest => (e == 'e' || e == 'E') && isExponent rest
      | [] => false

/-- A shape of digits and separators: `0` stands for any digit. -/
def fits : (shape cs : List Char) → Bool
  | [], [] => true
  | '0' :: shape, c :: cs => Text.isDigit c && fits shape cs
  | s :: shape, c :: cs => s == c && fits shape cs
  | _, _ => false

/-- The characters are a float. It may not be too large. -/
def isFloat (cs : List Char) : Bool :=
  looksFloat cs &&
    (Text.withoutSign cs == ['i', 'n', 'f'] ||
      (Text.real? (String.ofList (cs.filter (· != '_')))).any fun x => !x.isInf)

/-- The number of two digits. -/
def twoDigits (cs : List Char) : Nat :=
  Text.digitsValue (cs.take 2)

/-- The characters are a day that exists. -/
def isDate (cs : List Char) : Bool :=
  fits "0000-00-00".toList cs &&
    (Calendar.Date.mk (Text.digitsValue (cs.take 4)) (twoDigits (cs.drop 5))
      (twoDigits (cs.drop 8))).isValid

/-- A fraction of a second to nine digits, without needless zeros. -/
def fractionText (digits : List Char) : List Char :=
  let kept := ((digits.take 9).reverse.dropWhile (· == '0')).reverse
  '.' :: if kept.isEmpty then ['0'] else kept

/-- The text of a time of day, whose seconds may be missing. -/
def clock? (cs : List Char) : Option (List Char) :=
  let clock := cs.takeWhile (· != '.')
  let isClock := twoDigits cs < 24 && twoDigits (cs.drop 3) < 60
  if isClock && fits "00:00".toList cs then some cs
  else if isClock && fits "00:00:00".toList clock && twoDigits (cs.drop 6) ≤ 60 then
    match cs.drop clock.length with
    | [] => some clock
    | _ :: digits =>
      if !digits.isEmpty && digits.all Text.isDigit then some (clock ++ fractionText digits)
      else none
  else none

/-- The text of a distance from universal time, where there is one. -/
def offset? (cs : List Char) : Option (List Char) :=
  match cs with
  | [] => some []
  | ['Z'] | ['z'] => some ['Z']
  | sign :: rest =>
    if (sign == '+' || sign == '-') && fits "00:00".toList rest && twoDigits rest < 24 &&
      twoDigits (rest.drop 3) < 60
    then some (if rest == "00:00".toList then '+' :: rest else cs)
    else none

/-- The text of a time of day that may have a distance from universal time. -/
def zonedClock? (cs : List Char) : Option (List Char) := do
  let clock := cs.takeWhile fun c => c != 'Z' && c != 'z' && c != '+' && c != '-'
  return (← clock? clock) ++ (← offset? (cs.drop clock.length))

/-- The text of a date, a time, or both with a letter between them. -/
def moment? (cs : List Char) : Option (List Char) :=
  if isDate cs then some cs
  else
    match clock? cs with
    | some text => some text
    | none => do
      let (date, rest) := (cs.take 10, cs.drop 10)
      if isDate date && rest.head?.any (fun c => c == 'T' || c == 't' || c == ' ') then
        return date ++ 'T' :: (← zonedClock? (rest.drop 1))
      else none

/-- The character may stand in a scalar without quotes. -/
def isScalarChar (c : Char) : Bool :=
  c.isAlphanum || c == '-' || c == '+' || c == '_' || c == '.' || c == ':'

/-- The scalar without quotes that characters are. -/
def scalarOf? (cs : List Char) : Option Datum :=
  if cs == "true".toList then some (.bool true)
  else if cs == "false".toList then some (.bool false)
  else
    match int? cs with
    | some i => some (.int i)
    | none =>
      if isFloat cs then some .float
      else (moment? cs).map fun text => .moment (String.ofList text)

/-- The scalar without quotes at the start, and what follows it. A time may follow a date after a
blank. -/
def unquoted? (cs : List Char) : Option (Datum × List Char) :=
  let first := cs.takeWhile isScalarChar
  let rest := cs.drop first.length
  let clock := (rest.drop 1).takeWhile isScalarChar
  if isDate first && rest.head? == some ' ' && clock.head?.any Text.isDigit then
    (scalarOf? (first ++ ' ' :: clock)).map fun d => (d, rest.drop (1 + clock.length))
  else (scalarOf? first).map fun d => (d, rest)

end Intake.Toml
