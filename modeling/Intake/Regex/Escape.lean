import Intake.Regex.Basic
import Intake.Regex.Property
import Intake.Text.Hex

/-!
# Escapes of expressions

What stands behind a backslash: a character, a class of characters, or a condition on a place.
-/

namespace Intake.Regex

open Intake.Text (CodeSet)

/-- What an escape or a plain character stands for. -/
inductive Escape where
  /-- A character. One that is written with two hexadecimal digits may stand for a byte. -/
  | char (c : Char) (isByte : Bool)
  | set (s : CodeSet)
  | anchor (a : Anchor)

/-- Hexadecimal digits up to a closing brace. -/
def bracedDigits (flags : Flags) : (fuel : Nat) → List Char →
    Except String (List Char × List Char)
  | 0, _ => .error "unclosed escape"
  | fuel + 1, cs =>
    match flags.skip cs with
    | [] => .error "unclosed escape"
    | '}' :: rest => .ok ([], flags.skip rest)
    | c :: rest =>
      if (Text.Hex.value? c).isNone then .error "invalid digit"
      else (bracedDigits flags fuel rest).map fun (ds, rest) => (c :: ds, rest)

/-- A fixed number of hexadecimal digits. -/
def fixedDigits (flags : Flags) : (count : Nat) → List Char →
    Except String (List Char × List Char)
  | 0, cs => .ok ([], cs)
  | count + 1, c :: rest =>
    if (Text.Hex.value? c).isNone then .error "invalid digit"
    else (fixedDigits flags count (flags.skip rest)).map fun (ds, rest) => (c :: ds, rest)
  | _ + 1, [] => .error "incomplete escape"

/-- The character whose code point is written in braces or with `width` digits. -/
def hexEscape (flags : Flags) (width : Nat) (cs : List Char) :
    Except String (Escape × List Char) := do
  let (digits, rest, braced) ← match flags.skip cs with
    | '{' :: rest => (bracedDigits flags (rest.length + 1) rest).map fun r => (r.1, r.2, true)
    | cs => (fixedDigits flags width cs).map fun r => (r.1, r.2, false)
  match Text.Hex.char? digits.length digits with
  | some c =>
    if digits.isEmpty then throw "no digits" else return (.char c (width == 2 && !braced), rest)
  | none => throw "invalid code point"

/-- All other characters; all other bytes where there is nothing else. -/
def Flags.compl (flags : Flags) (s : CodeSet) : CodeSet :=
  if flags.unicode then s.compl else s.compl.inter ⟨[(0, 0xFF)]⟩

/-- A set with its variants in case, if case is ignored. -/
def Flags.fold (flags : Flags) (s : CodeSet) : CodeSet :=
  if !flags.ignoreCase then s
  else if flags.unicode then folded s
  else foldedBy asciiFoldPairs s

/-- A set, or all other characters. -/
def Flags.signed (flags : Flags) (negated : Bool) (s : CodeSet) : CodeSet :=
  if negated then flags.compl (flags.fold s) else flags.fold s

/-- A class by its letter, or all other characters in upper case. -/
def classEscape (flags : Flags) (c : Char) : CodeSet :=
  let (wide, narrow) := match c.toLower with
    | 'd' => (decimalSet, AsciiClass.digit.set)
    | 's' => (blankSet, AsciiClass.space.set)
    | _ => (wordSet, AsciiClass.word.set)
  let s := if flags.unicode then wide else narrow
  if c.isUpper then flags.compl s else s

/-- The characters with a property, or all others. -/
def propertyEscape (flags : Flags) (negated : Bool) (cs : List Char) :
    Except String (Escape × List Char) := do
  let (name, rest) ← propertyName flags cs
  if !flags.unicode then throw "property of bytes"
  let some s := property? name | throw "unknown property"
  return (.set (flags.signed negated s), rest)

/-- A relation to words by its name. -/
def wordPlace? : String → Option WordPlace
  | "start" => some .start
  | "end" => some .stop
  | "start-half" => some .startHalf
  | "end-half" => some .stopHalf
  | _ => none

/-- The letters and hyphens of a name in braces, blanks between them passed over. -/
def placeName (flags : Flags) : (fuel : Nat) → List Char → List Char × List Char
  | 0, cs => ([], cs)
  | _ + 1, [] => ([], [])
  | fuel + 1, c :: rest =>
    if c.isAlpha || c = '-' then
      let (name, rest) := placeName flags fuel (flags.skip rest)
      (c :: name, rest)
    else ([], c :: rest)

/-- What follows the escape of a word's edge: the name of a relation in braces, or something else,
such as a count. -/
def wordEdge (flags : Flags) (cs : List Char) : Except String (Escape × List Char) :=
  let anchor (p : WordPlace) : Escape := .anchor (.word p !flags.unicode)
  match cs with
  | '{' :: rest =>
    match flags.skip rest with
    | [] => .error "unclosed brace"
    | c :: _ =>
      if !(c.isAlpha || c = '-') then .ok (anchor .edge, cs)
      else
        match placeName flags rest.length (flags.skip rest) with
        | (name, '}' :: after) =>
          match wordPlace? (String.ofList name) with
          | some p => .ok (anchor p, after)
          | none => .error "unknown place"
        | _ => .error "unclosed brace"
  | _ => .ok (anchor .edge, cs)

/-- A character of ASCII that stands for itself behind a backslash. -/
def isEscapable (c : Char) : Bool :=
  c.toNat < 128 && !c.isAlphanum && c != '<' && c != '>'

/-- What follows a backslash. -/
def escape (flags : Flags) : List Char → Except String (Escape × List Char)
  | [] => .error "incomplete escape"
  | c :: rest =>
    let word (p : WordPlace) : Except String (Escape × List Char) :=
      .ok (.anchor (.word p !flags.unicode), rest)
    let char (c : Char) : Except String (Escape × List Char) := .ok (.char c false, rest)
    match c with
    | 'd' | 'D' | 's' | 'S' | 'w' | 'W' => .ok (.set (classEscape flags c), rest)
    | 'p' => propertyEscape flags false rest
    | 'P' => propertyEscape flags true rest
    | 'b' => wordEdge flags rest
    | 'B' => word .noEdge
    | '<' => word .start
    | '>' => word .stop
    | 'A' => .ok (.anchor .textStart, rest)
    | 'z' => .ok (.anchor .textEnd, rest)
    | 'a' => char '\x07'
    | 'f' => char '\x0c'
    | 't' => char '\t'
    | 'n' => char '\n'
    | 'r' => char '\r'
    | 'v' => char '\x0b'
    | c =>
      match Text.Hex.escapeWidth? c with
      | some width => hexEscape flags width rest
      | none => if isEscapable c then char c else .error "unrecognized escape"

/-- The character may be written outside a class, or inside one. -/
def Flags.admits (flags : Flags) (inClass : Bool) (c : Char) (isByte : Bool) : Bool :=
  flags.unicode || c.toNat < 128 || (inClass && isByte)

end Intake.Regex
