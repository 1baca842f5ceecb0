import Intake.Regex.Escape

/-!
# Classes in brackets

The written form of a set of characters: characters, ranges, class escapes, named classes, nested
classes and operations on sets.

Variants in case are joined before a set is complemented, and in each operand before an operation.
-/

namespace Intake.Regex

open Intake.Text (CodeSet)

/-- A set with the depth of the brackets, operations and lists of items in its written form. -/
structure Nested where
  set : CodeSet
  depth : Nat

/-- A list of items so far. -/
structure Gathered where
  ranges : List (Nat × Nat) := []
  count : Nat := 0
  depth : Nat := 0

namespace Gathered

/-- The list with one more item. -/
def add (g : Gathered) (s : CodeSet) (depth : Nat) : Gathered :=
  ⟨s.ranges ++ g.ranges, g.count + 1, Nat.max g.depth depth⟩

/-- The set of all items. -/
def nested (g : Gathered) : Nested :=
  ⟨CodeSet.ofRanges g.ranges, if g.count < 2 then g.depth else g.depth + 1⟩

end Gathered

/-- An operation between two sets of a class. -/
inductive SetOp where
  | inter | diff | symmDiff
deriving DecidableEq, Repr

/-- The operation that two equal characters stand for. -/
def SetOp.ofChar? : Char → Option SetOp
  | '&' => some inter
  | '-' => some diff
  | '~' => some symmDiff
  | _ => none

/-- The set that an operation gives. -/
def SetOp.apply (op : SetOp) (s t : CodeSet) : CodeSet :=
  match op with
  | inter => s.inter t
  | diff => s.diff t
  | symmDiff => s.symmDiff t

/-- Joins what stands before an operation with what stands after it. -/
def joinOperand (flags : Flags) (left : Option (Nested × SetOp)) (right : Nested) : Nested :=
  match left with
  | none => right
  | some (l, op) =>
    ⟨op.apply (flags.fold l.set) (flags.fold right.set), Nat.max l.depth right.depth + 1⟩

/-- A class of ASCII by its name between colons, after the opening bracket. -/
def asciiClass? (flags : Flags) : List Char → Option (CodeSet × List Char)
  | ':' :: rest =>
    let (negated, rest) := match rest with
      | '^' :: rest => (true, rest)
      | rest => (false, rest)
    let name := rest.takeWhile (· ≠ ':')
    match rest.dropWhile (· ≠ ':'), AsciiClass.ofName? (String.ofList name) with
    | ':' :: ']' :: rest, some k => some (flags.signed negated k.set, rest)
    | _, _ => none
  | _ => none

/-- A character or an escape in a class. -/
def classItem (flags : Flags) : List Char → Except String (Escape × List Char)
  | [] => .error "unclosed class"
  | '\\' :: rest => escape flags rest
  | c :: rest => .ok (.char c false, rest)

/-- The character that an end of a range is. -/
def rangeEnd (flags : Flags) : Escape → Except String Char
  | .char c isByte =>
    if flags.admits true c isByte then .ok c else .error "no such character"
  | _ => .error "invalid range"

/-- A character, range or class escape in a class. A hyphen before a closing bracket or another
hyphen makes no range. -/
def classRange (flags : Flags) (cs : List Char) : Except String (CodeSet × List Char) := do
  let (first, rest) ← classItem flags cs
  let rest := flags.skip rest
  let range? := match rest with
    | '-' :: more =>
      match flags.skip more with
      | ']' :: _ | '-' :: _ => none
      | more => some more
    | _ => none
  match range? with
  | some more =>
    let (second, rest) ← classItem flags more
    let lo ← rangeEnd flags first
    let hi ← rangeEnd flags second
    if lo ≤ hi then return (.between lo hi, rest) else throw "reversed range"
  | none =>
    match first with
    | .set s => return (s, rest)
    | .anchor _ => throw "invalid escape in class"
    | first => return (.single (← rangeEnd flags first), rest)

/-- Hyphens at the start of a class, which stand for themselves. -/
def leadingHyphens (flags : Flags) (g : Gathered) : (fuel : Nat) → List Char → Gathered × List Char
  | fuel + 1, '-' :: rest => leadingHyphens flags (g.add (.single '-') 0) fuel (flags.skip rest)
  | _, cs => (g, cs)

/-- The start of a class after its opening bracket: whether it is negated, and hyphens or a closing
bracket that stand for themselves. -/
def classStart (flags : Flags) (cs : List Char) : Bool × Gathered × List Char :=
  let cs := flags.skip cs
  let (negated, cs) := match cs with
    | '^' :: rest => (true, flags.skip rest)
    | cs => (false, cs)
  let (g, cs) := leadingHyphens flags {} cs.length cs
  match cs with
  | ']' :: rest =>
    if g.count = 0 then (negated, g.add (.single ']') 0, flags.skip rest) else (negated, g, cs)
  | cs => (negated, g, cs)

mutual

/-- A class after its opening bracket, with at most `levels` more classes inside each other. -/
def bracket (flags : Flags) (fuel levels : Nat) (cs : List Char) :
    Except String (Nested × List Char) :=
  match fuel with
  | 0 => .error "unclosed class"
  | fuel + 1 => do
    let (negated, g, cs) := classStart flags cs
    let (inner, rest) ← bracketItems flags fuel levels none g cs
    return (⟨flags.signed negated inner.set, inner.depth + 1⟩, rest)

/-- The items of a class up to its closing bracket. -/
def bracketItems (flags : Flags) (fuel levels : Nat) (left : Option (Nested × SetOp))
    (g : Gathered) (cs : List Char) : Except String (Nested × List Char) :=
  match fuel with
  | 0 => .error "unclosed class"
  | fuel + 1 =>
    match flags.skip cs with
    | [] => .error "unclosed class"
    | ']' :: rest => .ok (joinOperand flags left g.nested, rest)
    | '[' :: rest =>
      match asciiClass? flags rest, levels with
      | some (s, rest), _ => bracketItems flags fuel levels left (g.add s 0) rest
      | none, 0 => .error "nested too deeply"
      | none, levels + 1 => do
        let (inner, rest) ← bracket flags fuel levels rest
        bracketItems flags fuel (levels + 1) left (g.add inner.set inner.depth) rest
    | c :: rest =>
      match SetOp.ofChar? c, rest.head? == some c with
      | some op, true =>
        let left := joinOperand flags left g.nested
        bracketItems flags fuel levels (some (left, op)) {} (rest.drop 1)
      | _, _ => do
        let (s, rest) ← classRange flags (c :: rest)
        bracketItems flags fuel levels left (g.add s 0) rest

end

end Intake.Regex
