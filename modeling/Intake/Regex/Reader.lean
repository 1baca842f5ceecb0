import Intake.Regex.Bracket
import Intake.Regex.Search
import Intake.Regex.Weight

/-!
# Reading expressions

The written form of expressions: alternatives, groups with numbers, names or flags, classes and
repetitions. Look-around and references to groups are errors, as are unbalanced brackets, reversed
ranges and counts, and a name given twice.

* `Written.depth`: how deep groups, repetitions, choices, sequences and classes are nested, which
  has a limit.
* `compile`: an expression ready to search with. One that weighs too much is refused.
-/

namespace Intake.Regex

open Intake.Text (CodeSet)

/-- An expression with the depth of its written form. -/
structure Written where
  node : Node
  depth : Nat

/-- A part of a sequence: an expression, or a change of flags, which cannot be repeated. -/
inductive Part where
  | flags
  | item (w : Written)

namespace Written

/-- The deepest nesting that is read. -/
def depthLimit : Nat :=
  250

/-- Something that holds nothing else. -/
def leaf (node : Node) : Written :=
  ⟨node, 0⟩

/-- The greatest of some depths. -/
def deepest (ds : List Nat) : Nat :=
  ds.foldl Nat.max 0

/-- Parts one after the other, last one first. A sequence of at most one is no level of its own. -/
def ofParts (parts : List Part) : Written :=
  let items := parts.reverse.filterMap fun p => match p with
    | .flags => none
    | .item w => some w
  let depth := deepest (items.map depth)
  ⟨Node.sequence (items.map node), if parts.length < 2 then depth else depth + 1⟩

/-- Alternatives. A single one is no level of its own. -/
def ofBranches (ws : List Written) : Written :=
  let depth := deepest (ws.map depth)
  ⟨Node.choice (ws.map node), if ws.length < 2 then depth else depth + 1⟩

/-- A group, under its number if it has one. -/
def grouped (index : Option Nat) (w : Written) : Written :=
  ⟨index.elim w.node fun i => .group i w.node, w.depth + 1⟩

end Written

/-- Groups seen so far. -/
structure Groups where
  count : Nat := 1
  names : List (String × Nat) := []

/-- Where reading stands: groups so far, and what follows. -/
structure Cursor where
  groups : Groups
  rest : List Char

/-- How often something is repeated: bounds, and whether as often as possible comes first. -/
structure Quantifier where
  min : Nat
  max : Option Nat
  lazily : Bool

namespace Reader

/-- A question mark at the start, and what follows. -/
def lazyMark : List Char → Bool × List Char
  | '?' :: rest => (true, rest)
  | rest => (false, rest)

/-- A count with blanks around it, if any, and what follows. The outer error is a count out of
range. -/
def count (flags : Flags) (cs : List Char) : Except String (Option Nat × List Char) :=
  let rec digits : (fuel : Nat) → List Char → List Char × List Char
    | fuel + 1, c :: rest =>
      if Text.isDigit c then
        let (ds, rest) := digits fuel (flags.skip rest)
        (c :: ds, rest)
      else ([], c :: rest)
    | _, cs => ([], cs)
  let (ds, rest) := digits cs.length (cs.dropWhile Text.isBlank)
  let rest := flags.skip (rest.dropWhile Text.isBlank)
  if ds.isEmpty then .ok (none, rest)
  else if Text.digitsValue ds < UInt32.size then .ok (some (Text.digitsValue ds), rest)
  else .error "count out of range"

/-- A repetition in braces, after the opening one. -/
def counted (flags : Flags) (cs : List Char) : Except String (Quantifier × List Char) := do
  let (low, rest) ← count flags (flags.skip cs)
  let some min := low | throw "no count"
  let (max, rest) ← match rest with
    | ',' :: more =>
      match flags.skip more with
      | '}' :: _ => pure (none, flags.skip more)
      | more =>
        let (high, rest) ← count flags more
        let some max := high | throw "no count"
        pure (some max, rest)
    | rest => pure (some min, rest)
  match rest with
  | '}' :: rest =>
    if max.any (· < min) then throw "reversed counts"
    let (lazily, rest) := lazyMark (flags.skip rest)
    return (⟨min, max, lazily⟩, rest)
  | _ => throw "unclosed repetition"

/-- The repetition that the text starts with, if any. -/
def quantifier? (flags : Flags) (cs : List Char) :
    Except String (Option (Quantifier × List Char)) :=
  let simple (min : Nat) (max : Option Nat) (rest : List Char) :
      Except String (Option (Quantifier × List Char)) :=
    let (lazily, rest) := lazyMark rest
    .ok (some (⟨min, max, lazily⟩, rest))
  match cs with
  | '*' :: rest => simple 0 none rest
  | '+' :: rest => simple 1 none rest
  | '?' :: rest => simple 0 (some 1) rest
  | '{' :: rest => (counted flags rest).map some
  | _ => .ok none

/-- A repetition of the last part. -/
def repeatLast (flags : Flags) (q : Quantifier) : List Part → Except String (List Part)
  | .item w :: parts =>
    .ok (.item ⟨w.node.repeated q.min q.max (q.lazily == flags.swapGreed), w.depth + 1⟩ :: parts)
  | _ => .error "repetition without an item"

/-- The character may stand in the name of a group, or at its start. -/
def isNameChar (first : Bool) (c : Char) : Bool :=
  let n := c.toNat
  c == '_' || CodeSet.inRanges Text.letterRanges n ||
    (!first && (c == '.' || c == '[' || c == ']' || CodeSet.inRanges Text.numberRanges n))

/-- The name of a group, after the opening angle bracket. -/
def groupName (cs : List Char) : Except String (String × List Char) :=
  match cs.takeWhile (· ≠ '>'), cs.dropWhile (· ≠ '>') with
  | c :: name, _ :: rest =>
    if isNameChar true c && name.all (isNameChar false) then .ok (String.ofList (c :: name), rest)
    else .error "invalid group name"
  | _, _ => .error "invalid group name"

/-- The set of characters that a point stands for. -/
def dot (flags : Flags) : CodeSet :=
  if flags.dotAll then .all
  else if flags.crlf then (CodeSet.mk [(0xA, 0xA), (0xD, 0xD)]).compl
  else (CodeSet.single '\n').compl

/-- A set outside of brackets, where it may hold characters alone. -/
def setNode (flags : Flags) (s : CodeSet) : Except String Node :=
  if flags.unicode || s.isAscii then .ok (.set s) else .error "not only characters"

/-- A character outside of brackets. -/
def charNode (flags : Flags) (c : Char) (isByte : Bool) : Except String Node :=
  if !flags.admits false c isByte then .error "no such character"
  else if flags.ignoreCase && (flags.unicode || c.isAlpha) then
    .ok (.set (if flags.unicode then variantsOf c else foldedBy asciiFoldPairs (.single c)))
  else .ok (.set (.single c))

/-- The single item that the text starts with, brackets and groups apart. -/
def primitive (flags : Flags) : List Char → Except String (Node × List Char)
  | [] => .error "no item"
  | '\\' :: rest => do
    let (e, rest) ← escape flags rest
    let node ← match e with
      | .char c isByte => charNode flags c isByte
      | .set s => setNode flags s
      | .anchor a => pure (.anchor a)
    return (node, rest)
  | '.' :: rest => (setNode flags (dot flags)).map (·, rest)
  | '^' :: rest =>
    .ok (.anchor (if flags.multiLine then .lineStart flags.crlf else .textStart), rest)
  | '$' :: rest => .ok (.anchor (if flags.multiLine then .lineEnd flags.crlf else .textEnd), rest)
  | c :: rest => (charNode flags c false).map (·, rest)

/-- What kind of group an opening parenthesis begins, and what follows. -/
inductive Opening where
  /-- A group that is kept, under a name if it has one. -/
  | kept (name : Option String)
  /-- A group with flags of its own. -/
  | plain (flags : Flags)
  /-- Flags for the rest of the group around. -/
  | flags (flags : Flags)

/-- The start of a group after its parenthesis. -/
def opening (flags : Flags) (cs : List Char) : Except String (Opening × List Char) :=
  let named (cs : List Char) := (groupName cs).map fun r => (Opening.kept (some r.1), r.2)
  match cs with
  | '?' :: '=' :: _ | '?' :: '!' :: _ | '?' :: '<' :: '=' :: _ | '?' :: '<' :: '!' :: _ =>
    .error "look-around is not supported"
  | '?' :: 'P' :: '<' :: rest | '?' :: '<' :: rest => named rest
  | '?' :: rest => do
    match ← flags.read [] rest with
    | (inner, ':' :: rest) => return (.plain inner, rest)
    | (inner, rest) => return (.flags inner, rest.drop 1)
  | cs => .ok (.kept none, cs)

/-- The number of a new group, and the groups with it. -/
def Groups.opened (g : Groups) (name : Option String) : Except String (Nat × Groups) :=
  match name with
  | none => .ok (g.count, { g with count := g.count + 1 })
  | some name =>
    if g.names.any (·.1 == name) then .error "group name given twice"
    else .ok (g.count, ⟨g.count + 1, g.names ++ [(name, g.count)]⟩)

/-- What follows a group's closing parenthesis. -/
def closed : List Char → Except String (List Char)
  | ')' :: rest => .ok rest
  | _ => .error "unclosed group"

mutual

/-- Alternatives up to a closing parenthesis or the end, `before` those in front, last one first,
with at most `levels` groups inside each other. -/
def branches (fuel levels : Nat) (flags : Flags) (before : List Written) (cur : Cursor) :
    Except String (Written × Cursor) :=
  match fuel with
  | 0 => .error "too long"
  | fuel + 1 => do
    let (w, flags, cur) ← sequence fuel levels flags [] cur
    match cur.rest with
    | '|' :: rest => branches fuel levels flags (w :: before) { cur with rest }
    | _ => return (.ofBranches (w :: before).reverse, cur)

/-- Parts up to a bar, a closing parenthesis or the end; also the flags in force then. `parts` are
those in front, last one first. -/
def sequence (fuel levels : Nat) (flags : Flags) (parts : List Part) (cur : Cursor) :
    Except String (Written × Flags × Cursor) :=
  match fuel with
  | 0 => .error "too long"
  | fuel + 1 => do
    let cs := flags.skip cur.rest
    match ← quantifier? flags cs with
    | some (q, rest) =>
      sequence fuel levels flags (← repeatLast flags q parts) { cur with rest }
    | none =>
      match cs with
      | [] | '|' :: _ | ')' :: _ => return (.ofParts parts, flags, { cur with rest := cs })
      | '(' :: rest => do
        let (part, flags, cur) ← group fuel levels flags { cur with rest := flags.skip rest }
        sequence fuel levels flags (part :: parts) cur
      | '[' :: rest => do
        let (inner, rest) ← bracket flags (2 * rest.length + 2) Written.depthLimit rest
        let node ← setNode flags inner.set
        sequence fuel levels flags (.item ⟨node, inner.depth⟩ :: parts) { cur with rest }
      | cs => do
        let (node, rest) ← primitive flags cs
        sequence fuel levels flags (.item (.leaf node) :: parts) { cur with rest }

/-- A group after its opening parenthesis, and the flags in force after it. -/
def group (fuel levels : Nat) (flags : Flags) (cur : Cursor) :
    Except String (Part × Flags × Cursor) :=
  match fuel, levels with
  | 0, _ => .error "too long"
  | _ + 1, 0 => .error "nested too deeply"
  | fuel + 1, levels + 1 => do
    let (o, rest) ← opening flags cur.rest
    match o with
    | .flags inner => return (.flags, inner, { cur with rest })
    | .plain inner =>
      let (w, cur) ← branches fuel levels inner [] { cur with rest }
      return (.item (w.grouped none), flags, { cur with rest := ← closed cur.rest })
    | .kept name =>
      let (index, groups) ← Groups.opened cur.groups name
      let (w, cur) ← branches fuel levels flags [] ⟨groups, rest⟩
      return (.item (w.grouped (some index)), flags, { cur with rest := ← closed cur.rest })

end

end Reader

/-- Reads and compiles an expression. A group that is repeated no times is none, though it keeps its
number. -/
def compile (source : String) : Except String Compiled := do
  let cs := source.toList
  let (w, cur) ← Reader.branches (4 * cs.length + 4) (Written.depthLimit + 1) {} [] ⟨{}, cs⟩
  if !cur.rest.isEmpty then throw "unopened group"
  if Written.depthLimit < w.depth then throw "nested too deeply"
  if w.node.isHeavy then throw "compiled expression is too large"
  let present := w.node.groupIndices
  let names := cur.groups.names.filter fun (_, i) => present.contains i
  return ⟨source, w.node.program, present.foldl Nat.max 0 + 1, names⟩

end Intake.Regex
