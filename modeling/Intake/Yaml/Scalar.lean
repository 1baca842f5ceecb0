import Intake.Text.Hex
import Intake.Yaml.Cursor

/-!
# YAML scalars in a line or more

Plain scalars and scalars in quotes. A line break inside a scalar is folded into a blank, and each
further one stands for itself.

* `plain?`, `singleQuoted?`, `doubleQuoted?`: the scalar at a cursor and the cursor after it. Their
  fuel is more than the number of characters that are left.
-/

namespace Intake.Yaml

/-- Where blanks and line breaks between two words have got to. -/
structure Gap where
  /-- Blanks before the first break, latest first. -/
  blanks : List Char := []
  /-- Line breaks, latest first. -/
  breaks : List Char := []
  /-- A line has been broken; what blanks follow belong to no text. -/
  broken : Bool := false

namespace Gap

/-- What a gap stands for: its blanks, or one blank for a single break, or all further breaks. -/
def folded (g : Gap) : List Char :=
  if g.broken then
    match g.breaks.reverse with
    | ['\n'] => [' ']
    | '\n' :: more => more
    | breaks => breaks
  else g.blanks.reverse

/-- Reads blanks and line breaks. No tab may stand before the column `least` of a new line. -/
def readFrom? (least : Nat) (g : Gap) (line column : Nat) : List Char → Option (Gap × Cursor)
  | [] => some (g, ⟨[], line, column⟩)
  | x :: rest =>
    if isBreak x then
      readFrom? least { g with breaks := x :: g.breaks, broken := true } (line + 1) 0 rest
    else if !isBlank x then some (g, ⟨x :: rest, line, column⟩)
    else if !g.broken then
      readFrom? least { g with blanks := x :: g.blanks } line (column + 1) rest
    else if x == '\t' && column < least then none
    else readFrom? least g line (column + 1) rest

/-- The gap at a cursor, and the cursor after it. -/
def read? (least : Nat) (g : Gap) (c : Cursor) : Option (Gap × Cursor) :=
  g.readFrom? least c.line c.column c.rest

end Gap

/-- The character ends a plain scalar inside brackets or braces. -/
def isFlowMark (c : Char) : Bool :=
  c == ',' || c == '[' || c == ']' || c == '{' || c == '}'

/-- The length of a run of characters of a plain scalar; none if a colon stands where it must
not. -/
def runLength? (flow : Bool) : List Char → Option Nat
  | [] => some 0
  | c :: rest =>
    if isBlank c || isBreak c then some 0
    else if c == ':' && flow && rest.head?.any (fun x => isFlowMark x || x == '?') then none
    else if c == ':' && startsBlank rest then some 0
    else if flow && isFlowMark c then some 0
    else (runLength? flow rest).map (· + 1)

/-- The rest of a plain scalar of which `text` and a gap have been read. -/
def plainFrom? (flow : Bool) (least : Nat) :
    (fuel : Nat) → (text : List Char) → Gap → Cursor → Option (List Char × Bool × Cursor)
  | 0, _, _, _ => none
  | fuel + 1, text, gap, c => do
    if c.atMarker || c.rest.head? == some '#' then return (text, gap.broken, c)
    let n ← runLength? flow c.rest
    if n = 0 then return (text, gap.broken, c)
    let text := text ++ gap.folded ++ c.rest.take n
    let here := c.skip n
    if here.rest.isEmpty || !startsBlank here.rest then return (text, false, here)
    let (gap, next) ← Gap.read? least {} here
    if !flow && next.column < least then return (text, gap.broken, next)
    plainFrom? flow least fuel text gap next

/-- The plain scalar at a cursor, the cursor behind it and all blanks, and whether a line was broken
just before that. Inside brackets and braces (`flow`) it ends at their marks; elsewhere its lines
have to start in the column `least` or behind it. -/
def plain? (fuel : Nat) (flow : Bool) (least : Nat) (c : Cursor) :
    Option (List Char × Bool × Cursor) :=
  plainFrom? flow least fuel [] {} c

/-- The rest of a scalar in single quotes, in which a quote is written twice. -/
def singleFrom? : (fuel : Nat) → Cursor → Option (List Char × Cursor)
  | 0, _ => none
  | fuel + 1, c =>
    if c.atMarker then none
    else
      match c.rest with
      | [] => none
      | '\'' :: '\'' :: _ => (singleFrom? fuel (c.skip 2)).map fun r => ('\'' :: r.1, r.2)
      | '\'' :: _ => some ([], c.skip 1)
      | x :: _ =>
        if isBlank x || isBreak x then do
          let (gap, next) ← Gap.read? 0 {} c
          (singleFrom? fuel next).map fun r => (gap.folded ++ r.1, r.2)
        else (singleFrom? fuel (c.skip 1)).map fun r => (x :: r.1, r.2)

/-- The scalar in single quotes at a cursor. -/
def singleQuoted? (fuel : Nat) (c : Cursor) : Option (List Char × Cursor) :=
  singleFrom? fuel (c.skip 1)

/-- The character that an escape of one letter stands for. -/
def shortEscape? : Char → Option Char
  | '0' => some (Char.ofNat 0)
  | 'a' => some (Char.ofNat 7)
  | 'b' => some (Char.ofNat 8)
  | 't' | '\t' => some '\t'
  | 'n' => some '\n'
  | 'v' => some (Char.ofNat 11)
  | 'f' => some (Char.ofNat 12)
  | 'r' => some '\r'
  | 'e' => some (Char.ofNat 27)
  | ' ' => some ' '
  | '"' => some '"'
  | '/' => some '/'
  | '\\' => some '\\'
  | 'N' => some (Char.ofNat 0x85)
  | '_' => some (Char.ofNat 0xA0)
  | 'L' => some (Char.ofNat 0x2028)
  | 'P' => some (Char.ofNat 0x2029)
  | _ => none

/-- The rest of a scalar in double quotes, with its escapes. A break behind a backslash stands for
nothing. -/
def doubleFrom? : (fuel : Nat) → Cursor → Option (List Char × Cursor)
  | 0, _ => none
  | fuel + 1, c =>
    if c.atMarker then none
    else
      match c.rest with
      | '"' :: _ => some ([], c.skip 1)
      | '\\' :: x :: rest =>
        if isBreak x then do
          let (gap, next) ← Gap.read? 0 { broken := true } (c.skip 1).nextLine
          (doubleFrom? fuel next).map fun r => (gap.breaks.reverse ++ r.1, r.2)
        else
          match Text.Hex.escapeWidth? x with
          | some width => do
            let ch ← Text.Hex.char? width rest
            (doubleFrom? fuel (c.skip (2 + width))).map fun r => (ch :: r.1, r.2)
          | none => do
            let ch ← shortEscape? x
            (doubleFrom? fuel (c.skip 2)).map fun r => (ch :: r.1, r.2)
      | x :: _ =>
        if isBlank x || isBreak x then do
          let (gap, next) ← Gap.read? 0 {} c
          (doubleFrom? fuel next).map fun r => (gap.folded ++ r.1, r.2)
        else (doubleFrom? fuel (c.skip 1)).map fun r => (x :: r.1, r.2)
      | [] => none

/-- The scalar in double quotes at a cursor. -/
def doubleQuoted? (fuel : Nat) (c : Cursor) : Option (List Char × Cursor) :=
  doubleFrom? fuel (c.skip 1)

end Intake.Yaml
