import Intake.Text.LineEnd
import Intake.Yaml.Block
import Intake.Yaml.Scalar
import Intake.Yaml.Token

/-!
# From characters to tokens

A key shows only by the colon behind it. So the lexer remembers where a key may have started, and
puts the tokens in front of it when the colon comes. Such a key has to stand in one line, and its
colon at most `keySpan` characters behind its start.

* `Token.ofText?`: the tokens of a text.
-/

namespace Intake.Yaml

/-- A place where a key may have started. -/
structure KeyStart where
  /-- Nothing else can stand here. -/
  isRequired : Bool
  /-- The number of tokens before it. -/
  place : Nat
  line : Nat
  column : Nat

/-- How far behind the start of a key its colon may stand. -/
def keySpan : Nat := 1024

/-- No colon can make a key of what started here any more. -/
def KeyStart.isPast (k : KeyStart) (c : Cursor) : Bool :=
  k.line < c.line || k.column + keySpan < c.column

/-- What has been read of a text. -/
structure Lexer where
  cursor : Cursor
  /-- More than the number of characters that are left. -/
  fuel : Nat
  /-- The tokens so far, latest first. -/
  tokens : List Token := []
  /-- The number of tokens so far. -/
  count : Nat := 0
  /-- The columns of the open lists and tables by indentation, innermost first. -/
  indents : List Nat := []
  /-- A key may start here, if it starts in this line. -/
  keyAllowed : Bool := true
  /-- Where a key may have started that is still open. -/
  pending : Option KeyStart := none
  /-- The same for what is around each open bracket or brace, innermost first. -/
  suspended : List (Option KeyStart) := []

namespace Lexer

/-- A bracket or brace is open. -/
def isFlow (l : Lexer) : Bool :=
  !l.suspended.isEmpty

/-- The column of the innermost list or table by indentation. -/
def indent (l : Lexer) : Int :=
  match l.indents with
  | [] => -1
  | n :: _ => n

/-- One more token. -/
def push (l : Lexer) (t : Token) : Lexer :=
  { l with tokens := t :: l.tokens, count := l.count + 1 }

/-- One more token, at a place among those that are there. -/
def insert (l : Lexer) (place : Nat) (t : Token) : Lexer :=
  let after := l.count - place
  { l with tokens := l.tokens.take after ++ t :: l.tokens.drop after, count := l.count + 1 }

/-- Opens a list or table by indentation in a column that is behind all others. -/
def openBlock (l : Lexer) (column place : Nat) (t : Token) : Lexer :=
  if !l.isFlow && l.indent < column then
    { l.insert place t with indents := column :: l.indents }
  else l

/-- Closes the lists and tables by indentation that stand behind a column. -/
def close (l : Lexer) (column : Int) : Lexer :=
  if l.isFlow then l
  else
    let closed := l.indents.takeWhile fun (n : Nat) => column < n
    { l with
      indents := l.indents.drop closed.length
      tokens := closed.map (fun _ => Token.blockEnd) ++ l.tokens
      count := l.count + closed.length }

/-- Gives up the key that may have started, unless one has to stand there. -/
def dropKey? (l : Lexer) : Option Lexer :=
  if l.pending.any (·.isRequired) then none else some { l with pending := none }

/-- Remembers that a key may start here. -/
def saveKey? (l : Lexer) : Option Lexer :=
  if l.keyAllowed then
    let start : KeyStart :=
      { isRequired := !l.isFlow && l.indent == l.cursor.column
        place := l.count
        line := l.cursor.line
        column := l.cursor.column }
    l.dropKey?.map fun l => { l with pending := some start }
  else some l

/-- A place for a key, if it is still one. -/
def current? (c : Cursor) : Option KeyStart → Option (Option KeyStart)
  | none => some none
  | some k =>
    if !k.isPast c then some (some k) else if k.isRequired then none else some none

/-- Gives up keys that have no colon where it has to stand. -/
def dropPast? (l : Lexer) : Option Lexer := do
  let pending ← current? l.cursor l.pending
  let suspended ← l.suspended.mapM (current? l.cursor)
  return { l with pending, suspended }

/-- The cursor moves on, and a key may follow or not. -/
def moved (l : Lexer) (cursor : Cursor) (keyAllowed : Bool) : Lexer :=
  { l with cursor, keyAllowed }

/-- Passes over blanks, comments and line breaks. A tab may not stand where a key may start by
indentation, and a mark of the encoding only at the start of a line. -/
def skipToText (l : Lexer) : (fuel : Nat) → Lexer
  | 0 => l
  | fuel + 1 =>
    let c := if l.cursor.column == 0 && l.cursor.rest.head? == some '\uFEFF' then l.cursor.skip 1
      else l.cursor
    let c := c.skipWhile fun x => x == ' ' || (x == '\t' && (l.isFlow || !l.keyAllowed))
    let c := if c.rest.head? == some '#' then c.skipLine else c
    match c.rest with
    | [] => l.moved c l.keyAllowed
    | x :: _ =>
      if isBreak x then skipToText (l.moved c.nextLine (!l.isFlow || l.keyAllowed)) fuel
      else l.moved c l.keyAllowed

/-- Moves to the next text and does what its place asks for. -/
def advance? (l : Lexer) : Option Lexer := do
  let l ← (l.skipToText l.fuel).dropPast?
  return l.close l.cursor.column

/-- A token of one character that no key starts with. -/
def mark? (l : Lexer) (t : Token) (keyAllowed : Bool) : Option Lexer :=
  l.dropKey?.map fun l => (l.push t).moved (l.cursor.skip 1) keyAllowed

/-- A bracket or brace that opens. -/
def openFlow? (l : Lexer) (t : Token) : Option Lexer :=
  l.saveKey?.map fun l =>
    { (l.push t).moved (l.cursor.skip 1) true with
      pending := none, suspended := l.pending :: l.suspended }

/-- A bracket or brace that closes. -/
def closeFlow? (l : Lexer) (t : Token) : Option Lexer :=
  (l.mark? t false).map fun l =>
    match l.suspended with
    | [] => l
    | pending :: suspended => { l with pending, suspended }

/-- The mark of an item or of a key, which opens a list or table by indentation. -/
def openingMark? (l : Lexer) (opening t : Token) (keyAllowed : Bool) : Option Lexer :=
  if !l.isFlow && !l.keyAllowed then none
  else (l.openBlock l.cursor.column l.count opening).mark? t keyAllowed

/-- A colon in front of a value. What started before it is a key, if it may be one. -/
def value? (l : Lexer) : Option Lexer :=
  match l.pending with
  | some k =>
    let l := (l.insert k.place .key).openBlock k.column k.place .blockTable
    some ({ l.push .value with pending := none }.moved (l.cursor.skip 1) false)
  | none => l.openingMark? .blockTable .value (!l.isFlow)

/-- A token that a key may start with. -/
def keyed? (l : Lexer) (read? : Cursor → Option (Token × Cursor)) : Option Lexer := do
  let l ← l.saveKey?
  let (t, after) ← read? l.cursor
  return (l.push t).moved after false

/-- A directive or a line that divides documents. Everything by indentation ends before it. -/
def divide? (l : Lexer) (t : Token) (after : Cursor) : Option Lexer :=
  (l.close (-1)).dropKey?.map fun l => (l.push t).moved after false

/-- A block of lines. -/
def lines? (l : Lexer) (folds : Bool) : Option Lexer := do
  let l ← l.dropKey?
  let (text, after) ← block? l.fuel folds l.indent l.cursor
  let style := if folds then Style.quoted else Style.literal
  return (l.push (.scalar style (String.ofList text))).moved after true

/-- A plain scalar may start with the characters. -/
def startsPlain (flow : Bool) : List Char → Bool
  | [] => false
  | c :: rest =>
    if c == '-' then !rest.head?.any isBlank
    else if c == '?' || c == ':' then !flow && !startsBlank rest
    else !(",[]\x7b\x7d#&*!|>'\"%@\x60\t".toList.contains c)

/-- A plain scalar. -/
def plainScalar? (l : Lexer) : Option Lexer := do
  let l ← l.saveKey?
  let (text, broken, after) ← plain? l.fuel l.isFlow (l.indent + 1).toNat l.cursor
  return (l.push (.scalar .plain (String.ofList text))).moved after broken

/-- Reads the token at the cursor. -/
def token? (l : Lexer) : Option Lexer :=
  let c := l.cursor
  match c.rest with
  | [] => none
  | x :: rest =>
    let isMark := l.isFlow || startsBlank rest
    if c.column == 0 && x == '%' then
      (Directive.read? c).bind fun r => l.divide? (.directive r.1) r.2
    else if c.atMarker then
      l.divide? (if x == '-' then .documentStart else .documentEnd) (c.skip 3)
    else if x == '[' then l.openFlow? .flowList
    else if x == '{' then l.openFlow? .flowTable
    else if x == ']' then l.closeFlow? .flowListEnd
    else if x == '}' then l.closeFlow? .flowTableEnd
    else if x == ',' then l.mark? .comma true
    else if x == '-' && startsBlank rest then l.openingMark? .blockList .item true
    else if x == '?' && isMark then l.openingMark? .blockTable .key (!l.isFlow)
    else if x == ':' && isMark then l.value?
    else if x == '*' then l.keyed? fun c => (anchorName? c).map fun r => (.reference r.1, r.2)
    else if x == '&' then l.keyed? fun c => (anchorName? c).map fun r => (.anchor r.1, r.2)
    else if x == '!' then l.keyed? fun c => (Tag.read? l.isFlow c).map fun r => (.tag r.1, r.2)
    else if x == '|' && !l.isFlow then l.lines? false
    else if x == '>' && !l.isFlow then l.lines? true
    else if x == '\'' then
      l.keyed? fun c =>
        (singleQuoted? l.fuel c).map fun r => (.scalar .quoted (String.ofList r.1), r.2)
    else if x == '"' then
      l.keyed? fun c =>
        (doubleQuoted? l.fuel c).map fun r => (.scalar .quoted (String.ofList r.1), r.2)
    else if startsPlain l.isFlow c.rest then l.plainScalar?
    else none

/-- Reads all tokens. -/
def run? : (fuel : Nat) → Lexer → Option Lexer
  | 0, _ => none
  | fuel + 1, l => do
    let l ← l.advance?
    if l.cursor.rest.isEmpty then (l.close (-1)).dropKey? else run? fuel (← l.token?)

end Lexer

/-- The character may stand in a text. -/
def isAllowed (c : Char) : Bool :=
  let n := c.toNat
  n == 9 || n == 10 || n == 13 || (0x20 ≤ n && n ≤ 0x7E) || n == 0x85 ||
    (0xA0 ≤ n && n != 0xFFFE && n != 0xFFFF)

/-- The characters of a text, with line feeds for most ends of lines. -/
def characters (s : String) : List Char :=
  (Text.withLineFeeds s.toList).map fun c => if c == '\r' || c == '\u0085' then '\n' else c

/-- The tokens of a text. -/
def Token.ofText? (s : String) : Option (List Token) :=
  let cs := characters s
  let fuel := cs.length + 1
  if s.toList.all isAllowed then
    (Lexer.run? fuel { cursor := { rest := cs }, fuel }).map fun l => l.tokens.reverse
  else none

end Intake.Yaml
