/-!
# Places in a YAML text

Cursors that count lines and columns, and the characters that divide a text. All ends of lines but
two are line feeds by now.
-/

namespace Intake.Yaml

/-- The character ends a line. -/
def isBreak (c : Char) : Bool :=
  c == '\n' || c == '\u2028' || c == '\u2029'

/-- The character is a blank or a tab. -/
def isBlank (c : Char) : Bool :=
  c == ' ' || c == '\t'

/-- The characters start with a blank or a break, or there are none. -/
def startsBlank : List Char → Bool
  | [] => true
  | c :: _ => isBlank c || isBreak c

/-- Three hyphens or dots stand alone at the start. -/
def startsMarker : List Char → Bool
  | '-' :: '-' :: '-' :: rest => startsBlank rest
  | '.' :: '.' :: '.' :: rest => startsBlank rest
  | _ => false

/-- The character may stand in the name of an anchor, a tag or a directive. -/
def isNameChar (c : Char) : Bool :=
  c.isAlphanum || c == '-' || c == '_'

/-- A place in a text. -/
structure Cursor where
  rest : List Char
  /-- The number of lines before it. -/
  line : Nat := 0
  /-- The number of characters before it in its line. -/
  column : Nat := 0

namespace Cursor

/-- The cursor after `n` characters of its line. -/
def skip (c : Cursor) (n : Nat) : Cursor :=
  { c with rest := c.rest.drop n, column := c.column + n }

/-- The cursor after the characters of its line that have a property. -/
def skipWhile (c : Cursor) (p : Char → Bool) : Cursor :=
  c.skip (c.rest.takeWhile p).length

/-- The cursor after blanks and tabs. -/
def skipBlanks (c : Cursor) : Cursor :=
  c.skipWhile isBlank

/-- The cursor at the end of its line. -/
def skipLine (c : Cursor) : Cursor :=
  c.skipWhile fun x => !isBreak x

/-- The cursor after the break that ends its line, if one does. -/
def nextLine (c : Cursor) : Cursor :=
  match c.rest with
  | [] => c
  | _ :: rest => { rest, line := c.line + 1 }

/-- A line that divides documents starts here. -/
def atMarker (c : Cursor) : Bool :=
  c.column == 0 && startsMarker c.rest

/-- The cursor behind blanks and a comment up to the end of the line; none if something else stands
there. -/
def lineEnd? (c : Cursor) : Option Cursor :=
  let c := c.skipBlanks
  let c := if c.rest.head? == some '#' then c.skipLine else c
  if c.rest.head?.all isBreak then some c.nextLine else none

end Cursor

end Intake.Yaml
