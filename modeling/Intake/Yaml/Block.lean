import Intake.Yaml.Cursor

/-!
# Blocks of lines

Scalars that are written as indented lines below a mark. The mark says whether line breaks are kept
or folded, which breaks at the end stay, and perhaps how far the lines are indented.

* `block?`: the block at a cursor, and the cursor after it.
-/

namespace Intake.Yaml

/-- What becomes of the line breaks at the end of a block. -/
inductive Chomp where
  | strip | clip | keep
deriving DecidableEq

/-- What stands behind the mark of a block. -/
structure BlockHeader where
  chomp : Chomp := .clip
  /-- By how much the lines are indented more than what is around them. -/
  indent : Option Nat := none

namespace BlockHeader

/-- How a block ends, if a sign for it stands at the start. -/
def chomp? : List Char → Option Chomp
  | '-' :: _ => some .strip
  | '+' :: _ => some .keep
  | _ => none

/-- A digit at the start. -/
def digit? : List Char → Option Nat
  | c :: _ => if c.isDigit then some (c.toNat - 48) else none
  | [] => none

/-- The header at the start, of at most one sign and one digit in any order, and its length. -/
def read (cs : List Char) : BlockHeader × Nat :=
  match chomp? cs, digit? cs with
  | some chomp, _ =>
    match digit? (cs.drop 1) with
    | some n => ({ chomp, indent := some n }, 2)
    | none => ({ chomp }, 1)
  | none, some n =>
    match chomp? (cs.drop 1) with
    | some chomp => ({ chomp, indent := some n }, 2)
    | none => ({ indent := some n }, 1)
  | none, none => ({}, 0)

end BlockHeader

/-- Empty lines: their breaks, the widest indentation among them and the line after them, and where
the text of that line starts. -/
structure EmptyLines where
  breaks : List Char
  widest : Nat
  after : Cursor

/-- Reads empty lines. Of the blanks at the start of a line only the first `indent` are passed over,
if a number is given. No tab may stand among them. -/
def emptyLines? (indent : Option Nat) (breaks : List Char) (widest : Nat) :
    (fuel : Nat) → Cursor → Option EmptyLines
  | 0, _ => none
  | fuel + 1, c =>
    let blanks := (c.rest.takeWhile (· == ' ')).length
    let here := c.skip (indent.elim blanks (min blanks))
    let widest := max widest here.column
    match here.rest with
    | [] => some ⟨breaks, widest, here⟩
    | x :: _ =>
      if x == '\t' && indent.all (here.column < ·) then none
      else if isBreak x then emptyLines? indent (breaks ++ [x]) widest fuel here.nextLine
      else some ⟨breaks, widest, here⟩

/-- A block of lines, as it is read: the text so far, and the break and empty lines after it. -/
structure Lines where
  text : List Char := []
  lastBreak : List Char := []
  empties : List Char
  /-- The line before starts with a blank. -/
  blankLead : Bool := false

namespace Lines

/-- The text of a block when one more line follows. A single break between two lines of which none
starts with a blank is folded. -/
def joined (folds : Bool) (l : Lines) (blankLead : Bool) : List Char :=
  if folds && l.lastBreak == ['\n'] && !l.blankLead && !blankLead then
    l.text ++ (if l.empties.isEmpty then [' '] else l.empties)
  else l.text ++ l.lastBreak ++ l.empties

/-- The text of a block that is over. -/
def chomped (l : Lines) : Chomp → List Char
  | .strip => l.text
  | .clip => l.text ++ l.lastBreak
  | .keep => l.text ++ l.lastBreak ++ l.empties

/-- Reads the lines whose text starts in a column. -/
def read? (folds : Bool) (column : Nat) (l : Lines) :
    (fuel : Nat) → Cursor → Option (Lines × Cursor)
  | 0, _ => none
  | fuel + 1, c =>
    if c.column ≠ column || c.rest.isEmpty then some (l, c)
    else do
      let blankLead := c.rest.head?.any isBlank
      let line := c.rest.takeWhile fun x => !isBreak x
      let ending := c.skipLine
      let empties ← emptyLines? (some column) [] 0 fuel ending.nextLine
      read? folds column
        { text := l.joined folds blankLead ++ line
          lastBreak := ending.rest.take 1
          empties := empties.breaks
          blankLead }
        fuel empties.after

end Lines

/-- The block of lines whose mark stands at a cursor; `folds` joins lines. `outer` is the
indentation around it, and the fuel is more than the number of characters that are left. -/
def block? (fuel : Nat) (folds : Bool) (outer : Int) (c : Cursor) :
    Option (List Char × Cursor) := do
  let (header, width) := BlockHeader.read (c.rest.drop 1)
  if header.indent = some 0 then none
  let start ← (c.skip (1 + width)).lineEnd?
  let given := header.indent.map fun n => n + outer.toNat
  let empties ← emptyLines? given [] 0 fuel start
  let column := given.getD (max empties.widest (max (outer + 1).toNat 1))
  let (lines, after) ← Lines.read? folds column { empties := empties.breaks } fuel empties.after
  return (lines.chomped header.chomp, after)

end Intake.Yaml
