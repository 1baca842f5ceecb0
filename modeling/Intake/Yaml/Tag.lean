import Intake.Text.Hex
import Intake.Text.Utf8
import Intake.Yaml.Cursor

/-!
# Tags, anchors and directives

What may stand in front of a node and in front of a document. A tag has a handle, for which the
directives of a document say what it stands for.

* `anchorName?`, `Tag.read?`, `Directive.read?`: what stands at a cursor, and the cursor after it.
* `Directive.handles?`: the handles that directives give.
-/

namespace Intake.Yaml

/-- The name of an anchor behind its mark. -/
def anchorName? (c : Cursor) : Option (String × Cursor) :=
  let name := (c.rest.drop 1).takeWhile isNameChar
  let after := c.skip (1 + name.length)
  let isOver :=
    startsBlank after.rest || after.rest.head?.any "?:,]\x7d%@\x60".toList.contains
  if !name.isEmpty && isOver then some (String.ofList name, after) else none

/-- A tag as it is written. Without a handle the suffix is all of it. -/
structure Tag where
  handle : String
  suffix : String
deriving DecidableEq, Repr

namespace Tag

/-- The character may stand in the suffix of a tag; some only where its end is marked (`closed`). -/
def isSuffixChar (closed : Bool) (c : Char) : Bool :=
  isNameChar c || ";/?:@&=+$.!~*'()".toList.contains c || (closed && ",[]".toList.contains c)

/-- How many bytes a character has whose first byte is given. -/
def byteWidth? (b : Nat) : Option Nat :=
  if b < 0x80 then some 1
  else if 0xC0 ≤ b ∧ b < 0xE0 then some 2
  else if 0xE0 ≤ b ∧ b < 0xF0 then some 3
  else if 0xF0 ≤ b ∧ b < 0xF8 then some 4
  else none

/-- The byte that an escape of two digits stands for. -/
def byte? : List Char → Option Nat
  | '%' :: a :: b :: _ => do return (← Text.Hex.value? a) * 16 + (← Text.Hex.value? b)
  | _ => none

/-- Bytes that go on with a character, as escapes. -/
def moreBytes? : (owed : Nat) → List Char → Option (List UInt8)
  | 0, _ => some []
  | owed + 1, cs => do
    let b ← byte? cs
    if 0x80 ≤ b ∧ b < 0xC0 then (moreBytes? owed (cs.drop 3)).map (UInt8.ofNat b :: ·) else none

/-- The bytes of the character that escapes at the start stand for. -/
def escape? (cs : List Char) : Option (List UInt8) := do
  let b ← byte? cs
  let width ← byteWidth? b
  (moreBytes? (width - 1) (cs.drop 3)).map (UInt8.ofNat b :: ·)

/-- The characters of a suffix, and how many characters it is written with. -/
def suffixFrom? (closed : Bool) : (fuel : Nat) → List Char → Option (List Char × Nat)
  | 0, _ | _, [] => some ([], 0)
  | fuel + 1, c :: rest =>
    if c == '%' then do
      let bytes ← escape? (c :: rest)
      let width := 3 * bytes.length
      (suffixFrom? closed fuel ((c :: rest).drop width)).map fun r =>
        (Text.Utf8.decodeLossyFrom 0 bytes ++ r.1, r.2 + width)
    else if isSuffixChar closed c then
      (suffixFrom? closed fuel rest).map fun r => (c :: r.1, r.2 + 1)
    else some ([], 0)

/-- The suffix at a cursor. -/
def suffix? (closed : Bool) (c : Cursor) : Option (List Char × Cursor) :=
  (suffixFrom? closed (c.rest.length + 1) c.rest).map fun r => (r.1, c.skip r.2)

/-- A suffix that is not empty. -/
def someSuffix? (closed : Bool) (c : Cursor) : Option (String × Cursor) := do
  let (cs, after) ← suffix? closed c
  if cs.isEmpty then none else some (String.ofList cs, after)

/-- A handle between two exclamation marks at a cursor: the characters between them. -/
def handle? (c : Cursor) : Option (List Char × Cursor) :=
  match c.rest with
  | '!' :: rest =>
    let name := rest.takeWhile isNameChar
    match rest.drop name.length with
    | '!' :: _ => some ('!' :: name ++ ['!'], c.skip (name.length + 2))
    | _ => none
  | _ => none

/-- The tag at a cursor: all of it in angle brackets, or a suffix with a handle or without. -/
def written? (c : Cursor) : Option (Tag × Cursor) :=
  if (c.rest.drop 1).head? == some '<' then do
    let (suffix, after) ← someSuffix? true (c.skip 2)
    if after.rest.head? == some '>' then some (⟨"", suffix⟩, after.skip 1) else none
  else
    match handle? c with
    | some (handle, after) => do
      let (suffix, after) ← someSuffix? false after
      return (⟨String.ofList handle, suffix⟩, after)
    | none => do
      let (suffix, after) ← suffix? false (c.skip 1)
      return (if suffix.isEmpty then ⟨"", "!"⟩ else ⟨"!", String.ofList suffix⟩, after)

/-- The tag at a cursor, which nothing may follow at once but a comma inside brackets and braces. -/
def read? (flow : Bool) (c : Cursor) : Option (Tag × Cursor) := do
  let (tag, after) ← written? c
  if startsBlank after.rest || (flow && after.rest.head? == some ',') then some (tag, after)
  else none

end Tag

/-- What stands in front of a document. -/
inductive Directive where
  | version (major minor : Nat)
  | handle (handle stem : String)
deriving DecidableEq, Repr

namespace Directive

/-- A number of up to nine digits at a cursor. -/
def number? (c : Cursor) : Option (Nat × Cursor) :=
  let digits := c.rest.takeWhile Char.isDigit
  if digits.isEmpty || 9 < digits.length then none
  else some (digits.foldl (fun n d => n * 10 + (d.toNat - 48)) 0, c.skip digits.length)

/-- The version behind the name of its directive. -/
def version? (c : Cursor) : Option (Directive × Cursor) := do
  let (major, after) ← number? c.skipBlanks
  if after.rest.head? != some '.' then none
  let (minor, after) ← number? (after.skip 1)
  return (.version major minor, after)

/-- The handle, a single exclamation mark or a name between two of them, and what it stands for. -/
def handle? (c : Cursor) : Option (Directive × Cursor) := do
  let c := c.skipBlanks
  let (sign, after) ←
    match Tag.handle? c with
    | some r => some r
    | none =>
      match c.rest with
      | '!' :: rest => if rest.head?.any isNameChar then none else some (['!'], c.skip 1)
      | _ => none
  if !after.rest.head?.any isBlank then none
  let (stem, after) ← Tag.someSuffix? true after.skipBlanks
  if startsBlank after.rest then some (.handle (String.ofList sign) stem, after) else none

/-- The directive at a cursor, which takes all of its line. -/
def read? (c : Cursor) : Option (Directive × Cursor) := do
  let name := (c.rest.drop 1).takeWhile isNameChar
  let after := c.skip (1 + name.length)
  if !startsBlank after.rest then none
  let (directive, after) ←
    if name == "YAML".toList then version? after
    else if name == "TAG".toList then handle? after
    else none
  return (directive, ← after.lineEnd?)

/-- Handles that need no directive. -/
def ownHandles : List (String × String) := [("!", "!"), ("!!", "tag:yaml.org,2002:")]

/-- What the handles of a document stand for. No directive may be given twice, and the version has
to be a known one. -/
def handles? (directives : List Directive) : Option (List (String × String)) :=
  let given := directives.filterMap fun
    | handle sign stem => some (sign, stem)
    | version _ _ => none
  let versions := directives.filterMap fun
    | version major minor => some (major, minor)
    | handle _ _ => none
  let signs := given.map (·.1)
  if versions.length ≤ 1 && versions.all [(1, 1), (1, 2)].contains &&
    signs.eraseDups.length == signs.length
  then some (given ++ ownHandles)
  else none

end Directive

/-- All of a tag, its handle replaced. -/
def Tag.full? (handles : List (String × String)) (t : Tag) : Option String :=
  if t.handle.isEmpty then some t.suffix
  else (handles.lookup t.handle).map fun stem => stem ++ t.suffix

end Intake.Yaml
