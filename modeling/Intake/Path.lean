import Intake.Value.Json

/-!
# Paths

Ways into documents and values: texts cut at a delimiter into segments, each the key of an entry or
the number of an element from zero. The segment `*` at a list means the list itself.

* `Path.segments`: a text as a path.
* `Json.follow?`, `Value.follow?`: what a path leads to.
-/

namespace Intake

namespace Path

/-- Cuts at each delimiter: the part before the first one, and the other parts. The first `skip`
characters are left out. -/
def cut (delim : List Char) : (skip : Nat) → List Char → List Char × List (List Char)
  | _, [] => ([], [])
  | skip + 1, _ :: rest => cut delim skip rest
  | 0, c :: rest =>
    if delim.isPrefixOf (c :: rest) then
      let (first, others) := cut delim (delim.length - 1) rest
      ([], first :: others)
    else
      let (first, others) := cut delim 0 rest
      (c :: first, others)

/-- The parts between delimiters; between empty delimiters stand single characters. -/
def parts (delim cs : List Char) : List (List Char) :=
  if delim.isEmpty then cs.map fun c => [c]
  else
    let (first, others) := cut delim 0 cs
    first :: others

/-- The segments of a path, which are never empty. -/
def segments (path delim : String) : List String :=
  ((parts delim.toList path.toList).filter fun part => !part.isEmpty).map String.ofList

/-- The segment that means a whole list. -/
def allItems : String := "*"

/-- Paths that were cut before, under their texts. -/
abbrev Memo := Keyed (List String)

/-- The segments of a path, which are cut only the first time that its text is met. -/
def Memo.segments (memo : Memo) (path delim : String) : List String × Memo :=
  match Keyed.get? path memo with
  | some known => (known, memo)
  | none =>
    let found := Path.segments path delim
    (found, Keyed.insert path found memo)

end Path

/-- What a path leads to in a document. -/
def Json.follow? : Json → List String → Option Json
  | doc, [] => some doc
  | .obj members, segment :: rest =>
    (Keyed.get? segment members).bind fun doc => follow? doc rest
  | .arr items, segment :: rest =>
    if segment = Path.allItems then some (.arr items)
    else ((Text.count? segment).bind fun i => items[i]?).bind fun doc => follow? doc rest
  | _, _ :: _ => none

/-- What a path leads to in a value. -/
def Value.follow? : Value → List String → Option Value
  | v, [] => some v
  | .map entries, segment :: rest =>
    (Keyed.get? segment entries).bind fun v => follow? v rest
  | .list items, segment :: rest =>
    if segment = Path.allItems then some (.list items)
    else ((Text.count? segment).bind fun i => items[i]?).bind fun v => follow? v rest
  | _, _ :: _ => none

end Intake
