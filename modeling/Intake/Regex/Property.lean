import Intake.Regex.Flags
import Intake.Text.Script
import Intake.Text.Trait

/-!
# Properties in expressions

The sets of characters that an expression names by what they have in common: a property, a category
or a script. Case, blanks, hyphens and underscores in a name do not matter, nor does an "is" at its
start.

* `property?`: the set of a name, or of a property and its value.
-/

namespace Intake.Regex

open Intake.Text (Category CodeSet Trait)

/-- A name as names are compared. -/
def looseName (written : List Char) : String :=
  let (marked, rest) := match written with
    | 'i' :: 's' :: rest | 'i' :: 'S' :: rest | 'I' :: 's' :: rest | 'I' :: 'S' :: rest =>
      (true, rest)
    | cs => (false, cs)
  let kept := rest.filter fun c => c.toNat < 128 && c != ' ' && c != '-' && c != '_'
  let name := String.ofList (kept.map Char.toLower)
  -- the name of a property whose start is no mark
  if marked && name == "c" then "isc" else name

/-- The characters that have something of this name in common. -/
def named? (name : String) : Option CodeSet :=
  (Trait.named? name).or ((Category.named? name).or (Text.Script.named? name))

/-- The characters that have this value of a property. -/
def valued? (property value : String) : Option CodeSet :=
  match property with
  | "gc" | "generalcategory" => Category.named? value
  | "sc" | "script" => Text.Script.named? value
  | "scx" | "scriptextensions" => Text.Script.extended? value
  | _ => none

/-- What stands before a mark and what stands behind it, at the first place where it occurs. -/
def around? (mark : List Char) : List Char → Option (List Char × List Char)
  | [] => none
  | c :: cs =>
    if mark.isPrefixOf (c :: cs) then some ([], (c :: cs).drop mark.length)
    else (around? mark cs).map fun (before, behind) => (c :: before, behind)

/-- The set that is written so. A value may stand behind a property with any of three signs, which
all mean the same. -/
def property? (written : List Char) : Option CodeSet :=
  let sides :=
    (around? ['!', '='] written).or ((around? [':'] written).or (around? ['='] written))
  match sides with
  | some (name, value) => valued? (looseName name) (looseName value)
  | none => named? (looseName written)

/-- What stands before a closing brace, without blanks and comments that do not count. -/
def bracedName (flags : Flags) : (fuel : Nat) → List Char →
    Except String (List Char × List Char)
  | fuel + 1, c :: rest =>
    if c = '}' then .ok ([], rest)
    else (bracedName flags fuel (flags.skip rest)).map fun (name, rest) => (c :: name, rest)
  | _, _ => .error "unclosed escape"

/-- The written form of a set: one character, or what stands in braces. -/
def propertyName (flags : Flags) (cs : List Char) : Except String (List Char × List Char) :=
  match flags.skip cs with
  | [] => .error "incomplete escape"
  | '\\' :: _ => .error "invalid property"
  | '{' :: rest => bracedName flags (rest.length + 1) (flags.skip rest)
  | c :: rest => .ok ([c], rest)

end Intake.Regex
