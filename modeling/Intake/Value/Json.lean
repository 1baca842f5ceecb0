import Intake.Value
import Intake.Json.Basic

/-!
# Values and documents

A document becomes a value without its nulls; a value becomes the document with the same shape.

* `ofJson_eq_none_iff`: only null becomes no value.
-/

namespace Intake.Value

mutual

/-- The value of a document; null is none, also inside arrays and objects. -/
def ofJson : Json → Option Value
  | .null => none
  | .bool b => some (bool b)
  | .int i =>
    some (match Text.int64OfInt? i with
      | some n => int n
      | none => float (UInt64.ofNat i.toNat).toFloat)
  | .float x => some (float x)
  | .str s => some (str s)
  | .arr items => some (list (ofItems items))
  | .obj members => some (map (ofMembers members))

/-- The values of an array's elements that are not null. -/
def ofItems : List Json → List Value
  | [] => []
  | item :: rest =>
    match ofJson item with
    | some v => v :: ofItems rest
    | none => ofItems rest

/-- The values of an object's members that are not null. -/
def ofMembers : List (String × Json) → List (String × Value)
  | [] => []
  | (key, item) :: rest =>
    match ofJson item with
    | some v => (key, v) :: ofMembers rest
    | none => ofMembers rest

end

theorem ofJson_eq_none_iff {doc : Json} : ofJson doc = none ↔ doc.isNull = true := by
  cases doc <;> simp [ofJson, Json.isNull]

mutual

/-- The document of a value: bytes as an array of numbers, an instant as its microseconds, and a
float that is no finite number as null. -/
def toJson : Value → Json
  | bool b => .bool b
  | int i => .int i.toInt
  | float x => if x.isNaN || x.isInf then .null else .float x
  | str s => .str s
  | bytes bs => .arr (bs.map fun b => .int b.toNat)
  | instant t => .int t.micros.toInt
  | list items => .arr (toItems items)
  | map entries => .obj (toMembers entries)

/-- The documents of the elements of a list. -/
def toItems : List Value → List Json
  | [] => []
  | v :: rest => toJson v :: toItems rest

/-- The documents of the entries of a map. -/
def toMembers : List (String × Value) → List (String × Json)
  | [] => []
  | (key, v) :: rest => (key, toJson v) :: toMembers rest

end

end Intake.Value
