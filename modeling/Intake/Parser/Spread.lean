import Intake.Record.Apply
import Intake.Resolution

/-!
# Spreading values over fields

The value of a dynamic or split field, applied element by element, each to a field of its own. A
name that another element of the same value has already gets a number at its end.

* `Context.spread`: the record with all elements that no filter excludes.
-/

namespace Intake

/-- The elements of a value with their numbers or keys. -/
def Value.elements : Value → List (String × Value)
  | .list items => items.zipIdx.map fun (v, i) => (toString i, v)
  | .map entries => entries
  | v => [("0", v)]

namespace Context

/-- The values of the locators for placeholders, those without one left out. -/
def placeholderValues (ctx : Context) (f : Field) : Resolving (Keyed Value) :=
  f.nameLocators.foldlM
    (fun acc (id, l) => do
      match ← ctx.resolve l with
      | some v => return Keyed.insert id v acc
      | none => return acc)
    []

/-- Which names elements have taken, and the last number put at the end of one. -/
structure Naming where
  taken : List String := []
  suffix : Nat := 0

/-- A name for an element, with a number at its end if it is taken already. -/
def Naming.give (n : Naming) (name : String) : String × Naming :=
  if name ∈ n.taken then
    let renamed := name ++ toString (n.suffix + 1)
    (renamed, ⟨renamed :: n.taken, n.suffix + 1⟩)
  else (name, { n with taken := name :: n.taken })

/-- The fields for the elements of a value, with the elements. -/
def elementFields (f : Field) (values : Keyed Value) :
    (index : Nat) → Naming → List (String × Value) → List (Field × Value)
  | _, _, [] => []
  | index, naming, (key, v) :: rest =>
    let own := f.forElement values index key
    let (name, naming) := naming.give own.name
    ({ own with name }, v) :: elementFields f values (index + 1) naming rest

/-- The filters that judge the elements of a value. -/
def elementFilters (f : Field) : List ValueFilter :=
  (f.locators.head?.map (·.filters)).getD []

/-- Applies elements to their fields one after the other, unless a filter excludes them. -/
def applyElements (ctx : Context) : List (Field × Value) → Resolving Record
  | [] => return ctx.record
  | (f, v) :: rest => do
    if ← (ctx.atField f.name).excludes (elementFilters f) (some v) then applyElements ctx rest
    else
      let record ← ((ctx.record.apply f v).mapError (Failure.inField f.name) : Except _ _)
      applyElements { ctx with record } rest

/-- Applies a value to a field element by element. -/
def spread (ctx : Context) (f : Field) (v : Value) : Resolving Record := do
  let values ← ctx.placeholderValues f
  ctx.applyElements (elementFields f values 0 {} v.elements)

end Context

end Intake
