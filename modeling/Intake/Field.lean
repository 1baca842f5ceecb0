import Intake.Locator

/-!
# Fields

Rules that fill one field of a record from the values that locators find. A field whose name has
placeholders, or that has locators for them, stands for one field per element of its value.

* `Field.references`: the other fields that a field reads.
* `Field.forElement`: the field for one element of the value.
-/

namespace Intake

/-- How one field of a record is filled. -/
structure Field where
  name : String
  locators : List Locator := []
  /-- What stands between several values. -/
  separator : String := ""
  /-- The field holds one of a set of codes. -/
  isEnumeration : Bool := false
  /-- The field gathers values, and there may be others of its name. -/
  isCollection : Bool := false
  /-- Each element of a list or map is a field of its own. -/
  isSplit : Bool := false
  /-- Locators for the placeholders in the name and in the locations. -/
  nameLocators : Keyed Locator := []
  /-- Locators have to find a value unless they say otherwise. -/
  requiredDefault : Option Bool := none

namespace Field

/-- The slot that a field of this name fills. -/
def slot? (f : Field) : Option Slot :=
  Slot.ofName? f.name

/-- A field of this name, with what its slot asks for. -/
def ofName (name : String) : Field where
  name := name
  isEnumeration := (Slot.ofName? name).any (·.isEnumeration)
  isCollection := (Slot.ofName? name).any (·.isCollection)

/-- The field, without what else is done with the values that its locators find. -/
def bare (f : Field) : Field :=
  { f with
    locators := f.locators.map Locator.bare
    nameLocators := f.nameLocators.map fun e => (e.1, e.2.bare) }

/-- All locators: for the value and for the placeholders. -/
def allLocators (f : Field) : List Locator :=
  f.locators ++ Keyed.values f.nameLocators

/-- The field stands for one field per element of its value. -/
def isDynamic (f : Field) : Bool :=
  !f.nameLocators.isEmpty || Condition.isInfixOf ['$', '{'] f.name.toList

/-- The values without those that stand further ahead. -/
def distinct (names : List String) : List String :=
  names.foldl (fun acc n => if n ∈ acc then acc else acc ++ [n]) []

/-- The other fields that the field reads, each once. -/
def references (f : Field) : List String :=
  distinct (f.allLocators.flatMap Locator.references)

/-- The locators have to find a value unless they say otherwise. -/
def requires (f : Field) (default : Bool) : Bool :=
  f.requiredDefault.getD default

/-- The placeholder for the number or key of an element. -/
def elementName : String := "$index"

/-- The text for a placeholder at one element: of a list the item at the same place. -/
def placeholder (values : Keyed Value) (index : Nat) (key name : String) : Option String :=
  if name = elementName then some key
  else (Keyed.get? name values).map fun v =>
    match v with
    | .list items => (items[index]?).elim "" Value.text
    | v => v.text

/-- The field for one element of the value: the one at place `index`, which has the number or key
`key`. `values` are those of the placeholders. -/
def forElement (f : Field) (values : Keyed Value) (index : Nat) (key : String) : Field :=
  let lookup := placeholder values index key
  let own := ofName (Template.fill f.name lookup).1
  { own with
    isEnumeration := f.isEnumeration || own.isEnumeration
    isCollection := f.isCollection || own.isCollection
    locators := f.locators.map (·.filled lookup)
    separator := f.separator
    requiredDefault := f.requiredDefault }

end Field

end Intake
