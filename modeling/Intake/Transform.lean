import Intake.Failure
import Intake.Regex.Reader
import Intake.Regex.Replacement
import Intake.Template
import Intake.Value

/-!
# Transforms

Changes to the value that a locator found, before or after it is brought into its form. Each names
the fields that it reads, so that they can be resolved first.

* `Transform.run`: what a transform makes of a value.
* `Transform.references`: the fields that a transform reads.
-/

namespace Intake

/-- What a transform or value filter can see besides the value. -/
structure Bindings where
  /-- Values of the fields resolved so far. -/
  value : String → Option Value
  /-- The field being resolved. -/
  field : Option String
  /-- Custom properties of the parser. -/
  property : String → Option String

/-- When a transform is applied: to the value as it was found, or to its form. -/
inductive Phase where
  | raw
  | formatted
deriving DecidableEq, Repr

/-- The name of a phase. -/
def Phase.name : Phase → String
  | raw => "raw"
  | formatted => "formatted"

/-- A change to texts. -/
inductive TextChange where
  | trim
  | uppercase
  | lowercase
  | replace (pattern : Regex.Compiled) (replacement : String)

namespace TextChange

/-- The name of a change. -/
def name : TextChange → String
  | trim => "trim"
  | uppercase => "uppercase"
  | lowercase => "lowercase"
  | replace pattern _ => "replace(" ++ pattern.source ++ ")"

/-- The text after the change. -/
def apply : TextChange → String → String
  | trim, s => Text.trim s
  | uppercase, s => Text.upper s
  | lowercase, s => Text.lower s
  | replace pattern replacement, s => pattern.replaceAll s replacement

mutual

/-- The value after the change: texts and the texts in lists change, all else stays. -/
def applyTo (c : TextChange) : Value → Value
  | .str s => .str (c.apply s)
  | .list items => .list (applyToAll c items)
  | v => v

/-- The values after the change. -/
def applyToAll (c : TextChange) : List Value → List Value
  | [] => []
  | v :: rest => applyTo c v :: applyToAll c rest

end

end TextChange

/-- A change to the value that a locator found. -/
inductive Transform where
  | text (change : TextChange) (phase : Phase)
  /-- A text made of the values of other fields, if all of them have one. -/
  | template (template : String)
  /-- A change given from outside, with the fields that it reads. -/
  | custom (name : String) (phase : Phase) (references : List String)
      (run : Option Value → Bindings → Except String (Option Value))

namespace Transform

/-- The name of a transform. -/
def name : Transform → String
  | text change _ => change.name
  | template t => "template(" ++ t ++ ")"
  | custom name _ _ _ => name

/-- When a transform is applied. -/
def phase : Transform → Phase
  | text _ phase => phase
  | template _ => .formatted
  | custom _ phase _ _ => phase

/-- The name that stands for the current value in a template. -/
def currentName : String := "$value"

/-- The fields that a transform reads. -/
def references : Transform → List String
  | text _ _ => []
  | template t => (Template.vars t).filter (· ≠ currentName)
  | custom _ _ references _ => references

/-- What a transform makes of a value. -/
def run (t : Transform) (v : Option Value) (b : Bindings) : Except Failure (Option Value) :=
  match t with
  | text change _ => .ok (v.map change.applyTo)
  | template t =>
    let filled := Template.fill t fun name =>
      if name = currentName then v.map Value.text else (b.value name).map Value.text
    .ok (if filled.2 then some (.str filled.1) else v)
  | custom name _ _ run => (run v b).mapError (.transform name)

end Transform

end Intake
