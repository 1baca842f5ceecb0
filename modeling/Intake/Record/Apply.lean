import Intake.Field

/-!
# Applying fields

The value of a field taken into a record. Codes are brought into one spelling, durations into
microseconds, and several values are joined into one text unless the field gathers them.
-/

namespace Intake

namespace Field

/-- The failure that the value of a field cannot be applied. -/
def failure (f : Field) (reason : String) : Failure :=
  .field f.name reason

/-- The text of a code: a number, or a name in capitals. -/
def codeValue (s : String) : Value :=
  let s := Text.trim s
  if !s.isEmpty && s.toList.all Text.isDigit then
    (Text.int64? s).elim (.str s) .int
  else .str (Text.upper s)

/-- The value, brought into the spelling for codes if it is the text of one. -/
def codified (f : Field) : Value → Value
  | .str s => if f.isEnumeration then codeValue s else .str s
  | v => v

/-- A value in the form in which the field keeps it. -/
def normalize (f : Field) (l : Locator) (v : Value) : Except Failure Value :=
  let v := f.codified v
  match f.slot? with
  | some .elapsedTime =>
    match v.toReal? with
    | some x => .ok (.int ((l.units.getD .microseconds).toMicros x))
    | none => .error (f.failure ("'" ++ v.text ++ "' is not a duration"))
  | some .resourceName => .ok (.str v.text)
  | _ => .ok v

/-- A value among several ones as text. -/
def partText (l : Locator) : Value → Except Failure String
  | .instant t => l.timeFormat.format t
  | v => .ok v.text

/-- Several values as one, each with the locator of its place or else the first one. -/
def joined (f : Field) (first : Locator) (items : List Value) : Except Failure Value := do
  if f.isEnumeration then throw (f.failure "enumeration field resolved to multiple values")
  if 1 < f.locators.length && f.locators.length != items.length then
    throw (f.failure s!"{f.locators.length} locators produced {items.length} values")
  let normalized ← items.zipIdx.mapM fun (v, i) =>
    let l := (f.locators[i]?).getD first
    (f.normalize l v).map fun v => (l, v)
  if f.isCollection then return .list (normalized.map (·.2))
  else
    let parts ← normalized.mapM fun (l, v) => partText l v
    return .str (String.intercalate f.separator parts)

/-- The one value that the record gets. -/
def settled (f : Field) (v : Value) : Except Failure Value :=
  match f.locators, v with
  | [], .list items => .ok (.str (Value.list items).text)
  | [], v => .ok v
  | first :: _, .list items => f.joined first items
  | [l], v => f.normalize l v
  | _, v => .ok v

/-- A list of one element counts as that element. -/
def unwrapped : Value → Value
  | .list [v] => v
  | v => v

end Field

namespace Record

/-- Takes the value of a field into the record. -/
def apply (r : Record) (f : Field) (v : Value) : Except Failure Record := do
  let v ← f.settled (Field.unwrapped v)
  let facts ← (r.facts.setAs f.name (f.locators.head?.map Locator.timeFormat) v).mapError
    (Failure.inField f.name)
  return r.withFacts facts

end Record

end Intake
