import Intake.Graph
import Intake.Parser

/-!
# Building parsers

A parser is built from a blueprint, which is refused if its properties are wrong, if fields exclude
each other or the resolver cannot follow their locators, if a field refers to an unknown one, or if
fields refer to each other in a circle.

* `Blueprint.build`: the parser of a blueprint, with its fields in the order of their references.
-/

namespace Intake

/-- What a parser is built from. -/
structure Blueprint where
  name : String
  resolver : Resolver
  /-- The properties before any of the named ones is set. -/
  base : Properties := {}
  /-- Properties by name, set one after the other. -/
  properties : List (String × String) := []
  fields : List (ParserField Parser) := []
  preParsers : List PreParser := []
  filters : List RecordFilter := []

namespace Parser

mutual

/-- The fields of a parser and of all parsers stacked on them. -/
def allFields : Parser → List Field
  | mk _ _ _ fields => fieldsOfAll fields

/-- Fields, each before those of the parsers stacked on it. -/
def fieldsOfAll : List (ParserField Parser) → List Field
  | [] => []
  | ⟨f, stacked⟩ :: rest => f :: fieldsOfStacked stacked ++ fieldsOfAll rest

/-- The fields of stacked parsers and of all parsers stacked on them. -/
def fieldsOfStacked : List (Stacked Parser) → List Field
  | [] => []
  | ⟨p, _, _⟩ :: rest => allFields p ++ fieldsOfStacked rest

end

end Parser

namespace Blueprint

/-- A reference that no field has to stand for. -/
def isExempt (reference : String) : Bool :=
  Template.isParentRef reference || Template.isContextName reference ||
    (Slot.ofName? reference).any (·.isAutoAssigned)

/-- The references of a field that fields have to stand for. -/
def needs (f : Field) : List String :=
  f.references.filter fun r => !isExempt r

/-- Checks a field against the resolver and the fields before it. -/
def checkField (resolver : Resolver) (before : List Field) (f : Field) :
    Except Failure Resolver := do
  match (f.allLocators.map (·.kind)).find? (· ∈ resolver.unsupported) with
  | some kind => throw (.unsupportedLocator f.name kind.name)
  | none => pure ()
  if !f.isCollection && before.any (·.name == f.name) then throw (.duplicateField f.name)
  if f.isEnumeration && 1 < f.locators.length then
    throw (.conflictingMapping f.name "enumeration field must have a single locator")
  resolver.accept f

/-- Checks all fields one after the other; the resolver learns from them what it has to collect. -/
def checkFields (resolver : Resolver) (before : List Field) : List Field → Except Failure Resolver
  | [] => .ok resolver
  | f :: rest => do
    let resolver ← checkField resolver before f
    checkFields resolver (before ++ [f]) rest

/-- The places of the fields of a name. -/
def placesOf (fields : List Field) (name : String) : List Nat :=
  (fields.zipIdx.filter fun (f, _) => f.name == name).map (·.2)

/-- An edge to each field from every field that it needs. -/
def references (fields : List Field) : Graph :=
  .ofEdges fields.length
    (fields.zipIdx.flatMap fun (f, i) =>
      (needs f).flatMap fun r => (placesOf fields r).map fun j => (j, i))

/-- The first reference to a field that is not among the known ones. -/
def unknownReference? (known fields : List Field) : Option Failure :=
  if known.any Field.isDynamic then none
  else
    fields.findSome? fun f =>
      ((needs f).find? fun r => !known.any (·.name == r)).map (.unknownReference f.name)

/-- The fields in the order in which they are filled. -/
def arranged (arrange : Bool) (fields : List (ParserField Parser)) :
    Except Failure (List (ParserField Parser)) :=
  let own := fields.map (·.field)
  match unknownReference? (Parser.fieldsOfAll fields) own with
  | some e => .error e
  | none =>
    let g := references own
    match g.order with
    | .error place => .error (.cyclicDependency ((own[place]?).elim "" (·.name)))
    | .ok order =>
      .ok (if arrange && !g.edges.isEmpty then order.filterMap fun i => fields[i]? else fields)

/-- The parser of a blueprint. -/
def build (b : Blueprint) : Except Failure Parser := do
  let properties ← b.base.setAll b.properties
  let resolver ← checkFields b.resolver [] (b.fields.map (·.field))
  let fields ← arranged properties.arrangeFields b.fields
  return .mk ⟨properties.parserName.getD b.name, properties, resolver⟩ b.preParsers b.filters fields

end Blueprint

end Intake
