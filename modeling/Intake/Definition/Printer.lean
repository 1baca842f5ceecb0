import Intake.Definition
import Intake.Json.Basic
import Intake.TimeUnit

/-!
# Printing definitions

A definition as a document with all its members, those that were left out with their default values.
-/

namespace Intake

namespace Json

/-- Texts under keys. -/
def ofTexts (m : Keyed String) : Json := .obj (m.map fun e => (e.1, .str e.2))

/-- An object with members in any order. -/
def object (members : List (String × Json)) : Json := .obj (Keyed.ofList members)

end Json

/-- The document of a resolver. -/
def ResolverRule.toJson (r : ResolverRule) : Json :=
  .object (("kind", .str r.kindName) ::
    match r with
    | regex pattern => [("pattern", .str pattern)]
    | _ => [])

/-- The document of a transform. -/
def TransformRule.toJson (t : TransformRule) : Json :=
  .object (("op", .str t.step.name) :: ("phase", .str t.phase.name) ::
    match t.step with
    | .replace pattern replacement =>
      [("pattern", .str pattern), ("replacement", .str replacement)]
    | .template template => [("template", .str template)]
    | _ => [])

/-- The document of a value filter. -/
def FilterRule.toJson (f : FilterRule) : Json :=
  .object [("handling", .str f.handling.name), ("modifier", .str f.modifier.name),
    ("value", .str f.value)]

/-- The document of a locator. -/
def LocatorRule.toJson (l : LocatorRule) : Json :=
  .object [("kind", .str l.kind.name), ("locator", .str l.location),
    ("data_type", .str l.dataType.name), ("format", .ofText? l.pattern),
    ("units", .ofText? (l.units.map TimeUnit.name)), ("required", .ofBool? l.required),
    ("empty_as_null", .ofBool? l.emptyAsNull), ("value_map", .ofTexts l.valueMap),
    ("transforms", .arr (l.transforms.map TransformRule.toJson)),
    ("filters", .arr (l.filters.map FilterRule.toJson))]

/-- The document of a stacked parser. -/
def StackedRule.toJson (s : StackedRule) : Json :=
  .object [("parser", .str s.parser), ("aggregation", .str s.aggregation.name),
    ("flatten", .bool s.flatten)]

/-- The document of a field. -/
def FieldRule.toJson (f : FieldRule) : Json :=
  .object [("name", .str f.name), ("locators", .arr (f.locators.map LocatorRule.toJson)),
    ("separator", .ofText? f.separator), ("enumeration", .ofBool? f.enumeration),
    ("collection", .ofBool? f.collection), ("split", .bool f.split),
    ("required", .ofBool? f.required),
    ("dynamic_locators", .obj (f.nameLocators.map fun e => (e.1, e.2.toJson))),
    ("stacked", .arr (f.stacked.map StackedRule.toJson))]

/-- The document of a condition. -/
def ConditionRule.toJson (c : ConditionRule) : Json :=
  .object [("field", .str c.field), ("modifier", .str c.modifier.name), ("value", .str c.value)]

/-- The document of a record filter. -/
def RecordFilterRule.toJson (f : RecordFilterRule) : Json :=
  .object [("name", .str f.name), ("handling", .str f.handling.name),
    ("conditions", .arr (f.conditions.map ConditionRule.toJson))]

/-- The document of a cache entry. -/
def CacheEntry.toJson (e : CacheEntry) : Json :=
  .object [("id", .str e.id), ("key", .str e.key), ("value", .str e.value),
    ("parser", .ofText? e.parser)]

/-- The document of a definition. -/
def Definition.toJson (d : Definition) : Json :=
  .object [("name", .str d.name), ("resolver", d.resolver.toJson),
    ("properties", .ofTexts d.properties),
    ("pre_parsers", .arr (d.preParsers.map fun p => .str p.name)),
    ("fields", .arr (d.fields.map FieldRule.toJson)),
    ("filters", .arr (d.filters.map RecordFilterRule.toJson)),
    ("cache", .arr (d.cache.map CacheEntry.toJson))]

end Intake
