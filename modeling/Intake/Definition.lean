import Intake.Cache
import Intake.Condition
import Intake.Locator
import Intake.Parser

/-!
# Parser definitions

Parsers as they are written down: everything by name and text, before patterns are compiled and
stacked parsers found.
-/

namespace Intake

/-- A resolver as it is written down. -/
inductive ResolverRule where
  | json
  | map
  | regex (pattern : String)
deriving DecidableEq, Repr

/-- A pre-parser as it is written down. -/
inductive PreParserRule where
  | utf8 | utf8Lossy | base64 | json
deriving DecidableEq, Repr

/-- What a transform does, as it is written down. -/
inductive TransformStep where
  | trim
  | uppercase
  | lowercase
  | replace (pattern replacement : String)
  | template (template : String)
deriving DecidableEq, Repr

/-- A transform as it is written down. -/
structure TransformRule where
  step : TransformStep
  phase : Phase := .formatted
deriving DecidableEq, Repr

/-- A value filter as it is written down. -/
structure FilterRule where
  handling : Handling := .include
  modifier : Modifier := .exact
  value : String
deriving DecidableEq, Repr

/-- A locator as it is written down. -/
structure LocatorRule where
  kind : LocatorKind := .label
  location : String := ""
  dataType : DataType := .string
  pattern : Option String := none
  units : Option TimeUnit := none
  required : Option Bool := none
  emptyAsNull : Option Bool := none
  valueMap : Keyed String := []
  transforms : List TransformRule := []
  filters : List FilterRule := []
deriving DecidableEq, Repr

/-- A parser stacked on a field, as it is written down. -/
structure StackedRule where
  /-- The name of its definition. -/
  parser : String
  aggregation : Aggregation := .merge
  flatten : Bool := false
deriving DecidableEq, Repr

/-- A field as it is written down. -/
structure FieldRule where
  name : String
  locators : List LocatorRule := []
  separator : Option String := none
  enumeration : Option Bool := none
  collection : Option Bool := none
  split : Bool := false
  required : Option Bool := none
  nameLocators : Keyed LocatorRule := []
  stacked : List StackedRule := []
deriving DecidableEq, Repr

/-- A condition on a field of a record, as it is written down. -/
structure ConditionRule where
  field : String
  modifier : Modifier := .exact
  value : String
deriving DecidableEq, Repr

/-- A record filter as it is written down. -/
structure RecordFilterRule where
  name : String
  handling : Handling := .include
  conditions : List ConditionRule := []
deriving DecidableEq, Repr

/-- A parser as it is written down. -/
structure Definition where
  name : String
  resolver : ResolverRule
  properties : Keyed String := []
  preParsers : List PreParserRule := []
  fields : List FieldRule := []
  filters : List RecordFilterRule := []
  cache : List CacheEntry := []
  /-- Where the definition was read. -/
  source : Option String := none
deriving DecidableEq, Repr

namespace PreParserRule

/-- All pre-parsers. -/
def all : List PreParserRule := [utf8, utf8Lossy, base64, json]

/-- The name of a pre-parser. -/
def name : PreParserRule → String
  | utf8 => "utf8"
  | utf8Lossy => "utf8_lossy"
  | base64 => "base64"
  | json => "json"

end PreParserRule

namespace ResolverRule

/-- The name of a resolver. -/
def kindName : ResolverRule → String
  | json => "json"
  | map => "map"
  | regex _ => "regex"

end ResolverRule

namespace TransformStep

/-- The name of a step. -/
def name : TransformStep → String
  | trim => "trim"
  | uppercase => "uppercase"
  | lowercase => "lowercase"
  | replace _ _ => "replace"
  | template _ => "template"

end TransformStep

namespace Definition

/-- Where the definition comes from, for failures. -/
def origin (d : Definition) : String :=
  d.source.getD d.name

/-- The failure that something is wrong with the definition. -/
def failure (d : Definition) (reason : String) : Failure :=
  .definition d.origin reason

/-- The names of the parsers that are stacked on fields, in order. -/
def stackedNames (d : Definition) : List String :=
  d.fields.flatMap fun f => f.stacked.map (·.parser)

/-- Checks the names in a definition. -/
def validate (d : Definition) : Except Failure Definition := do
  if Text.isBlankText d.name then throw (d.failure "parser name must not be empty")
  match d.fields.find? fun f => Text.isBlankText f.name with
  | some f => throw (d.failure s!"field name must not be empty (locators: {f.locators.length})")
  | none => return d

end Definition

end Intake
