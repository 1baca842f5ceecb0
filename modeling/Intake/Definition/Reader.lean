import Intake.Definition
import Intake.Readable
import Intake.Toml.Reader
import Intake.Yaml.Reader

/-!
# Reading definitions

Definitions in YAML and TOML. Unknown members are passed over, and nearly all members can be left
out. What stands beside the kind of a resolver or in a transform has the type of its own text.

* `Definition.read?`: the definition that a value of either format is.
* `Definition.ofYaml`, `Definition.ofToml`: the definition in a text, checked.
-/

namespace Intake

open Readable

variable {ν : Type} [Readable ν]

namespace ResolverRule

/-- The resolver of a kind and the members beside it. Only a resolver that has members looks at
them. -/
def ofMembers? (kind : String) (rest : List (Content × Content)) : Option ResolverRule :=
  match kind with
  | "json" => some json
  | "map" => some map
  | "regex" => do
    let entries ← rest.mapM fun (key, c) => (key.key? ["pattern"]).map fun key => (key, c)
    let ms ← Members.checked? ["pattern"] entries
    (ms.need? "pattern" Content.text?).map regex
  | _ => none

/-- The resolver of a kind and the items after it. -/
def ofItems? (kind : String) (rest : List Content) : Option ResolverRule :=
  match kind, rest with
  | "json", [] => some json
  | "map", [] => some map
  | "regex", [.text pattern] => some (regex pattern)
  | _, _ => none

/-- The resolver that a value is: a list that its kind starts, or a table with one kind. -/
def read? (v : ν) : Option ResolverRule := do
  match ← collection? v with
  | .list [] => none
  | .list (kind :: rest) => ofItems? (← text? kind) (← rest.mapM content?)
  | .table entries =>
    match entries.partition fun e => e.1.text? == some "kind" with
    | ([kind], rest) =>
      ofMembers? (← text? kind.2) (← rest.mapM fun (key, v) => (content? v).map fun c => (key, c))
    | _ => none

end ResolverRule

/-- The handling that a value is. -/
def Handling.read? (v : ν) : Option Handling :=
  named? [.include, .exclude] Handling.name v

/-- The modifier that a value is. -/
def Modifier.read? (v : ν) : Option Modifier :=
  named? Modifier.all Modifier.name v

/-- The phase that a value is. -/
def Phase.read? (v : ν) : Option Phase :=
  named? [.raw, .formatted] Phase.name v

/-- The unit that a value is. -/
def TimeUnit.read? (v : ν) : Option TimeUnit :=
  (text? v).bind fun s => (TimeUnit.ofName s).toOption

namespace TransformRule

/-- The names of steps, in their order. -/
def stepNames : List String := ["trim", "uppercase", "lowercase", "replace", "template"]

/-- The step of a name and the members beside it. Only a step that has members looks at them. -/
def stepOf? (op : String) (ms : Members Content) : Option TransformStep :=
  match op with
  | "trim" => some .trim
  | "uppercase" => some .uppercase
  | "lowercase" => some .lowercase
  | "replace" => do
    let ms ← Members.checked? ["pattern", "replacement"] ms
    let pattern ← ms.need? "pattern" Content.text?
    let replacement ← ms.need? "replacement" Content.text?
    return .replace pattern replacement
  | "template" => do
    let ms ← Members.checked? ["template"] ms
    (ms.need? "template" Content.text?).map .template
  | _ => none

/-- The transform that a value is. Its step may be given by name or by number. -/
def read? (v : ν) : Option TransformRule := do
  let ms ← (entries? v).bind (Members.checked? ["op", "phase"])
  let phase ← ms.orElse? "phase" .formatted Phase.read?
  let rest ← (ms.filter fun m => m.1 != "phase").mapM fun (key, v) =>
    (content? v).map fun c => (key, c)
  let op ← Members.need? rest "op" (Content.name? stepNames)
  let step ← stepOf? op rest
  return { step, phase }

end TransformRule

/-- The value filter that a value is. -/
def FilterRule.read? (v : ν) : Option FilterRule := do
  let ms ← membersOf? ["handling", "modifier", "value"] v
  let handling ← ms.orElse? "handling" .include Handling.read?
  let modifier ← ms.orElse? "modifier" .exact Modifier.read?
  let value ← ms.need? "value" text?
  return { handling, modifier, value }

/-- The locator that a value is. -/
def LocatorRule.read? (v : ν) : Option LocatorRule := do
  let ms ← membersOf? ["kind", "locator", "data_type", "format", "units", "required",
    "empty_as_null", "value_map", "transforms", "filters"] v
  let kind ← ms.orElse? "kind" .label (named? LocatorKind.all LocatorKind.name)
  let location ← ms.orElse? "locator" "" text?
  let dataType ← ms.orElse? "data_type" .string (named? DataType.all DataType.name)
  let pattern ← ms.orElse? "format" none (optional? text?)
  let units ← ms.orElse? "units" none (optional? TimeUnit.read?)
  let required ← ms.orElse? "required" none (optional? bool?)
  let emptyAsNull ← ms.orElse? "empty_as_null" none (optional? bool?)
  let valueMap ← ms.orElse? "value_map" [] (keyedOf? text?)
  let transforms ← ms.orElse? "transforms" [] (listOf? TransformRule.read?)
  let filters ← ms.orElse? "filters" [] (listOf? FilterRule.read?)
  return { kind, location, dataType, pattern, units, required, emptyAsNull, valueMap, transforms,
           filters }

/-- The stacked parser that a value is. -/
def StackedRule.read? (v : ν) : Option StackedRule := do
  let ms ← membersOf? ["parser", "aggregation", "flatten"] v
  let parser ← ms.need? "parser" text?
  let aggregation ← ms.orElse? "aggregation" .merge (named? [.merge, .relate] Aggregation.name)
  let flatten ← ms.orElse? "flatten" false bool?
  return { parser, aggregation, flatten }

/-- The field that a value is. -/
def FieldRule.read? (v : ν) : Option FieldRule := do
  let ms ← membersOf? ["name", "locators", "separator", "enumeration", "collection", "split",
    "required", "dynamic_locators", "stacked"] v
  let name ← ms.need? "name" text?
  let locators ← ms.orElse? "locators" [] (listOf? LocatorRule.read?)
  let separator ← ms.orElse? "separator" none (optional? text?)
  let enumeration ← ms.orElse? "enumeration" none (optional? bool?)
  let collection ← ms.orElse? "collection" none (optional? bool?)
  let split ← ms.orElse? "split" false bool?
  let required ← ms.orElse? "required" none (optional? bool?)
  let nameLocators ← ms.orElse? "dynamic_locators" [] (keyedOf? LocatorRule.read?)
  let stacked ← ms.orElse? "stacked" [] (listOf? StackedRule.read?)
  return { name, locators, separator, enumeration, collection, split, required, nameLocators,
           stacked }

/-- The condition that a value is. -/
def ConditionRule.read? (v : ν) : Option ConditionRule := do
  let ms ← membersOf? ["field", "modifier", "value"] v
  let field ← ms.need? "field" text?
  let modifier ← ms.orElse? "modifier" .exact Modifier.read?
  let value ← ms.need? "value" text?
  return { field, modifier, value }

/-- The record filter that a value is. -/
def RecordFilterRule.read? (v : ν) : Option RecordFilterRule := do
  let ms ← membersOf? ["name", "handling", "conditions"] v
  let name ← ms.need? "name" text?
  let handling ← ms.orElse? "handling" .include Handling.read?
  let conditions ← ms.orElse? "conditions" [] (listOf? ConditionRule.read?)
  return { name, handling, conditions }

/-- The cache entry that a value is. -/
def CacheEntry.read? (v : ν) : Option CacheEntry := do
  let ms ← membersOf? ["id", "key", "value", "parser"] v
  let id ← ms.need? "id" text?
  let key ← ms.need? "key" text?
  let value ← ms.need? "value" text?
  let parser ← ms.orElse? "parser" none (optional? text?)
  return { id, key, value, parser }

namespace Definition

/-- The definition that a value is. -/
def read? (v : ν) : Option Definition := do
  let ms ← membersOf? ["name", "resolver", "properties", "pre_parsers", "fields", "filters",
    "cache"] v
  let name ← ms.need? "name" text?
  let resolver ← ms.need? "resolver" ResolverRule.read?
  let properties ← ms.orElse? "properties" [] (keyedOf? text?)
  let preParsers ←
    ms.orElse? "pre_parsers" [] (listOf? (named? PreParserRule.all PreParserRule.name))
  let fields ← ms.orElse? "fields" [] (listOf? FieldRule.read?)
  let filters ← ms.orElse? "filters" [] (listOf? RecordFilterRule.read?)
  let cache ← ms.orElse? "cache" [] (listOf? CacheEntry.read?)
  return { name, resolver, properties, preParsers, fields, filters, cache }

/-- What is wrong with a text that is no definition. -/
def unreadable : String := "not a parser definition"

/-- The definition in a YAML text that was read at `source`. -/
def ofYaml (content source : String) : Except Failure Definition :=
  match (Yaml.Spot.ofText? content).bind read? with
  | some d => validate { d with source := some source }
  | none => .error (.definition source ("YAML parse error: " ++ unreadable))

/-- The definition in a TOML text that was read at `source`. -/
def ofToml (content source : String) : Except Failure Definition :=
  match (Toml.Datum.ofText? content).bind read? with
  | some d => validate { d with source := some source }
  | none => .error (.definition source ("TOML parse error: " ++ unreadable))

end Definition

end Intake
