import Intake.Definition
import Intake.Parser.Build

/-!
# Building from definitions

The parser of a definition, with the parsers stacked on it found by name. A failure that is none of
configuration is told as one of the definition.

* `Definition.build`: the parser of a definition.
-/

namespace Intake

/-- The resolver of a rule. -/
def ResolverRule.build : ResolverRule → Except Failure Resolver
  | json => .ok .json
  | map => .ok .map
  | regex pattern => Resolver.ofPattern pattern

/-- The pre-parser of a rule. -/
def PreParserRule.build : PreParserRule → PreParser
  | utf8 => .utf8 false
  | utf8Lossy => .utf8 true
  | base64 => .base64
  | json => .json

/-- The transform of a rule. -/
def TransformRule.build (t : TransformRule) : Except Failure Transform :=
  match t.step with
  | .trim => .ok (.text .trim t.phase)
  | .uppercase => .ok (.text .uppercase t.phase)
  | .lowercase => .ok (.text .lowercase t.phase)
  | .replace pattern replacement =>
    ((Regex.compile pattern).mapError .pattern).map fun p => .text (.replace p replacement) t.phase
  | .template template => .ok (.template template)

/-- The value filter of a rule. -/
def FilterRule.build (f : FilterRule) : Except Failure ValueFilter :=
  ValueFilter.ofCondition f.handling f.modifier f.value

/-- The locator of a rule. -/
def LocatorRule.build (l : LocatorRule) : Except Failure Locator := do
  let transforms ← l.transforms.mapM TransformRule.build
  let filters ← l.filters.mapM FilterRule.build
  return { kind := l.kind
           location := l.location
           dataType := l.dataType
           pattern := l.pattern
           units := l.units
           valueMap := l.valueMap
           required := l.required
           emptyAsNull := l.emptyAsNull.getD true
           transforms
           filters }

/-- The condition of a rule. -/
def ConditionRule.build (c : ConditionRule) : Except Failure FieldCondition :=
  (Condition.compile c.modifier c.value).map fun condition => { field := c.field, condition }

/-- The record filter of a rule. -/
def RecordFilterRule.build (f : RecordFilterRule) : Except Failure RecordFilter :=
  (f.conditions.mapM ConditionRule.build).map (.conditions f.name f.handling)

namespace Definition

/-- A failure as one of the definition, unless it is one of configuration already. -/
def wrap (d : Definition) (e : Failure) : Failure :=
  if e.isConfiguration then e else d.failure e.message

/-- The field of a rule, without the parsers stacked on it. -/
def buildField (d : Definition) (f : FieldRule) : Except Failure Field := do
  let own := Field.ofName f.name
  let locators ← f.locators.mapM fun l => l.build.mapError d.wrap
  let nameLocators ← f.nameLocators.mapM fun (id, l) =>
    (l.build.mapError d.wrap).map fun l => (id, l)
  return { own with
           locators
           separator := f.separator.getD ""
           isEnumeration := f.enumeration.getD own.isEnumeration
           isCollection := f.collection.getD own.isCollection
           isSplit := f.split
           nameLocators
           requiredDefault := f.required }

/-- The parser stacked on a field, from those built already. -/
def buildStacked (d : Definition) (built : Keyed Parser) (field : String) (s : StackedRule) :
    Except Failure (Stacked Parser) :=
  match Keyed.get? s.parser built with
  | some parser => .ok { parser, aggregation := s.aggregation, flatten := s.flatten }
  | none =>
    .error (d.failure s!"field '{field}' references undefined stacked parser '{s.parser}'")

/-- What the parser of a definition is built from. -/
def blueprint (d : Definition) (built : Keyed Parser) (base : Properties) :
    Except Failure Blueprint := do
  let resolver ← d.resolver.build
  let fields ← d.fields.mapM fun f => do
    let field ← d.buildField f
    let stacked ← f.stacked.mapM (d.buildStacked built f.name)
    return { field, stacked }
  let filters ← d.filters.mapM RecordFilterRule.build
  return { name := d.name
           resolver
           base
           properties := d.properties
           fields
           preParsers := d.preParsers.map PreParserRule.build
           filters }

/-- The parser of a definition. -/
def build (d : Definition) (built : Keyed Parser) (base : Properties) : Except Failure Parser := do
  let b ← d.blueprint built base
  b.build.mapError d.wrap

end Definition

end Intake
