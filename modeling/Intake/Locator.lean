import Intake.Condition
import Intake.Text.Base64
import Intake.Text.Hex

/-!
# Locators

Rules that point to one value: where it stands, what form it is to have, and what is done to it on
the way.

* `Locator.format`: a value in the form that the locator asks for.
* `Locator.references`: the fields that the locator reads.
-/

namespace Intake

/-- Where a locator looks. -/
inductive LocatorKind where
  /-- A name or path in the prepared data. -/
  | label
  /-- A place in the prepared data, from one. -/
  | index
  | regexGroupNum
  /-- A place among successive matches, from one. -/
  | regexMatchNum
  | regexGroupName
  /-- A property of the source. -/
  | streamProp
  /-- A property of the parser. -/
  | parserProp
  /-- A property of the process. -/
  | systemProp
  | envVariable
  /-- A value kept from earlier activities. -/
  | cache
  /-- A field of this record or of one around it. -/
  | activity
  /-- A text with placeholders for fields. -/
  | expression
  /-- The whole input. -/
  | data
  /-- The metadata or a path in it. -/
  | metadata
deriving DecidableEq, Repr

namespace LocatorKind

/-- All kinds. -/
def all : List LocatorKind :=
  [label, index, regexGroupNum, regexMatchNum, regexGroupName, streamProp, parserProp, systemProp,
    envVariable, cache, activity, expression, data, metadata]

/-- The name of a kind. -/
def name : LocatorKind → String
  | label => "Label"
  | index => "Index"
  | regexGroupNum => "RegexGroupNum"
  | regexMatchNum => "RegexMatchNum"
  | regexGroupName => "RegexGroupName"
  | streamProp => "StreamProp"
  | parserProp => "ParserProp"
  | systemProp => "SystemProp"
  | envVariable => "EnvVariable"
  | cache => "Cache"
  | activity => "Activity"
  | expression => "Expression"
  | data => "Data"
  | metadata => "Metadata"

/-- The kind of this name. -/
def ofName? (s : String) : Option LocatorKind :=
  all.find? (·.name == s)

end LocatorKind

/-- The form that a value is to have. -/
inductive DataType where
  | string | number | binary | dateTime | timestamp
  /-- A number if it can be read as one. -/
  | generic
  /-- As it was found. -/
  | asInput
deriving DecidableEq, Repr

namespace DataType

/-- All forms. -/
def all : List DataType :=
  [string, number, binary, dateTime, timestamp, generic, asInput]

/-- The name of a form. -/
def name : DataType → String
  | string => "String"
  | number => "Number"
  | binary => "Binary"
  | dateTime => "DateTime"
  | timestamp => "Timestamp"
  | generic => "Generic"
  | asInput => "AsInput"

/-- The form of this name. -/
def ofName? (s : String) : Option DataType :=
  all.find? (·.name == s)

end DataType

/-- A rule that points to one value. -/
structure Locator where
  kind : LocatorKind := .label
  /-- Where the value stands. -/
  location : String
  dataType : DataType := .string
  pattern : Option String := none
  units : Option TimeUnit := none
  /-- Texts for values; the key `*` stands for all others. -/
  valueMap : Keyed String := []
  required : Option Bool := none
  emptyAsNull : Bool := true
  transforms : List Transform := []
  filters : List ValueFilter := []

namespace Locator

/-- How texts become instants and instants become text. -/
def timeFormat (l : Locator) : TimeFormat :=
  ⟨l.pattern, l.units⟩

/-- The locator has to find a value. -/
def isRequired (l : Locator) (default : Bool) : Bool :=
  l.required.getD default

/-- The place that the locator points to and the form that it asks for, without what else is done
with a value. -/
def bare (l : Locator) : Locator :=
  { l with
    required := none
    transforms := []
    filters := [] }

/-- The transforms of one phase. -/
def transformsOf (l : Locator) (phase : Phase) : List Transform :=
  l.transforms.filter (·.phase = phase)

/-- The locator with the placeholders of its location filled. -/
def filled (l : Locator) (lookup : String → Option String) : Locator :=
  { l with location := (Template.fill l.location lookup).1 }

/-- The fields that the locator itself reads. -/
def ownReferences (l : Locator) : List String :=
  match l.kind with
  | .activity => [l.location]
  | .expression => Template.vars l.location
  | _ => []

/-- The fields that the locator reads, with its transforms and filters. -/
def references (l : Locator) : List String :=
  l.ownReferences ++ l.transforms.flatMap Transform.references ++
    l.filters.flatMap ValueFilter.references

/-- The key of the text for all other values. -/
def catchAll : String := "*"

/-- The text that stands for a value, or the value. -/
def mapValue (l : Locator) (v : Value) : Value :=
  if l.valueMap.isEmpty then v
  else match (Keyed.get? v.text l.valueMap).or (Keyed.get? catchAll l.valueMap) with
    | some s => .str s
    | none => v

/-- The failure that a value has not the right form. -/
def formFailure (l : Locator) (reason : String) : Failure :=
  .format l.location reason

/-- A value as text. -/
def toText (l : Locator) : Value → Except Failure String
  | .str s => .ok s
  | .bytes bs =>
    match l.pattern with
    | some "base64" => .ok (Text.Base64.encode bs)
    | some "hexBinary" | some "hex" => .ok (Text.Hex.encode bs)
    | _ => .ok (Text.Utf8.decodeLossy bs)
  | .instant t => l.timeFormat.format t
  | v => .ok v.text

/-- A number without blanks around it. -/
def numberOf? (s : String) : Option Value :=
  match Text.int64? s with
  | some i => some (.int i)
  | none => (Text.real? s).map .float

/-- What kind of number a pattern asks for: true for whole numbers. -/
def wantsWhole? (pattern : Option String) : Option Bool :=
  match pattern.map Text.lower with
  | some "int" | some "integer" | some "long" | some "short" | some "byte" => some true
  | some "double" | some "float" | some "decimal" => some false
  | _ => none

/-- A value as a number. -/
def toNumber (l : Locator) (v : Value) : Except Failure Value := do
  let number ← match v with
    | .int _ | .float _ => pure v
    | .bool b => pure (Value.int (if b then 1 else 0))
    | .instant t => pure (Value.int t.micros)
    | .str s =>
      let s := Text.trim s
      match numberOf? s with
      | some n => pure n
      | none => throw (l.formFailure ("'" ++ s ++ "' is not a number"))
    | v => throw (l.formFailure ("'" ++ v.text ++ "' is not a number"))
  match wantsWhole? l.pattern, number with
  | some true, .float x =>
    if Value.isWhole x then return .int (Value.truncate x)
    else throw (l.formFailure ("'" ++ Decimal.plainText x ++ "' is not an integer"))
  | some false, .int i => return .float i.toFloat
  | _, number => return number

/-- A value as bytes. -/
def toBinary (l : Locator) (v : Value) : Except Failure Value :=
  match v with
  | .bytes bs => .ok (.bytes bs)
  | v =>
    let s := v.text
    match l.pattern with
    | some "base64" =>
      match Text.Base64.decode (Text.Utf8.encode (Text.trim s)) with
      | some bs => .ok (.bytes bs)
      | none => .error (l.formFailure "invalid base64: not a run of padded groups")
    | some "hexBinary" | some "hex" =>
      match Text.Hex.decode (Text.trim s) with
      | .ok bs => .ok (.bytes bs)
      | .error e => .error (l.formFailure ("invalid hex: " ++ e.message))
    | _ => .ok (.bytes (Text.Utf8.encode s))

/-- A value that is no list or map in the form of the locator. -/
def coerce (l : Locator) (v : Value) : Except Failure Value :=
  match l.dataType with
  | .asInput => .ok v
  | .string => (l.toText v).map .str
  | .number => l.toNumber v
  | .binary => l.toBinary v
  | .dateTime | .timestamp => ((l.timeFormat.parse v).mapError l.formFailure).map .instant
  | .generic =>
    match v with
    | .str s => .ok ((numberOf? (Text.trim s)).getD (.str s))
    | v => .ok v

mutual

/-- A value in the form of the locator, lists and maps element by element. -/
def format (l : Locator) : Value → Except Failure Value
  | .list items => (formatItems l items).map .list
  | .map entries => (formatEntries l entries).map .map
  | v => l.coerce (l.mapValue v)

/-- The elements of a list in the form of the locator. -/
def formatItems (l : Locator) : List Value → Except Failure (List Value)
  | [] => .ok []
  | v :: rest => do
    let v ← format l v
    return v :: (← formatItems l rest)

/-- The entries of a map in the form of the locator. -/
def formatEntries (l : Locator) : List (String × Value) → Except Failure (List (String × Value))
  | [] => .ok []
  | (key, v) :: rest => do
    let v ← format l v
    return (key, v) :: (← formatEntries l rest)

end

/-- The location that means the whole input. -/
def dataName : String := "$DATA$"

/-- What a location in the metadata starts with. -/
def metadataName : String := "$METADATA$"

/-- The locator means the whole input. -/
def isWholeData (l : Locator) : Bool :=
  l.kind == .data || l.location == dataName

/-- The path in the metadata, if the locator means them. -/
def metadataPath? (l : Locator) (delim : String) : Option String :=
  if l.kind = .metadata then some l.location
  else
    match Text.stripLead metadataName.toList l.location.toList with
    | none => none
    | some [] => some ""
    | some rest => (Text.stripLead delim.toList rest).map String.ofList

end Locator

end Intake
