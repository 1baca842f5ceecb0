/-!
# Failures

What can go wrong when parsers are built and when they run.

* `Fault`: what nothing handles, so that the program stops.
* `Failure.message`: a failure in words.
* `Failure.kind`: the name of its kind.
* `Failure.isConfiguration`: the failures that keep a parser from being built.
* `Failure.report`: a failure as the callers of the whole library see it.
-/

namespace Intake

/-- Why the program stops on the spot. -/
inductive Fault where
  /-- A difference is no 64-bit integer. -/
  | overflow
  /-- No instant can be written under the pattern. -/
  | unprintable (pattern : String)
deriving DecidableEq, Repr

/-- What a fault is reported with as the program stops. -/
def Fault.message : Fault → String
  | overflow => "attempt to subtract with overflow"
  | unprintable _ => "a Display implementation returned an error unexpectedly: Error"

/-- What went wrong. -/
inductive Failure where
  /-- A field of this name exists already. -/
  | duplicateField (field : String)
  /-- A field refers to a name that no field has. -/
  | unknownReference (field reference : String)
  /-- Fields refer to each other in a circle. -/
  | cyclicDependency (field : String)
  /-- The resolver of the parser cannot follow a locator of this kind. -/
  | unsupportedLocator (field kind : String)
  /-- Locators of one field exclude each other. -/
  | conflictingMapping (field reason : String)
  /-- A setting has a value that it cannot have. -/
  | setting (name reason : String)
  /-- A parser definition cannot be read. -/
  | definition (path reason : String)
  /-- A required locator found nothing, so the item is dropped. -/
  | missingValue (field locator : String)
  /-- A value cannot be brought into the form that its locator asks for. -/
  | format (locator reason : String)
  /-- A field cannot be resolved or applied. -/
  | field (name reason : String)
  /-- A transform failed. -/
  | transform (name reason : String)
  /-- A filter failed. -/
  | filter (name reason : String)
  /-- A parser cannot read data of this kind. -/
  | unsupportedData (what : String)
  /-- A pre-parser failed. -/
  | preParse (name reason : String)
  /-- Reading from a file or a feed failed. -/
  | io (reason : String)
  /-- A regular expression cannot be read. -/
  | pattern (reason : String)
  /-- A document cannot be read. -/
  | json (reason : String)
  /-- The program stops: this one is handled nowhere, and nothing comes after it. -/
  | fault (f : Fault)
deriving DecidableEq, Repr

/-- What went wrong, as the callers of the whole library see it. -/
inductive Report where
  | configNotFound (path : String)
  | configUnreadable (reason : String)
  | invalidSetting (name reason : String)
  | fieldFailed (field reason : String)
  | missingValue (field locator : String)
  | unsupportedData (what : String)
  | io (reason : String)
deriving DecidableEq, Repr

namespace Failure

/-- The failure in words. -/
def message : Failure → String
  | duplicateField f => s!"duplicate field: {f}"
  | unknownReference f r => s!"unknown field reference: field '{f}' references '{r}'"
  | cyclicDependency f => s!"cyclic field dependency involving '{f}'"
  | unsupportedLocator f k => s!"unsupported locator kind '{k}' in field '{f}'"
  | conflictingMapping f r => s!"conflicting locator mapping in field '{f}': {r}"
  | setting n r => s!"config error: {n}: {r}"
  | definition p r => s!"definition error: {p}: {r}"
  | missingValue f l => s!"required value missing for field '{f}' (locator '{l}')"
  | format l r => s!"format error: locator '{l}': {r}"
  | field f r => s!"failed to parse field '{f}': {r}"
  | transform n r => s!"transform '{n}' failed: {r}"
  | filter n r => s!"filter '{n}' failed: {r}"
  | unsupportedData w => s!"unsupported activity data: {w}"
  | preParse n r => s!"pre-parser '{n}' failed: {r}"
  | io r => s!"io error: {r}"
  | pattern r => s!"regex error: {r}"
  | json r => s!"json error: {r}"
  | fault f => f.message

/-- The name of the kind of failure. -/
def kind : Failure → String
  | duplicateField .. => "DuplicateField"
  | unknownReference .. => "UnknownReference"
  | cyclicDependency .. => "CyclicDependency"
  | unsupportedLocator .. => "UnsupportedLocator"
  | conflictingMapping .. => "ConflictingMapping"
  | setting .. => "Config"
  | definition .. => "Definition"
  | missingValue .. => "MissingValue"
  | format .. => "Format"
  | field .. => "ParseFailed"
  | transform .. => "Transform"
  | filter .. => "Filter"
  | unsupportedData .. => "UnsupportedData"
  | preParse .. => "PreParse"
  | io .. => "Io"
  | pattern .. => "Regex"
  | json .. => "Json"
  | fault .. => "Panic"

/-- The failure keeps a parser from being built. -/
def isConfiguration : Failure → Bool
  | duplicateField _ | unknownReference _ _ | cyclicDependency _ | unsupportedLocator _ _
  | conflictingMapping _ _ | setting _ _ | definition _ _ => true
  | _ => false

/-- The failure with the field that it happened in. A dropped item, a configuration, a failure
that names its field already and a fault stay as they are. -/
def inField (name : String) (f : Failure) : Failure :=
  match f with
  | missingValue _ _ | field _ _ | fault _ => f
  | f => if f.isConfiguration then f else field name f.message

/-- The failure as the callers of the whole library see it. -/
def report (f : Failure) : Report :=
  match f with
  | missingValue f l => .missingValue f l
  | io r => .io r
  | field n r => .fieldFailed n r
  | unsupportedData w => .unsupportedData w
  | f =>
    if f.isConfiguration then .invalidSetting "engine" f.message else .fieldFailed "" f.message

end Failure

namespace Report

/-- The name of the kind of report, after the part of the library that it is about. -/
def kind : Report → String
  | configNotFound .. => "Config.FileNotFound"
  | configUnreadable .. => "Config.ParseFailed"
  | invalidSetting .. => "Config.InvalidValue"
  | fieldFailed .. => "Parse.Failed"
  | missingValue .. => "Parse.MissingValue"
  | unsupportedData .. => "Parse.UnsupportedData"
  | io .. => "Io"

/-- The report in words. -/
def message : Report → String
  | configNotFound p => s!"config error: config file not found: {p}"
  | configUnreadable r => s!"config error: failed to parse config: {r}"
  | invalidSetting n r => s!"config error: invalid config value for '{n}': {r}"
  | fieldFailed f r => s!"parse error: failed to parse field '{f}': {r}"
  | missingValue f l => s!"parse error: required value missing for field '{f}' (locator '{l}')"
  | unsupportedData w => s!"parse error: unsupported raw data: {w}"
  | io r => s!"io error: {r}"

end Report

end Intake
