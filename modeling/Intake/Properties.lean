import Intake.Failure
import Intake.Feed
import Intake.Json.Basic
import Intake.Keyed
import Intake.Text.Casing

/-!
# Properties of parsers

How a parser goes about its work, as named texts. Six names have a meaning of their own, without
regard to the case of letters; all other properties are kept as they are.

* `Properties.set`, `Properties.get?`: a property by its name.
-/

namespace Intake

/-- How a parser goes about its work. -/
structure Properties where
  /-- Locators have to find a value unless they say otherwise. -/
  requireDefault : Bool := false
  /-- How much of a feed makes one item. -/
  portion : Portion := .line
  /-- Fields are resolved after those that they refer to. -/
  arrangeFields : Bool := true
  /-- What separates the segments of a path. -/
  pathDelim : String := "."
  /-- An item without a message becomes its own message. -/
  dataAsMessage : Bool := false
  /-- The name of the parser in place of the one that it was given. -/
  parserName : Option String := none
  /-- Properties without a meaning of their own. -/
  custom : Keyed String := []
deriving DecidableEq, Repr

/-- A property with a meaning of its own. -/
inductive Property where
  | requireDefault | portion | arrangeFields | pathDelim | dataAsMessage | parserName
deriving DecidableEq, Repr

namespace Property

/-- All properties with a meaning of their own. -/
def all : List Property :=
  [requireDefault, portion, arrangeFields, pathDelim, dataAsMessage, parserName]

/-- The name of a property. -/
def name : Property → String
  | requireDefault => "RequireDefault"
  | portion => "ActivityDelim"
  | arrangeFields => "AutoArrangeFields"
  | pathDelim => "CompositeDelim"
  | dataAsMessage => "UseActivityDataAsMessageForUnset"
  | parserName => "ParserName"

/-- The property of this name, without regard to the case of letters. -/
def ofName? (s : String) : Option Property :=
  all.find? fun p => Text.eqIgnoringAsciiCase s p.name

/-- A truth value as text. -/
def boolText (b : Bool) : String := if b then "true" else "false"

/-- The truth value that a text stands for. -/
def bool (p : Property) (s : String) : Except Failure Bool :=
  match Text.lower (Text.trim s) with
  | "true" => .ok true
  | "false" => .ok false
  | _ => .error (.setting p.name s!"'{s}' is not a boolean")

end Property

/-- The portion of this name, in any case and with blanks around it; else what is wrong. -/
def Portion.ofName (s : String) : Except String Portion :=
  match Text.upper (Text.trim s) with
  | "EOL" => .ok line
  | "EOF" => .ok remainder
  | other => .error s!"'{other}' must be one of: EOL, EOF"

namespace Properties

/-- Sets a property that has a meaning of its own. -/
def setOwn (ps : Properties) (p : Property) (value : String) : Except Failure Properties :=
  match p with
  | .requireDefault => (p.bool value).map fun b => { ps with requireDefault := b }
  | .portion =>
    ((Portion.ofName value).mapError (.setting p.name)).map fun q => { ps with portion := q }
  | .arrangeFields => (p.bool value).map fun b => { ps with arrangeFields := b }
  | .pathDelim =>
    if value.isEmpty then .error (.setting p.name "must not be empty")
    else .ok { ps with pathDelim := value }
  | .dataAsMessage => (p.bool value).map fun b => { ps with dataAsMessage := b }
  | .parserName => .ok { ps with parserName := some value }

/-- Sets a property. -/
def set (ps : Properties) (name value : String) : Except Failure Properties :=
  match Property.ofName? name with
  | some p => ps.setOwn p value
  | none => .ok { ps with custom := Keyed.insert name value ps.custom }

/-- Sets properties one after the other up to the first that is refused: the properties then, and
why it was refused. -/
def setUntil (ps : Properties) : List (String × String) → Properties × Option Failure
  | [] => (ps, none)
  | (name, value) :: rest =>
    match ps.set name value with
    | .ok next => next.setUntil rest
    | .error e => (ps, some e)

/-- Sets properties one after the other. -/
def setAll (ps : Properties) (pairs : List (String × String)) : Except Failure Properties :=
  match ps.setUntil pairs with
  | (ps, none) => .ok ps
  | (_, some e) => .error e

/-- The value of a property that has a meaning of its own. -/
def own? (ps : Properties) : Property → Option String
  | .requireDefault => some (Property.boolText ps.requireDefault)
  | .portion => some ps.portion.name
  | .arrangeFields => some (Property.boolText ps.arrangeFields)
  | .pathDelim => some ps.pathDelim
  | .dataAsMessage => some (Property.boolText ps.dataAsMessage)
  | .parserName => ps.parserName

/-- The value of a property. -/
def get? (ps : Properties) (name : String) : Option String :=
  match Property.ofName? name with
  | some p => ps.own? p
  | none => Keyed.get? name ps.custom

/-- The properties as a document. -/
def toJson (ps : Properties) : Json :=
  .obj (Keyed.ofList
    [("require_default", .bool ps.requireDefault), ("activity_delim", .str ps.portion.name),
      ("auto_arrange_fields", .bool ps.arrangeFields), ("composite_delim", .str ps.pathDelim),
      ("use_activity_data_as_message", .bool ps.dataAsMessage),
      ("parser_name", ps.parserName.elim .null .str),
      ("custom", .obj (ps.custom.map fun e => (e.1, .str e.2)))])

end Properties

end Intake
