import Intake.Failure
import Intake.Json.Basic
import Intake.Properties
import Intake.Readable
import Intake.Toml.Reader

/-!
# Settings

What the whole program starts from: settings for its log and defaults for parsers. They are read
from a file, may be overridden by the environment, and are checked.

* `Settings.load`: file, environment, check.
* `Settings.toJson`: the settings as a document.
-/

namespace Intake

/-- Settings for the log. -/
structure LogSettings where
  level : String := "info"
  format : String := "json"
deriving DecidableEq, Repr

/-- Defaults for parsers. -/
structure EngineSettings where
  requireAll : Bool := false
  arrangeFields : Bool := true
  /-- The name of how much of a feed makes one item. -/
  portion : String := "EOL"
  pathDelim : String := "."
  dataAsMessage : Bool := false
  /-- How many values are kept between activities. -/
  cacheCapacity : Nat := 10000
  /-- Where definitions stand. -/
  definitionsDir : String := "/etc/actistream/parsers"
deriving DecidableEq, Repr

/-- What the whole program starts from. -/
structure Settings where
  general : LogSettings := {}
  engine : EngineSettings := {}
deriving DecidableEq, Repr

open Readable

variable {ν : Type} [Readable ν]

/-- The settings for the log that a value holds. -/
def LogSettings.read? (v : ν) : Option LogSettings := do
  let ms ← membersOf? ["log_level", "log_format"] v
  let level ← ms.orElse? "log_level" "info" text?
  let format ← ms.orElse? "log_format" "json" text?
  return { level, format }

namespace EngineSettings

/-- The defaults for parsers that a value holds. -/
def read? (v : ν) : Option EngineSettings := do
  let d : EngineSettings := {}
  let ms ← membersOf? ["require_all", "auto_arrange_fields", "activity_delim", "composite_delim",
    "use_activity_data_as_message", "cache_max_entries", "definitions_dir"] v
  let requireAll ← ms.orElse? "require_all" d.requireAll bool?
  let arrangeFields ← ms.orElse? "auto_arrange_fields" d.arrangeFields bool?
  let portion ← ms.orElse? "activity_delim" d.portion text?
  let pathDelim ← ms.orElse? "composite_delim" d.pathDelim text?
  let dataAsMessage ← ms.orElse? "use_activity_data_as_message" d.dataAsMessage bool?
  let cacheCapacity ← ms.orElse? "cache_max_entries" d.cacheCapacity count?
  let definitionsDir ← ms.orElse? "definitions_dir" d.definitionsDir text?
  return { requireAll, arrangeFields, portion, pathDelim, dataAsMessage, cacheCapacity,
           definitionsDir }

/-- The properties that parsers start from; an unknown portion counts as a line. -/
def properties (e : EngineSettings) : Properties where
  requireDefault := e.requireAll
  portion := (Portion.ofName e.portion).toOption.getD .line
  arrangeFields := e.arrangeFields
  pathDelim := e.pathDelim
  dataAsMessage := e.dataAsMessage

end EngineSettings

namespace Settings

/-- The settings that a value holds. -/
def read? (v : ν) : Option Settings := do
  let ms ← membersOf? ["general", "engine"] v
  let general ← ms.orElse? "general" {} LogSettings.read?
  let engine ← ms.orElse? "engine" {} EngineSettings.read?
  return { general, engine }

/-- The settings in a TOML text. -/
def parse (content : String) : Except Report Settings :=
  match (Toml.Datum.ofText? content).bind read? with
  | some s => .ok s
  | none => .error (.configUnreadable "not a table of settings")

/-- The settings as a document, under the names that they have in a file. -/
def toJson (s : Settings) : Json :=
  let general := Keyed.ofList
    [("log_level", Json.str s.general.level), ("log_format", .str s.general.format)]
  let engine := Keyed.ofList
    [("require_all", Json.bool s.engine.requireAll),
      ("auto_arrange_fields", .bool s.engine.arrangeFields),
      ("activity_delim", .str s.engine.portion), ("composite_delim", .str s.engine.pathDelim),
      ("use_activity_data_as_message", .bool s.engine.dataAsMessage),
      ("cache_max_entries", .int s.engine.cacheCapacity),
      ("definitions_dir", .str s.engine.definitionsDir)]
  .obj (Keyed.ofList [("general", .obj general), ("engine", .obj engine)])

/-- The truth value of a text that is nothing else. -/
def exactBool? (s : String) : Option Bool :=
  if s = "true" then some true else if s = "false" then some false else none

/-- The value of a variable that is set and can be read, or else the given one. -/
def override {α : Type} (env : String → Option String) (name : String) (read? : String → Option α)
    (given : α) : α :=
  ((env name).bind read?).getD given

/-- The settings with those of the environment in their place. Values that cannot be read are passed
over. -/
def withEnv (s : Settings) (env : String → Option String) : Settings where
  general :=
    { level := override env "ACTISTREAM_GENERAL_LOG_LEVEL" some s.general.level
      format := override env "ACTISTREAM_GENERAL_LOG_FORMAT" some s.general.format }
  engine :=
    { requireAll := override env "ACTISTREAM_ENGINE_REQUIRE_ALL" exactBool? s.engine.requireAll
      arrangeFields :=
        override env "ACTISTREAM_ENGINE_AUTO_ARRANGE_FIELDS" exactBool? s.engine.arrangeFields
      portion := override env "ACTISTREAM_ENGINE_ACTIVITY_DELIM" some s.engine.portion
      pathDelim := override env "ACTISTREAM_ENGINE_COMPOSITE_DELIM" some s.engine.pathDelim
      dataAsMessage :=
        override env "ACTISTREAM_ENGINE_USE_ACTIVITY_DATA_AS_MESSAGE" exactBool?
          s.engine.dataAsMessage
      cacheCapacity :=
        override env "ACTISTREAM_ENGINE_CACHE_MAX_ENTRIES" Text.count? s.engine.cacheCapacity
      definitionsDir := override env "ACTISTREAM_ENGINE_DEFINITIONS_DIR" some
        s.engine.definitionsDir }

/-- The names of levels of the log. -/
def levels : List String := ["trace", "debug", "info", "warn", "error"]

/-- The names of formats of the log. -/
def formats : List String := ["json", "pretty"]

/-- The names of portions of a feed. -/
def portions : List String := ["EOL", "EOF"]

/-- What a setting of a few names has to be. -/
def choice (names : List String) : String :=
  "must be one of: " ++ String.intercalate ", " names

/-- The first setting with a value that it cannot have. -/
def fault? (s : Settings) : Option Report :=
  if !levels.contains s.general.level then
    some (.invalidSetting "general.log_level" (choice levels))
  else if !formats.contains s.general.format then
    some (.invalidSetting "general.log_format" (choice formats))
  else if !portions.any (Text.eqIgnoringAsciiCase · s.engine.portion) then
    some (.invalidSetting "engine.activity_delim" (choice portions))
  else if s.engine.pathDelim.isEmpty then
    some (.invalidSetting "engine.composite_delim" "delimiter must not be empty")
  else if s.engine.cacheCapacity = 0 then
    some (.invalidSetting "engine.cache_max_entries" "must be greater than 0")
  else none

/-- The settings, if all of them have a value that they can have. -/
def validate (s : Settings) : Except Report Settings :=
  match s.fault? with
  | some r => .error r
  | none => .ok s

/-- What reading a file comes to. -/
inductive FileText where
  | text (s : String)
  | missing
  | failed (reason : String)

/-- The settings in a file at `path`. -/
def ofFile (path : String) : FileText → Except Report Settings
  | .missing => .error (.configNotFound path)
  | .failed reason => .error (.io reason)
  | .text s => (parse s).bind validate

/-- The settings in a file at `path`, with those of the environment in their place. -/
def load (path : String) (file : FileText) (env : String → Option String) :
    Except Report Settings := do
  let s ← ofFile path file
  (s.withEnv env).validate

end Settings

namespace LogSettings

/-- The parts of the program that the level of the log is for. -/
def ownTargets : List String := ["actistream_core", "actistream_engine"]

/-- Which messages the log takes: warnings from everywhere, and from `ownTargets` and `extra` those
of the level. -/
def directives (l : LogSettings) (extra : List String) : String :=
  let level := Text.lowerAscii (Text.trim l.level)
  (ownTargets ++ extra).foldl (fun acc target => acc ++ "," ++ target ++ "=" ++ level) "warn"

/-- Why the log cannot be started in this format. -/
def formatFault? (l : LogSettings) : Option String :=
  if Settings.formats.contains l.format then none
  else some s!"unknown log format '{l.format}', expected 'json' or 'pretty'"

end LogSettings

end Intake
