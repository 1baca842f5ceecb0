import Intake.Cache
import Intake.Resolver

/-!
# Contexts

What locators can see while one item is read: the item, the record made so far, the records around
it, and the world outside.
-/

namespace Intake

/-- The world that a parser runs in. -/
structure Host where
  /-- The time. -/
  now : Instant
  /-- The variables of the environment. -/
  env : String → Option String
  os : String := "linux"
  arch : String := "x86_64"
  workingDir : Option String := none
  processId : Option Nat := none

namespace Host

/-- A property of the host; a name without a meaning is that of an environment variable. -/
def property? (h : Host) (name : String) : Option String :=
  match name with
  | "os.name" => some h.os
  | "os.arch" => some h.arch
  | "file.separator" => some "/"
  | "line.separator" => some "\n"
  | "user.dir" => h.workingDir
  | "user.name" => (h.env "USER").or (h.env "USERNAME")
  | "tmp.dir" => some ((h.env "TMPDIR").getD "/tmp")
  | "process.id" => h.processId.map toString
  | other => h.env other

end Host

/-- What a parser is, apart from its fields. -/
structure Profile where
  name : String
  properties : Properties
  resolver : Resolver

/-- What locators can see while one item is read. -/
structure Context where
  host : Host
  cache : Cache
  profile : Profile
  source : Source
  /-- The item, as the pre-parsers left it. -/
  raw : RawData
  data : Prepared
  metadata : Keyed Value
  /-- The record made so far. -/
  record : Record
  /-- The field being filled. -/
  field : Option String
  /-- The records around this one that are being made, from the inside out. -/
  outer : List Record

namespace Context

/-- The record is not inside another one. -/
def isTop (ctx : Context) : Bool :=
  ctx.outer.isEmpty

/-- What transforms and value filters can see. -/
def bindings (ctx : Context) : Bindings where
  value := ctx.record.get?
  field := ctx.field
  property name := Keyed.get? name ctx.profile.properties.custom

/-- The context while a field is filled. -/
def atField (ctx : Context) (name : String) : Context :=
  { ctx with field := some name }

/-- The context for an item inside this one, with a new record. -/
def inner (ctx : Context) (profile : Profile) (raw : RawData) (data : Prepared) : Context :=
  { ctx with
    profile
    raw
    data
    record :=
      .mk { ordinal := (ctx.record.childrenOf profile.name).length + 1 } []
    field := none
    outer := ctx.record :: ctx.outer }

end Context

end Intake
