import Intake.Context

/-!
# Resolution

The values that the locators of a field find in a context.

* `Context.lookup`: what stands where a locator points to.
* `Context.resolve`: the value of one locator, transformed, brought into its form and filtered.
* `Context.resolveField`: the values of all locators of a field as one.
-/

namespace Intake

/-- A computation that can fail and takes readings on its way. -/
abbrev Resolving := ExceptT Failure Noted

namespace Context

/-- How many records further out a name points, and the name there. -/
def outward : List Char → Nat × List Char
  | '^' :: '.' :: rest =>
    let (depth, name) := outward rest
    (depth + 1, name)
  | cs => (0, cs)

/-- The value of a field of this record or of one around it. -/
def fieldValue? (ctx : Context) (name : String) : Option Value :=
  let (depth, own) := outward name.toList
  ((ctx.record :: ctx.outer)[depth]?).bind fun r => r.get? (String.ofList own)

/-- A text with placeholders for fields. One that is a placeholder alone is the value itself. -/
def expressionValue (ctx : Context) (template : String) : Value :=
  ((Template.soleVar? template).bind ctx.fieldValue?).getD
    (.str (Template.fill template fun name => (ctx.fieldValue? name).map Value.text).1)

/-- The value that a path leads to in the metadata. -/
def metadataValue? (ctx : Context) (path : String) : Option Value :=
  (Value.map ctx.metadata).follow? (Path.segments path ctx.profile.properties.pathDelim)

/-- What stands where a locator points to, if it names a place. -/
def namedValue (ctx : Context) (l : Locator) : Resolving Resolved :=
  match l.kind with
  | .streamProp => return .raw (Keyed.get? l.location ctx.source.properties)
  | .parserProp => return .raw ((ctx.profile.properties.get? l.location).map .str)
  | .systemProp => return .raw ((ctx.host.property? l.location).map .str)
  | .envVariable => return .raw ((ctx.host.env l.location).map .str)
  | .cache => return .raw (← ctx.cache.findNoted ctx.record l.location ctx.profile.name)
  | .activity => return .raw (ctx.fieldValue? l.location)
  | .expression => return .raw (some (ctx.expressionValue l.location))
  | _ =>
    ExceptT.mk (pure (ctx.profile.resolver.locate ctx.data ctx.profile.properties.pathDelim l))

/-- What stands where a locator points to. -/
def lookup (ctx : Context) (l : Locator) : Resolving Resolved :=
  if l.isWholeData then return .raw ctx.raw.toValue?
  else
    match l.metadataPath? ctx.profile.properties.pathDelim with
    | some path => return .raw (ctx.metadataValue? path)
    | none => if l.location.isEmpty then return .raw none else ctx.namedValue l

/-- The value after the transforms of a phase; one that fails changes nothing. -/
def transformed (ctx : Context) (l : Locator) (phase : Phase) (v : Option Value) :
    Noted (Option Value) :=
  (l.transformsOf phase).foldlM
    (fun v t => do
      match t.run v ctx.bindings with
      | .ok next => return next
      | .error _ =>
        Noted.note
          { metric := .transformFailures
            labels :=
              [(Reading.parserLabel, ctx.profile.name), (Reading.phaseLabel, phase.name)] }
        return v)
    v

/-- One of the filters excludes the value; one that fails excludes nothing. -/
def excludes (ctx : Context) (filters : List ValueFilter) (v : Option Value) : Noted Bool :=
  match filters with
  | [] => return false
  | f :: rest => do
    match f.excludes v ctx.bindings with
    | .ok true => return true
    | .ok false => ctx.excludes rest v
    | .error _ =>
      Noted.note (Reading.ofParser .filterFailures ctx.profile.name)
      ctx.excludes rest v

/-- The value in the form that the locator asks for, unless it has its form already. -/
def formatted (l : Locator) (isFormatted : Bool) : Option Value → Except Failure (Option Value)
  | none => .ok none
  | some v => if isFormatted then .ok (some v) else (l.format v).map some

/-- The value, unless it holds nothing and the locator takes that for none. -/
def withoutBlank (l : Locator) (v : Option Value) : Option Value :=
  if l.emptyAsNull && v.any Value.isBlank then none else v

/-- The value of a locator. -/
def resolve (ctx : Context) (l : Locator) : Resolving (Option Value) := do
  let found ← ctx.lookup l
  let v ← ctx.transformed l .raw (withoutBlank l found.value)
  let v ← formatted l found.isFormatted v
  let v ← ctx.transformed l .formatted v
  let excluded ← ctx.excludes l.filters v
  return if excluded then none else v

/-- The value of a locator of a field, which may have to be there. -/
def resolveFor (ctx : Context) (f : Field) (l : Locator) : Resolving (Option Value) := do
  let v ← ctx.resolve l
  if v.isNone && l.isRequired (f.requires ctx.profile.properties.requireDefault) then
    throw (.missingValue f.name l.location)
  return v

/-- The values of all locators of a field as one. -/
def resolveField (ctx : Context) (f : Field) : Resolving (Option Value) := do
  let found ← f.locators.mapM (ctx.resolveFor f)
  return Value.simplify found

end Context

end Intake
