import Intake.Parser
import Intake.Parser.Session
import Intake.Parser.Spread
import Intake.Record.Merge
import Intake.Record.Times

/-!
# Parsing

From an item to a record: the fields are filled one after the other, each value offered to the
parsers stacked on its field first; then the record is completed, filtered, identified and kept.

* `Parser.parseItem`: the record of an item, or none if there is nothing in it or a required value
  is missing.
* `Parser.parse`: the same for the next item of a feed.
-/

namespace Intake

/-- Resolution as part of an attempt. -/
def Resolving.attempt {α : Type} (x : Resolving α) : Attempt α :=
  ExceptT.mk (Session.noted x.run)

/-- What an attempt comes to, as a value. -/
def Attempt.outcome {α : Type} (x : Attempt α) : Attempt (Except Failure α) :=
  ExceptT.mk (do return .ok (← x.run))

namespace Parser

/-- Gives the record a message if it has none: that of the resolver, or the item as text. -/
def withDefaultMessage (profile : Profile) (dataAsMessage : Bool) (ctx : Context) :
    Except Failure Record :=
  match ctx.record.facts.message with
  | some _ => .ok ctx.record
  | none =>
    match (profile.resolver.defaultMessage? ctx.data).or
      (if dataAsMessage then ctx.raw.toText? else none) with
    | some s => ctx.record.set Slot.message.name (.str s)
    | none => .ok ctx.record

/-- Lets the record filters judge a complete record. -/
def judged (parser : String) (filters : List RecordFilter) (r : Record) : Run Record := do
  let r := r.withFacts { r.facts with complete := true }
  let filtered ← Session.excludes parser filters r
  if filtered then Session.note (Reading.ofParser .itemsFiltered parser)
  return r.withFacts { r.facts with filtered }

/-- Finishes the record of a whole item, its times derived: filters, identifier and kept values. -/
def finished (parser : String) (filters : List RecordFilter) (r : Record) : Run Record := do
  let r ← judged parser filters r
  if r.facts.filtered then return r
  else
    let r ← Session.identify r
    Session.keep r parser
    return r

/-- What a failure while a field was filled comes to: a missing value gives up the record, all else
the item. A fault is not even noted. -/
def giveUp (ctx : Context) (field : String) (e : Failure) : Attempt (Option Context) := do
  let parser := ctx.profile.name
  match e.inField field with
  | .fault f => throw (.fault f)
  | .missingValue missing _ =>
    if ctx.isTop then Session.note (Reading.ofField .itemsDropped parser missing)
    return none
  | e =>
    if ctx.isTop then Session.note (Reading.ofField .parseFailures parser field)
    throw e

/-- Takes the record of a stacked parser into the record of the context. One that comes to stand
inside gets its times first. -/
def takeUp (ctx : Context) (parser : String) (how : Aggregation) (flatten : Bool) (sub : Record) :
    Except Failure Context :=
  match how with
  | .merge => .ok { ctx with record := ctx.record.merge sub }
  | .relate =>
    (sub.determineTimes ctx.host.now).map fun sub =>
      { ctx with record := ctx.record.addChild parser sub flatten }

/-- The value of a field is applied element by element. -/
def isSpread (f : Field) (v : Value) : Bool :=
  f.isDynamic || (f.isSplit && v.isIterable)

mutual

/-- Parses the value of a field of another record. Data that the parser cannot read counts as
nothing to parse. -/
def parseStacked : Parser → Value → Context → Attempt (Option Record)
  | mk profile preParsers filters fields, v, outer => do
    let raw ← Session.preParsed preParsers (.ofValue v)
    match profile.resolver.prepare raw with
    | .error (.unsupportedData _) => return none
    | .error e => throw e
    | .ok none => return none
    | .ok (some data) =>
      match ← fill fields (outer.inner profile raw data) with
      | none => return none
      | some ctx =>
        let r ← withDefaultMessage profile false ctx
        return some (← judged profile.name filters r)

/-- Fills fields one after the other. None means that a required value is missing. -/
def fill : List (ParserField Parser) → Context → Attempt (Option Context)
  | [], ctx => return some { ctx with field := none }
  | ⟨f, stacked⟩ :: rest, ctx => do
    let ctx := ctx.atField f.name
    let outcome ← Attempt.outcome do
      match ← (ctx.resolveField f).attempt with
      | none => return ctx
      | some v =>
        if isSpread f v then return { ctx with record := ← (ctx.spread f v).attempt }
        else
          let (ctx, accepted) ← offer stacked v ctx
          if accepted then return ctx
          else return { ctx with record := ← ctx.record.apply f v }
    match outcome with
    | .ok ctx => fill rest ctx
    | .error e => giveUp ctx f.name e

/-- Offers a value to stacked parsers, and says whether one of them accepted it. -/
def offer : List (Stacked Parser) → Value → Context → Attempt (Context × Bool)
  | [], _, ctx => return (ctx, false)
  | ⟨parser, how, flatten⟩ :: rest, v, ctx => do
    match ← parseStacked parser v ctx with
    | none => offer rest v ctx
    | some sub =>
      let ctx ← takeUp ctx parser.name how flatten sub
      let (ctx, _) ← offer rest v ctx
      return (ctx, true)

end

/-- The record of an item of its own. -/
def parseItem (p : Parser) (host : Host) (source : Source) (metadata : Keyed Value)
    (item : RawData) : Attempt (Option Record) := do
  let raw ← Session.preParsed p.preParsers item
  match ← p.profile.resolver.prepare raw with
  | none => return none
  | some data =>
    let ctx : Context :=
      { host
        cache := (← get).cache
        profile := p.profile
        source
        raw
        data
        metadata
        record := .blank
        field := none
        outer := [] }
    match ← fill p.fields ctx with
    | none => return none
    | some ctx =>
      let r ← withDefaultMessage p.profile p.profile.properties.dataAsMessage ctx
      let r ← finished p.name p.filters (← r.determineTimes host.now)
      Session.note (Reading.ofParser .itemsParsed p.name)
      return some (r.withFacts { r.facts with parentId := r.facts.parentId.or source.groupId })

/-- What became of an input: the record of its next item, the input after it, and the session. -/
structure Outcome where
  result : Except Failure (Option Record)
  input : RawData
  session : Session

/-- The record of an item, or of the next item of a feed. -/
def parse (p : Parser) (host : Host) (source : Source) (metadata : Keyed Value)
    (input : RawData) (session : Session) : Outcome :=
  let (item, input) := input.next p.profile.properties.portion
  match item with
  | .error e => ⟨.error e, input, session⟩
  | .ok none => ⟨.ok none, input, session⟩
  | .ok (some item) =>
    let (result, session) := (p.parseItem host source metadata item).run.run session
    ⟨result, input, session⟩

end Parser

end Intake
