import Intake.PreParser
import Intake.Resolution
import Intake.Record.Delivery

/-!
# Sessions

What lasts from one item to the next: the values kept between activities, identifiers not handed out
yet, how often stateful parts of parsers were asked, and the readings taken.

* `Session.preParsed`: an item after a chain of pre-parsers.
* `Session.excludes`: the verdict of a chain of record filters.
-/

namespace Intake

/-- How often each counted part of a parser was asked. -/
abbrev Tallies := Nat → Nat

/-- What lasts from one item to the next.

There is one store of kept values, which all parsers of a session share, those stacked on fields
too. A program may give each parser a store of its own or none at all; a parser without one is one
whose store has no entries, so that nothing is kept and nothing found. -/
structure Session where
  cache : Cache
  tallies : Tallies := fun _ => 0
  ids : IdSupply
  readings : List Reading := []

/-- A computation that changes a session. -/
abbrev Run := StateM Session

/-- A computation that changes a session and can fail. What it changed before it fails stays. -/
abbrev Attempt := ExceptT Failure Run

namespace Session

/-- Takes a reading. -/
def note (r : Reading) : Run Unit :=
  modify fun s => { s with readings := s.readings ++ [r] }

/-- A result, with its readings taken. -/
def noted {α : Type} (x : Noted α) : Run α := fun s =>
  (x.value, { s with readings := s.readings ++ x.readings })

/-- How often a part was asked before; it is asked now. -/
def ask (counter : Nat) : Run Nat := fun s =>
  (s.tallies counter,
    { s with tallies := fun n => if n = counter then s.tallies n + 1 else s.tallies n })

/-- What one pre-parser makes of an item. -/
def preParse (p : PreParser) (raw : RawData) : Run (Except Failure RawData) :=
  match p with
  | .custom _ counter _ => do return p.run (← ask counter) raw
  | p => return p.run 0 raw

/-- An item after a chain of pre-parsers. One that cannot be applied is passed over, and so is one
that fails, unless it is the last. -/
def chain : List PreParser → RawData → Run (Except Failure RawData)
  | [], raw => return .ok raw
  | p :: rest, raw => do
    if p.isApplicable raw then
      match ← preParse p raw with
      | .ok next => chain rest next
      | .error e => if rest.isEmpty then return .error e else chain rest raw
    else chain rest raw

/-- An item after a chain of pre-parsers, or as it was if the last of them fails. -/
def preParsed (ps : List PreParser) (raw : RawData) : Run RawData := do
  match ← chain ps raw with
  | .ok next => return next
  | .error _ => return raw

/-- The verdict of one record filter. -/
def judge (f : RecordFilter) (r : Record) : Run (Except Failure Bool) :=
  match f with
  | .custom _ counter _ => do return f.excludes (← ask counter) r
  | f => return f.excludes 0 r

/-- One of the filters of a parser excludes the record; one that fails excludes nothing. -/
def excludes (parser : String) : List RecordFilter → Record → Run Bool
  | [], _ => return false
  | f :: rest, r => do
    match ← judge f r with
    | .ok true => return true
    | .ok false => excludes parser rest r
    | .error _ =>
      note (Reading.ofParser .filterFailures parser)
      excludes parser rest r

/-- The record with an identifier, a fresh one if it has none. -/
def identify (r : Record) : Run Record := fun s =>
  let (facts, ids) := r.facts.identified s.ids
  (r.withFacts facts, { s with ids })

/-- Keeps what the store takes from a finished record. -/
def keep (r : Record) (parser : String) : Run Unit := fun s =>
  let kept := s.cache.store r parser
  ((), { s with cache := kept.value, readings := s.readings ++ kept.readings })

end Session

end Intake
