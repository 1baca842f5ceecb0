import Intake.Field
import Intake.Json.Reader
import Intake.Path
import Intake.Properties
import Intake.RawData

/-!
# Resolvers

The ways to read an item and to find values in it: as a document, as a map of names, by a regular
expression, or in a way that is given from outside.

* `Resolver.prepare`: an item made ready to find values in.
* `Resolver.find`: the value that a locator leads to, in one of the first three ways.
* `Resolver.locate`: what a locator leads to, in any way.
-/

namespace Intake

/-- What a regular expression found in an item. -/
structure Captures where
  /-- The whole match and each group. -/
  groups : List (Option String)
  named : Keyed String
  /-- Successive matches, from place one. -/
  hits : List String
deriving DecidableEq, Repr

/-- An item made ready to find values in. -/
inductive Prepared where
  /-- A text, which only ways given from outside read. -/
  | text (s : String)
  | json (doc : Json)
  | map (entries : Keyed Value)
  | captures (c : Captures)

/-- What a locator leads to. -/
structure Resolved where
  value : Option Value
  /-- The value has its form already, whatever the locator asks for. -/
  isFormatted : Bool

/-- A value that is still to get its form. -/
def Resolved.raw (v : Option Value) : Resolved :=
  ⟨v, false⟩

/-- Why an item cannot be made ready. -/
inductive Unreadable where
  /-- It is no document. -/
  | document (reason : String)
  /-- Its kind of data is not read. -/
  | kind (what : String)

/-- The failure that an item cannot be made ready. -/
def Unreadable.failure : Unreadable → Failure
  | document reason => .json reason
  | kind what => .unsupportedData what

/-- A way to read an item that is given from outside. It belongs to one parser, whose properties it
may know; of an item it sees what it has made ready, and of a locator the place and the form. -/
structure CustomResolver where
  name : String
  /-- The kinds of locators that it cannot follow. -/
  unsupported : List LocatorKind
  prepare : RawData → Except Unreadable (Option Prepared)
  /-- Why it does not take a field. -/
  objection? : Field → Option String
  defaultMessage? : Prepared → Option String
  locate : Prepared → Locator → Except String Resolved

/-- A way to read an item. -/
inductive Resolver where
  | json
  | map
  /-- `pattern` finds successive matches, which are collected only on demand, and `whole` has to
  match the whole item. -/
  | regex (pattern whole : Regex.Compiled) (collects : Bool)
  | custom (own : CustomResolver)

namespace Resolver

/-- The resolver of a regular expression. -/
def ofPattern (source : String) : Except Failure Resolver := do
  if source.isEmpty then throw (.setting "pattern" "regex pattern must not be empty")
  let pattern ← (Regex.compile source).mapError .pattern
  let whole ← (Regex.compile ("^(?:" ++ source ++ ")$")).mapError .pattern
  return regex pattern whole false

/-- The name of a resolver. -/
def name : Resolver → String
  | json => "json"
  | map => "map"
  | regex _ _ _ => "regex"
  | custom own => own.name

/-- The kinds of locators that a resolver cannot follow. -/
def unsupported : Resolver → List LocatorKind
  | json => [.index, .regexGroupNum, .regexMatchNum, .regexGroupName]
  | map => [.regexGroupNum, .regexMatchNum, .regexGroupName]
  | regex _ _ _ => [.index]
  | custom own => own.unsupported

/-- The failure that a resolver cannot read data of this kind. -/
def unreadable (r : Resolver) (raw : RawData) : Failure :=
  .unsupportedData s!"{r.name} resolver cannot parse {raw.kindName} data"

/-- A document as an item that is ready. -/
def prepareJson (raw : RawData) : Except Failure (Option Prepared) :=
  match raw, raw.characters? with
  | .json doc, _ => .ok (some (.json doc))
  | .map entries, _ => .ok (some (.json (Value.toJson (.map entries))))
  | _, some s =>
    if Text.isBlankText s then .ok none
    else
      match Json.parse? s with
      | some doc => .ok (some (.json doc))
      | none => .error (.json "not a document")
  | _, none => .error (json.unreadable raw)

/-- A map as an item that is ready; an empty one is nothing. -/
def prepareMap (raw : RawData) : Except Failure (Option Prepared) :=
  match raw.toValue?, raw with
  | some (.map entries), .map _ | some (.map entries), .json _ =>
    .ok (if entries.isEmpty then none else some (.map entries))
  | _, _ => .error (map.unreadable raw)

/-- The named groups that took part in a match. -/
def namedGroups (whole : Regex.Compiled) (m : Regex.Match) (text : Array Char) : Keyed String :=
  Keyed.ofList (whole.names.filterMap fun (name, i) => (m.group? text i).map fun s => (name, s))

/-- The successive matches, without blanks around them, after an empty place. -/
def hitsOf (pattern : Regex.Compiled) (text : Array Char) : List String :=
  "" :: (pattern.matchList text).map fun m => Text.trim ((m.group? text 0).getD "")

/-- What the regular expressions find in a text, if it matches. -/
def captures? (pattern whole : Regex.Compiled) (collects : Bool) (s : String) : Option Captures :=
  let text := s.toList.toArray
  (whole.matchFrom? text 0).map fun m =>
    { groups := (List.range whole.groups).map (m.group? text)
      named := namedGroups whole m text
      hits := if collects then hitsOf pattern text else [] }

/-- An item made ready, or nothing if there is nothing to find in it. -/
def prepare (r : Resolver) (raw : RawData) : Except Failure (Option Prepared) :=
  match r with
  | json => prepareJson raw
  | map => prepareMap raw
  | regex pattern whole collects =>
    match raw.characters? with
    | none => .error (r.unreadable raw)
    | some s =>
      .ok (if s.isEmpty then none else (captures? pattern whole collects s).map .captures)
  | custom own => (own.prepare raw).mapError Unreadable.failure

/-- The locator counts successive matches. -/
def countsMatches (l : Locator) : Bool :=
  l.kind == .regexMatchNum

/-- The locator means a group. -/
def meansGroup (l : Locator) : Bool :=
  l.kind == .label || l.kind == .regexGroupNum || l.kind == .regexGroupName

/-- Checks a field against the resolver; the first field that counts matches makes it collect
them. -/
def accept (r : Resolver) (f : Field) : Except Failure Resolver :=
  match r with
  | regex pattern whole collects =>
    if f.locators.any countsMatches && f.locators.any meansGroup then
      .error (.conflictingMapping f.name "match-number and group locators cannot be mixed")
    else .ok (regex pattern whole (collects || f.allLocators.any countsMatches))
  | custom own =>
    match own.objection? f.bare with
    | some reason => .error (.conflictingMapping f.name reason)
    | none => .ok (custom own)
  | r => .ok r

/-- The message of an item that no field gives one. -/
def defaultMessage? (r : Resolver) (data : Prepared) : Option String :=
  match r, data with
  | regex _ _ _, .captures c => (c.groups[0]?).join
  | custom own, data => own.defaultMessage? data
  | _, _ => none

/-- What may stand before a path and means the document itself. -/
def rootMark : List Char := ['$']

/-- The path that a location means, without the mark of the document. -/
def withoutRoot (location delim : String) : String :=
  match Text.stripLead rootMark location.toList with
  | none => location
  | some rest => String.ofList ((Text.stripLead delim.toList rest).getD rest)

/-- The value that a location leads to in a document. -/
def findInJson (doc : Json) (location delim : String) : Option Value :=
  (doc.follow? (Path.segments (withoutRoot location delim) delim)).bind Value.ofJson

/-- The entry that a text counts to, from one. -/
def nthValue? (entries : Keyed Value) (place : String) : Option Value :=
  match Text.count? (Text.trim place) with
  | some (i + 1) => (Keyed.values entries)[i]?
  | _ => none

/-- The value that a location leads to in a map: the entry of this very name, or else a path. -/
def findInMap (entries : Keyed Value) (location delim : String) : Option Value :=
  match Keyed.get? location entries with
  | some v => some v
  | none => (Value.map entries).follow? (Path.segments location delim)

/-- The place that a location counts to. -/
def position (location : String) : Except Failure Nat :=
  match Text.count? (Text.trim location) with
  | some n => .ok n
  | none => .error (.format location "expected a non-negative position")

/-- The text of the group with this number. -/
def group? (c : Captures) (n : Nat) : Option String :=
  (c.groups[n]?).join

/-- The text that a locator leads to among what a regular expression found. -/
def findInCaptures (c : Captures) (l : Locator) : Except Failure (Option String) :=
  match l.kind with
  | .regexGroupNum => (position l.location).map (group? c)
  | .regexMatchNum => (position l.location).map fun n => c.hits[n]?
  | .regexGroupName => .ok (Keyed.get? l.location c.named)
  | .label =>
    match Text.count? (Text.trim l.location) with
    | some n => .ok (group? c n)
    | none => .ok (Keyed.get? l.location c.named)
  | _ => .ok none

/-- The value that a locator leads to in an item, in the ways to read it that are not given from
outside. -/
def find (r : Resolver) (data : Prepared) (delim : String) (l : Locator) :
    Except Failure (Option Value) :=
  match r, data with
  | json, .json doc => .ok (findInJson doc l.location delim)
  | map, .map entries =>
    .ok (if l.kind = .index then nthValue? entries l.location
      else findInMap entries l.location delim)
  | regex _ _ _, .captures c => (findInCaptures c l).map fun s => s.map .str
  | _, _ => .ok none

/-- What a locator leads to in an item. -/
def locate (r : Resolver) (data : Prepared) (delim : String) (l : Locator) :
    Except Failure Resolved :=
  match r with
  | custom own => (own.locate data l.bare).mapError (.format l.location)
  | r => (r.find data delim l).map .raw

end Resolver

end Intake
