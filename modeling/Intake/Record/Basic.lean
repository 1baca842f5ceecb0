import Intake.Record.Slot
import Intake.Record.Severity
import Intake.Record.EventType
import Intake.Record.Completion
import Intake.Failure
import Intake.TimeFormat

/-!
# Records

What a parser makes of one item: facts about an activity, and records of activities inside it.

* `Facts.get?`: the value of a field by its name.
* `Facts.set`: a field set by its name. A blank text leaves a text slot alone, other slots take the
  value or refuse it, the collections grow, and any other name is a property.
-/

namespace Intake

/-- What is known about one activity. A missing elapsed time is negative, a missing reason code
zero. -/
structure Facts where
  serverName : Option String := none
  serverIp : Option String := none
  applName : Option String := none
  userName : Option String := none
  resourceName : Option String := none
  eventName : Option String := none
  eventType : Option EventType := none
  startTime : Option Instant := none
  endTime : Option Instant := none
  /-- Microseconds. -/
  elapsedTime : Int64 := -1
  compCode : Option Completion := none
  reasonCode : Int64 := 0
  exception : Option String := none
  severity : Option Severity := none
  location : Option String := none
  trackingId : Option String := none
  parentId : Option String := none
  correlators : List String := []
  tags : List String := []
  message : Option String := none
  msgCharSet : Option String := none
  msgEncoding : Option String := none
  msgMimeType : Option String := none
  msgLength : Option Int64 := none
  processId : Option Int64 := none
  threadId : Option Int64 := none
  category : Option String := none
  /-- Fields that are no slots. -/
  properties : Keyed Value := []
  /-- A record filter has excluded the activity. -/
  filtered : Bool := false
  /-- The parser has finished with the activity. -/
  complete : Bool := false
  /-- The place among the records of one parser inside another record, from one. -/
  ordinal : Nat := 0
deriving Inhabited

/-- A record inside another one. -/
structure Nested (ρ : Type) where
  record : ρ
  /-- The record is delivered beside the outer one and not inside it. -/
  flatten : Bool

/-- The facts about an activity, and the records inside it by the name of their parser. -/
inductive Record where
  | mk (facts : Facts) (children : List (String × List (Nested Record)))

/-- A record inside another one. -/
abbrev Child := Nested Record

namespace Facts

/-- The texts as a list, if there are any. -/
def listOf? (texts : List String) : Option Value :=
  if texts.isEmpty then none else some (.list (texts.map .str))

/-- The value in a slot. -/
def slot? (f : Facts) : Slot → Option Value
  | .applName => f.applName.map .str
  | .serverName => f.serverName.map .str
  | .serverIp => f.serverIp.map .str
  | .eventName => f.eventName.map .str
  | .resourceName => f.resourceName.map .str
  | .location => f.location.map .str
  | .userName => f.userName.map .str
  | .exception => f.exception.map .str
  | .trackingId => f.trackingId.map .str
  | .parentId => f.parentId.map .str
  | .msgCharSet => f.msgCharSet.map .str
  | .msgEncoding => f.msgEncoding.map .str
  | .msgMimeType => f.msgMimeType.map .str
  | .category => f.category.map .str
  | .message => f.message.map .str
  | .eventType => f.eventType.map fun t => .str t.name
  | .severity => f.severity.map fun s => .str s.name
  | .compCode => f.compCode.map fun c => .str c.name
  | .startTime => f.startTime.map .instant
  | .endTime => f.endTime.map .instant
  | .elapsedTime => if 0 ≤ f.elapsedTime then some (.int f.elapsedTime) else none
  | .reasonCode => if f.reasonCode ≠ 0 then some (.int f.reasonCode) else none
  | .msgLength => f.msgLength.map .int
  | .processId => f.processId.map .int
  | .threadId => f.threadId.map .int
  | .correlator => listOf? f.correlators
  | .tag => listOf? f.tags

/-- The value of a field. -/
def get? (f : Facts) (name : String) : Option Value :=
  match Slot.ofName? name with
  | some slot => f.slot? slot
  | none => Keyed.get? name f.properties

/-- The text of a value in place of an earlier one, unless it is blank. -/
def substitute (old : Option String) (v : Value) : Option String :=
  let s := v.text
  if Text.isBlankText s then old else some s

/-- The code that a value names or counts to. -/
def code? {α : Type} (ofOrdinal : Int64 → Option α) (ofName : String → Option α) :
    Value → Option α
  | .int i => ofOrdinal i
  | .float x => if Value.isWhole x then ofOrdinal (Value.truncate x) else none
  | .str s => (ofName s).or ((Text.int64? (Text.trim s)).bind ofOrdinal)
  | _ => none

/-- The code of a value for the field, or the failure that there is none. -/
def code {α : Type} (name : String) (ofOrdinal : Int64 → Option α) (ofName : String → Option α)
    (v : Value) : Except Failure α :=
  match code? ofOrdinal ofName v with
  | some c => .ok c
  | none => .error (.field name ("unrecognized value '" ++ v.text ++ "'"))

/-- The instant of a value for the field. -/
def instant (name : String) (format : Option TimeFormat) (v : Value) : Except Failure Instant :=
  ((format.getD {}).parse v).mapError (.field name)

/-- The integer of a value for the field. -/
def number (name : String) (v : Value) : Except Failure Int64 :=
  match v.toInt? with
  | some i => .ok i
  | none => .error (.field name ("'" ++ v.text ++ "' is not an integer"))

/-- The pieces of a text between commas, without blanks around them and without empty ones. -/
def pieces (s : String) : List String :=
  ((Text.splitChars (· = ',') s.toList).map Text.trimChars).filterMap fun cs =>
    if cs.isEmpty then none else some (String.ofList cs)

mutual

/-- The items that a value adds to a collection: those of each element of a list, the pieces of a
text, and otherwise the value as text. -/
def itemsOf : Value → List String
  | .list items => itemsOfAll items
  | .str s => pieces s
  | v => [v.text]

/-- The items that the elements of a list add to a collection. -/
def itemsOfAll : List Value → List String
  | [] => []
  | v :: rest => itemsOf v ++ itemsOfAll rest

end

/-- The message of a value. -/
def messageText : Value → String
  | .bytes bs => Text.Utf8.decodeLossy bs
  | v => v.text

/-- Sets the message, and its length in bytes if there is none yet. An empty text changes
nothing. -/
def setMessage (f : Facts) (v : Value) : Facts :=
  let s := messageText v
  if s.isEmpty then f
  else
    { f with
      message := some s
      msgLength := f.msgLength.or (some (Int64.ofNat s.utf8ByteSize)) }

/-- Sets a slot. `name` is the name that failures give, and `format` how texts become instants. -/
def setSlot (f : Facts) (slot : Slot) (name : String) (format : Option TimeFormat) (v : Value) :
    Except Failure Facts :=
  match slot with
  | .applName => .ok { f with applName := substitute f.applName v }
  | .serverName => .ok { f with serverName := substitute f.serverName v }
  | .serverIp => .ok { f with serverIp := substitute f.serverIp v }
  | .eventName => .ok { f with eventName := substitute f.eventName v }
  | .resourceName => .ok { f with resourceName := substitute f.resourceName v }
  | .location => .ok { f with location := substitute f.location v }
  | .userName => .ok { f with userName := substitute f.userName v }
  | .exception => .ok { f with exception := substitute f.exception v }
  | .trackingId => .ok { f with trackingId := substitute f.trackingId v }
  | .parentId => .ok { f with parentId := substitute f.parentId v }
  | .msgCharSet => .ok { f with msgCharSet := substitute f.msgCharSet v }
  | .msgEncoding => .ok { f with msgEncoding := substitute f.msgEncoding v }
  | .msgMimeType => .ok { f with msgMimeType := substitute f.msgMimeType v }
  | .category => .ok { f with category := substitute f.category v }
  | .message => .ok (f.setMessage v)
  | .eventType =>
    (code name EventType.ofOrdinal? EventType.ofName? v).map fun c => { f with eventType := some c }
  | .severity =>
    (code name Severity.ofOrdinal? Severity.ofName? v).map fun c => { f with severity := some c }
  | .compCode =>
    (code name Completion.ofOrdinal? Completion.ofName? v).map fun c =>
      { f with compCode := some c }
  | .startTime => (instant name format v).map fun t => { f with startTime := some t }
  | .endTime => (instant name format v).map fun t => { f with endTime := some t }
  | .elapsedTime => (number name v).map fun i => { f with elapsedTime := i }
  | .reasonCode => (number name v).map fun i => { f with reasonCode := i }
  | .msgLength => (number name v).map fun i => { f with msgLength := some i }
  | .processId => (number name v).map fun i => { f with processId := some i }
  | .threadId => (number name v).map fun i => { f with threadId := some i }
  | .correlator => .ok { f with correlators := f.correlators ++ itemsOf v }
  | .tag => .ok { f with tags := f.tags ++ itemsOf v }

/-- Sets a field, whose texts become instants in the given format. -/
def setAs (f : Facts) (name : String) (format : Option TimeFormat) (v : Value) :
    Except Failure Facts :=
  match Slot.ofName? name with
  | some slot => f.setSlot slot name format v
  | none => .ok { f with properties := Keyed.insert name v f.properties }

/-- Sets a field. -/
def set (f : Facts) (name : String) (v : Value) : Except Failure Facts :=
  f.setAs name none v

/-- Where the activity comes from: application, server and network address, as far as known. -/
def origin? (f : Facts) : Option String :=
  let part (key : String) (v : Option String) : List String :=
    match v with
    | some s => [key ++ "=" ++ s]
    | none => []
  let parts := part "APPL" f.applName ++ part "SERVER" f.serverName ++ part "NETADDR" f.serverIp
  if parts.isEmpty then none else some (String.intercalate "#" parts)

end Facts

namespace Record

/-- The facts of a record. -/
def facts : Record → Facts
  | mk f _ => f

/-- The records inside a record, by the name of their parser. -/
def children : Record → Keyed (List Child)
  | mk _ c => c

/-- A record that knows nothing. -/
def blank : Record := mk {} []

instance : Inhabited Record := ⟨blank⟩

/-- The record with other facts. -/
def withFacts (r : Record) (f : Facts) : Record := mk f r.children

/-- The value of a field. -/
def get? (r : Record) (name : String) : Option Value := r.facts.get? name

/-- Sets a field. -/
def set (r : Record) (name : String) (v : Value) : Except Failure Record :=
  (r.facts.set name v).map r.withFacts

/-- The records of one parser inside a record. -/
def childrenOf (r : Record) (parser : String) : List Child :=
  (Keyed.get? parser r.children).getD []

/-- Adds a record at the end of those of its parser. -/
def addChild (r : Record) (parser : String) (child : Record) (flatten : Bool) : Record :=
  mk r.facts (Keyed.insert parser (r.childrenOf parser ++ [⟨child, flatten⟩]) r.children)

/-- The number of records directly inside a record. -/
def childCount (r : Record) : Nat :=
  (Keyed.values r.children).flatten.length

end Record

end Intake
