import Intake.Text.Casing
import Intake.Text.Blank

/-!
# Event types

What kind of operation an event reports.
-/

namespace Intake

/-- The kind of operation that an event reports. -/
inductive EventType where
  | other | start | stop | open | close | send | receive | inquire | set | browse | add | update
  | remove | clear | datagram | call | noop | activity | event | snapshot
deriving DecidableEq, Repr

namespace EventType

/-- All event types in their order. -/
def all : List EventType :=
  [other, start, stop, .open, close, send, receive, inquire, set, browse, add, update, remove,
    clear, datagram, call, noop, activity, event, snapshot]

/-- The type of an event that names none. -/
def standard : EventType := other

/-- The name of an event type. -/
def name : EventType → String
  | other => "OTHER"
  | start => "START"
  | stop => "STOP"
  | .open => "OPEN"
  | close => "CLOSE"
  | send => "SEND"
  | receive => "RECEIVE"
  | inquire => "INQUIRE"
  | set => "SET"
  | browse => "BROWSE"
  | add => "ADD"
  | update => "UPDATE"
  | remove => "REMOVE"
  | clear => "CLEAR"
  | datagram => "DATAGRAM"
  | call => "CALL"
  | noop => "NOOP"
  | activity => "ACTIVITY"
  | event => "EVENT"
  | snapshot => "SNAPSHOT"

/-- Verbs of requests that stand for an event type. -/
def ofVerb? : String → Option EventType
  | "REQUEST" | "PUT" => some send
  | "RESPONSE" | "GET" => some receive
  | "DELETE" => some remove
  | _ => none

/-- The event type of a name or verb, without regard to case and blanks around it. -/
def ofName? (s : String) : Option EventType :=
  let word := Text.upper (Text.trim s)
  (all.find? (·.name == word)).or (ofVerb? word)

/-- The event type at a place, from zero. -/
def ofOrdinal? (i : Int64) : Option EventType :=
  if i.toInt < 0 then none else all[i.toInt.toNat]?

end EventType

end Intake
