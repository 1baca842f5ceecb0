/-!
# Slots

The fields of a record that have a meaning of their own. A field of any other name is a property.

* `Slot.ofName?_name`: a slot is found under its name.
-/

namespace Intake

/-- A field with a meaning of its own. -/
inductive Slot where
  | applName | serverName | serverIp | eventName | eventType | resourceName | location | userName
  | startTime | endTime | elapsedTime | compCode | reasonCode | exception | severity | trackingId
  | parentId | correlator | tag | message | msgCharSet | msgEncoding | msgLength | msgMimeType
  | processId | threadId | category
deriving DecidableEq, Repr

namespace Slot

/-- All slots in their order. -/
def all : List Slot :=
  [applName, serverName, serverIp, eventName, eventType, resourceName, location, userName,
    startTime, endTime, elapsedTime, compCode, reasonCode, exception, severity, trackingId,
    parentId, correlator, tag, message, msgCharSet, msgEncoding, msgLength, msgMimeType, processId,
    threadId, category]

/-- The name of a slot. -/
def name : Slot → String
  | applName => "ApplName"
  | serverName => "ServerName"
  | serverIp => "ServerIp"
  | eventName => "EventName"
  | eventType => "EventType"
  | resourceName => "ResourceName"
  | location => "Location"
  | userName => "UserName"
  | startTime => "StartTime"
  | endTime => "EndTime"
  | elapsedTime => "ElapsedTime"
  | compCode => "CompCode"
  | reasonCode => "ReasonCode"
  | exception => "Exception"
  | severity => "Severity"
  | trackingId => "TrackingId"
  | parentId => "ParentId"
  | correlator => "Correlator"
  | tag => "Tag"
  | message => "Message"
  | msgCharSet => "MsgCharSet"
  | msgEncoding => "MsgEncoding"
  | msgLength => "MsgLength"
  | msgMimeType => "MsgMimeType"
  | processId => "ProcessId"
  | threadId => "ThreadId"
  | category => "Category"

/-- The slot of this name. -/
def ofName? (s : String) : Option Slot :=
  all.find? (·.name == s)

/-- The slot holds one of a set of codes. -/
def isEnumeration : Slot → Bool
  | severity | eventType | compCode => true
  | _ => false

/-- The slot gathers values. -/
def isCollection : Slot → Bool
  | correlator | tag => true
  | _ => false

/-- The slot may be filled without any field that names it, so a reference to it needs none. -/
def isAutoAssigned : Slot → Bool
  | trackingId | startTime | endTime | elapsedTime | serverName | serverIp => true
  | _ => false

theorem ofName?_name (s : Slot) : ofName? s.name = some s := by
  cases s <;> decide

theorem name_of_ofName? {s : String} {slot : Slot} (h : ofName? s = some slot) : slot.name = s := by
  have hfound := List.find?_some h
  exact eq_of_beq hfound

end Slot

end Intake
