import Intake.Record.Basic
import Intake.Value.Json

/-!
# Records as documents

The document of a record has a member for each of its fields, null for those that are missing, and
holds the documents of the records inside it.
-/

namespace Intake

namespace Facts

/-- A number, or null. -/
def intJson (i : Option Int64) : Json := i.elim .null fun i => .int i.toInt

/-- The microseconds of an instant, or null. -/
def instantJson (t : Option Instant) : Json := intJson (t.map (·.micros))

/-- The members of the document of a record, without the records inside it. -/
def members (f : Facts) : List (String × Json) :=
  [("server_name", .ofText? f.serverName), ("server_ip", .ofText? f.serverIp),
    ("appl_name", .ofText? f.applName), ("user_name", .ofText? f.userName),
    ("resource_name", .ofText? f.resourceName), ("event_name", .ofText? f.eventName),
    ("event_type", .ofText? (f.eventType.map EventType.name)),
    ("start_time", instantJson f.startTime), ("end_time", instantJson f.endTime),
    ("elapsed_time", .int f.elapsedTime.toInt),
    ("comp_code", .ofText? (f.compCode.map Completion.name)),
    ("reason_code", .int f.reasonCode.toInt), ("exception", .ofText? f.exception),
    ("severity", .ofText? (f.severity.map Severity.name)), ("location", .ofText? f.location),
    ("tracking_id", .ofText? f.trackingId), ("parent_id", .ofText? f.parentId),
    ("correlators", .arr (f.correlators.map .str)), ("tags", .arr (f.tags.map .str)),
    ("message", .ofText? f.message), ("msg_charset", .ofText? f.msgCharSet),
    ("msg_encoding", .ofText? f.msgEncoding), ("msg_mime_type", .ofText? f.msgMimeType),
    ("msg_length", intJson f.msgLength), ("process_id", intJson f.processId),
    ("thread_id", intJson f.threadId), ("category", .ofText? f.category),
    ("properties", .obj (f.properties.map fun e => (e.1, e.2.toJson))),
    ("filtered", .bool f.filtered), ("complete", .bool f.complete), ("ordinal", .int f.ordinal)]

end Facts

namespace Record

mutual

/-- The document of a record. -/
def toJson : Record → Json
  | mk f children => .obj (Keyed.ofList (("children", .obj (groupsJson children)) :: f.members))

/-- The documents of groups of records. -/
def groupsJson : List (String × List (Nested Record)) → List (String × Json)
  | [] => []
  | (parser, kids) :: rest => (parser, .arr (kidsJson kids)) :: groupsJson rest

/-- The documents of the records of one group. -/
def kidsJson : List (Nested Record) → List Json
  | [] => []
  | ⟨r, flatten⟩ :: rest =>
    .obj [("flatten", .bool flatten), ("record", toJson r)] :: kidsJson rest

end

end Record

end Intake
