import Intake.Record.Basic

/-!
# Merging records

One record taken into another: slots that are still empty are filled, collections grow, properties
are replaced, and the records inside are put after those already there.

* `Record.childrenOf_merge`: the records of a parser inside a merged record.
-/

namespace Intake

/-- The first text that is not blank; else the first one. -/
def fillText (own other : Option String) : Option String :=
  if own.all Text.isBlankText then
    match other with
    | some s => if Text.isBlankText s then own else some s
    | none => own
  else own

/-- Puts the records of `other` after those of `own`, parser by parser. -/
def joinChildren (own other : Keyed (List Child)) : Keyed (List Child) :=
  other.foldl
    (fun acc group => Keyed.insert group.1 ((Keyed.get? group.1 acc).getD [] ++ group.2) acc) own

/-- Fills what is missing from other facts. -/
def Facts.merge (f other : Facts) : Facts where
  serverName := fillText f.serverName other.serverName
  serverIp := fillText f.serverIp other.serverIp
  applName := fillText f.applName other.applName
  userName := fillText f.userName other.userName
  resourceName := fillText f.resourceName other.resourceName
  eventName := fillText f.eventName other.eventName
  eventType := f.eventType.or other.eventType
  startTime := f.startTime.or other.startTime
  endTime := f.endTime.or other.endTime
  elapsedTime := if f.elapsedTime < 0 then other.elapsedTime else f.elapsedTime
  compCode := f.compCode.or other.compCode
  reasonCode := if f.reasonCode = 0 then other.reasonCode else f.reasonCode
  exception := fillText f.exception other.exception
  severity := f.severity.or other.severity
  location := fillText f.location other.location
  trackingId := fillText f.trackingId other.trackingId
  parentId := fillText f.parentId other.parentId
  correlators := f.correlators ++ other.correlators
  tags := f.tags ++ other.tags
  message := fillText f.message other.message
  msgCharSet := fillText f.msgCharSet other.msgCharSet
  msgEncoding := fillText f.msgEncoding other.msgEncoding
  msgMimeType := fillText f.msgMimeType other.msgMimeType
  msgLength := f.msgLength.or other.msgLength
  processId := f.processId.or other.processId
  threadId := f.threadId.or other.threadId
  category := fillText f.category other.category
  properties := Keyed.extend f.properties other.properties
  filtered := f.filtered || other.filtered
  complete := f.complete
  ordinal := f.ordinal

/-- Takes another record into this one. -/
def Record.merge (r other : Record) : Record :=
  .mk (r.facts.merge other.facts) (joinChildren r.children other.children)

theorem get?_joinChildren {own other : Keyed (List Child)} (h : Keyed.Sorted other)
    (parser : String) :
    Keyed.get? parser (joinChildren own other) =
      ((Keyed.get? parser other).map ((Keyed.get? parser own).getD [] ++ ·)).or
        (Keyed.get? parser own) :=
  Keyed.get?_foldl_insert (f := fun own kids => own.getD [] ++ kids) h parser

theorem sorted_joinChildren {own other : Keyed (List Child)} (h : Keyed.Sorted own) :
    Keyed.Sorted (joinChildren own other) :=
  Keyed.sorted_foldl_insert (f := fun own kids => own.getD [] ++ kids) h

/-- The records of a parser inside a merged record: first those that were there. -/
theorem Record.childrenOf_merge (r : Record) {other : Record} (h : Keyed.Sorted other.children)
    (parser : String) :
    (r.merge other).childrenOf parser = r.childrenOf parser ++ other.childrenOf parser := by
  change (Keyed.get? parser (joinChildren r.children other.children)).getD [] =
    (Keyed.get? parser r.children).getD [] ++ (Keyed.get? parser other.children).getD []
  rw [get?_joinChildren h]
  cases Keyed.get? parser other.children with
  | none => simp
  | some kids => rfl

end Intake
