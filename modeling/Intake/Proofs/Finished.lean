import Intake.Proofs.History

/-!
# Finished records

* `Record.IsFinished`: a record is complete and has a start and an end.
* `Parser.sorted_of_parse`: the properties and the groups of every record in the record of an item
  stand in order.
* `Parser.finished_of_parse`: **everywhere in the record of an item stand finished records**. The
  record itself has an identifier unless it is excluded; one that is excluded has one only if
  something that happened to it gave it that one.
-/

namespace Intake

/-- A record is complete and has a start and an end. -/
structure Record.IsFinished (r : Record) : Prop where
  complete : r.facts.complete = true
  startTime : r.facts.startTime.isSome
  endTime : r.facts.endTime.isSome

namespace Parser

variable {p : Parser} {host : Host} {source : Source} {metadata : Keyed Value} {input : RawData}
  {session : Session} {filled r : Record}

theorem Concludes.isFinished (h : Concludes filled r) : r.IsFinished :=
  ⟨h.complete, h.startTime, h.endTime⟩

/-- **Parsers make records whose properties and groups stand in order**, each under its name
once. -/
theorem sorted_of_parse (hr : (p.parse host source metadata input session).result = .ok (some r)) :
    ∀ u ∈ r :: r.inside, u.Sorted := by
  intro u hu
  obtain ⟨q, k, filled, ⟨happened, hhistory⟩, hconcludes⟩ := concludes_of_parse hr u hu
  refine ⟨?_, ?_⟩
  · rw [hconcludes.properties]
    exact hhistory.sorted.properties
  · rw [hconcludes.children]
    exact hhistory.sorted.children

/-- **The record of an item is well formed.** It and all records inside it, at any depth, are
complete and have a start and an end, wherever they come from. It has no place among others, so that
its ordinal is zero. It has an identifier unless the record filters exclude it. If they do and it
has one all the same, that one was there when its fields were filled: the parser had set the field
for it, or a record that was merged had brought it along. -/
theorem finished_of_parse
    (hr : (p.parse host source metadata input session).result = .ok (some r)) :
    (∀ u ∈ r :: r.inside, u.IsFinished) ∧
      r.facts.ordinal = 0 ∧
      (r.facts.filtered = false → r.facts.trackingId.isSome) ∧
      ∃ filled, p.Fills host source metadata input session filled ∧ p.Arises p.stacked 0 filled ∧
        ∀ id, r.facts.filtered = true → r.facts.trackingId = some id →
          filled.facts.trackingId = some id ∧
          ∀ happened, p.History p.stacked 0 happened filled →
            p.IdentifiedBy p.stacked happened id := by
  obtain ⟨filled, hfills, hfinishes⟩ := finishes_of_parse hr
  have harises := hfills.arises
  refine ⟨?_, ?_, hfinishes.identified, filled, hfills, harises, ?_⟩
  · intro u hu
    obtain ⟨q, k, inner, -, hconcludes⟩ := concludes_of_parse hr u hu
    exact hconcludes.isFinished
  · obtain ⟨happened, hhistory⟩ := harises
    exact hfinishes.ordinal.trans hhistory.ordinal_eq
  · intro id hexcluded hid
    have hown : filled.facts.trackingId = some id :=
      (hfinishes.unidentified hexcluded).symm.trans hid
    exact ⟨hown, fun happened hhistory => hhistory.identifiedBy hown⟩

/-- A parser for what a guest takes. -/
def courses : Parser :=
  .mk ⟨"courses", {}, .map⟩ [] []
    [⟨{ name := "EventName", locators := [{ location := "dish" }] }, []⟩]

/-- A parser for a table, with an identifier and a course inside it. -/
def tables : Parser :=
  .mk ⟨"tables", {}, .map⟩ [] []
    [⟨{ name := "TrackingId", locators := [{ location := "number" }] }, []⟩,
      ⟨{ name := "Course", locators := [{ location := "course", dataType := .asInput }] },
        [⟨courses, .relate, true⟩]⟩]

/-- A parser into whose records tables are merged, for those that are not reserved. -/
def guests : Parser :=
  .mk ⟨"guests", {}, .map⟩ [] [.conditions "not reserved" .exclude [⟨"TrackingId", .exact "T1"⟩]]
    [⟨{ name := "Table", locators := [{ location := "table", dataType := .asInput }] },
      [⟨tables, .merge, false⟩]⟩]

/-- What becomes of a guest at the reserved table. -/
def latecomer : Outcome :=
  guests.parse { now := ⟨0⟩, env := fun _ => none } { name := "test" } []
    (.map [("table", .map [("number", .str "T1"), ("course", .map [("dish", .str "soup")])])])
    { cache := default, ids := { id := toString } }

/-- The record of a guest at the reserved table is excluded. It has the identifier of the table, and
inside it the course that was inside the table. -/
theorem latecomer_finished :
    ∃ r, latecomer.result = .ok (some r) ∧ r.facts.filtered = true ∧
      r.facts.trackingId = some "T1" ∧ r.facts.ordinal = 0 ∧
      r.inside.map (fun u => u.facts.eventName) = [some "soup"] ∧
      (∀ u ∈ r :: r.inside, u.IsFinished) ∧
      ∃ filled happened, guests.History guests.stacked 0 happened filled ∧
        guests.IdentifiedBy guests.stacked happened "T1" := by
  obtain ⟨r, hr, hknown⟩ := Outcome.exists_record (o := latecomer)
    (f := fun r => (r.facts.filtered, r.facts.trackingId,
      r.inside.map fun u => u.facts.eventName))
    (a := (true, some "T1", [some "soup"])) (by decide +kernel)
  obtain ⟨hexcluded, hrest⟩ := Prod.mk.inj hknown
  obtain ⟨hid, hinside⟩ := Prod.mk.inj hrest
  obtain ⟨hfinished, hordinal, -, filled, -, ⟨happened, hhistory⟩, hown⟩ := finished_of_parse hr
  exact ⟨r, hr, hexcluded, hid, hordinal, hinside, hfinished, filled, happened, hhistory,
    (hown "T1" hexcluded hid).2 happened hhistory⟩

end Parser

end Intake
