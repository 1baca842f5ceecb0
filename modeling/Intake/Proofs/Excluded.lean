import Intake.Proofs.History

/-!
# Excluded records among the delivery units

A record inside another one was judged by the filters of its own parser. When the outer record is
cut into units nothing is asked about that verdict.

* `Parser.Delivers`: records of a parser are reached from those of another one through flat edges
  alone.
* `Parser.made_of_reaches`: whose the records are that are taken out of a record.
* `Parser.units_of_parse`: **an excluded record is delivered as any other one**, with an identifier;
  there is none among the units exactly if none can be reached.
* `Parser.return_delivered`: one that is.
-/

namespace Intake

/-- A unit is marked as the record was that it is made of. -/
theorem Record.filtered_asUnit (id : String) (parent : Option String) (u : Record) :
    (u.asUnit id parent).facts.filtered = u.facts.filtered := rfl

namespace Parser

/-- The records of a parser are reached from those of another one through flat edges alone. -/
inductive Delivers : Parser → Parser → Prop
  | beside {p : Parser} {st : Stacked Parser} :
    Brings p.stacked st → st.flatten = true → Delivers p st.parser
  | further {p q : Parser} {st : Stacked Parser} :
    Brings p.stacked st → st.flatten = true → Delivers st.parser q → Delivers p q

/-- The record filters of a parser exclude nothing. -/
def PassesAll (p : Parser) : Prop :=
  ∀ r s, (Session.excludes p.name p.filters r s).1 = false

variable {p q : Parser} {r filled u : Record} {n k : Nat} {place : Place}

/-- A record inside another one is marked as the filters of its own parser say. -/
theorem Made.verdict (h : q.Made k u) :
    ∃ filled s, q.Arises q.stacked k filled ∧
      u.facts.filtered = (Session.excludes q.name q.filters filled.completed s).1 := by
  obtain ⟨filled, sub, now, harises, ⟨s, rfl⟩, htimed⟩ := h
  obtain ⟨start, stop, elapsed, rfl⟩ := times_of_determineTimes htimed
  exact ⟨filled, s, harises, rfl⟩

/-- **Whose the records are that are reached through flat edges alone**: each was made by a parser
that is stacked to be delivered. -/
theorem made_of_reaches (h : r.Reaches place u) (hplace : place ≠ [])
    (harises : p.Arises p.stacked n filled) (hsame : r.children = filled.children) :
    ∃ q k, p.Delivers q ∧ q.Made k u := by
  induction h generalizing p n filled with
  | here => exact absurd rfl hplace
  | @inward r c u name kids i place hgroup hkid hinner ih =>
    rw [hsame] at hgroup
    obtain ⟨happened, hhistory⟩ := harises
    obtain ⟨st, hst, -, hflatten, k, hmade⟩ :=
      hhistory.encloses ⟨kids, hgroup, List.mem_of_getElem? hkid⟩
    cases hinner with
    | here => exact ⟨st.parser, k, .beside hst hflatten, hmade⟩
    | inward hgroup' hkid' hinner' =>
      obtain ⟨inner, harises, hconcludes⟩ := hmade.concludes
      obtain ⟨q, k', hq, hmade'⟩ := ih (List.cons_ne_nil _ _) harises hconcludes.children
      exact ⟨q, k', .further hst hflatten hq, hmade'⟩

variable {host : Host} {source : Source} {metadata : Keyed Value} {input : RawData}
  {session : Session}

/-- **Verdicts and delivery.** Let an item have a record that is not excluded. Its units are all
records that are reached from it through flat edges alone, excluded ones too, and all of them have
identifiers. Each but the root is marked as the record filters of its own parser say. So no unit is
marked as excluded exactly if no record is that can be reached; and there is no such record if the
parsers whose records can be reached exclude nothing. -/
theorem units_of_parse
    (hr : (p.parse host source metadata input session).result = .ok (some r))
    (hpassed : r.facts.filtered = false) (ids : IdSupply) :
    (∃ idAt : Place → String,
      (r.deliveryUnits ids).1 = Record.unitsAt 0 none idAt r.taken ∧
      Record.Identifies idAt r.taken) ∧
    (∀ place u, r.Reaches place u → place ≠ [] → ∃ q k filled s, p.Delivers q ∧
      q.Arises q.stacked k filled ∧
      u.facts.filtered = (Session.excludes q.name q.filters filled.completed s).1) ∧
    ((∀ unit ∈ (r.deliveryUnits ids).1, unit.facts.filtered = false) ↔
      ∀ place u, r.Reaches place u → u.facts.filtered = false) ∧
    ((∀ q, p.Delivers q → q.PassesAll) →
      ∀ unit ∈ (r.deliveryUnits ids).1, unit.facts.filtered = false) := by
  obtain ⟨filled, hfills, hfinishes⟩ := finishes_of_parse hr
  have harises := hfills.arises
  obtain ⟨root, hroot⟩ := Option.isSome_iff_exists.1 (hfinishes.identified hpassed)
  have hordered : r.Ordered := by
    obtain ⟨happened, hhistory⟩ := harises
    exact hhistory.ordered.congr hfinishes.children
  obtain ⟨idAt, hunits, hids⟩ := Record.unitsOfTaken_units none ids r hordered
  rw [← Record.deliveryUnits_eq_unitsOfTaken hroot] at hunits
  -- the root was judged when it was finished; all others, when they came to stand inside
  have hverdict : ∀ place u, r.Reaches place u → place ≠ [] → ∃ q k filled s, p.Delivers q ∧
      q.Arises q.stacked k filled ∧
      u.facts.filtered = (Session.excludes q.name q.filters filled.completed s).1 := by
    intro place u hreaches hplace
    obtain ⟨q, k, hq, hmade⟩ := made_of_reaches hreaches hplace harises hfinishes.children
    obtain ⟨inner, s, hinner, hmark⟩ := hmade.verdict
    exact ⟨q, k, inner, s, hq, hinner, hmark⟩
  have hmarks : (∀ unit ∈ (r.deliveryUnits ids).1, unit.facts.filtered = false) ↔
      ∀ place u, r.Reaches place u → u.facts.filtered = false := by
    rw [hunits]
    constructor
    · intro h place u hreaches
      rw [← Record.filtered_asUnit (idAt place) (Record.outerId 0 none idAt place) u]
      exact h _ (List.mem_map.2 ⟨(place, u), Record.mem_taken.2 hreaches, rfl⟩)
    · intro h unit hunit
      obtain ⟨⟨place, u⟩, htaken, rfl⟩ := List.mem_map.1 hunit
      exact h place u (Record.mem_taken.1 htaken)
  refine ⟨⟨idAt, hunits, hids⟩, hverdict, hmarks, ?_⟩
  intro hpass
  refine hmarks.2 fun place u hreaches => ?_
  -- the root has no verdict of a stacked parser, but it is known to have passed
  by_cases hplace : place = []
  · subst hplace
    cases hreaches
    exact hpassed
  · obtain ⟨q, k, inner, s, hq, -, hmark⟩ := hverdict place u hreaches hplace
    rw [hmark]
    exact hpass q hq inner.completed s

/-- A parser for the lines of a receipt that are no returns. -/
def lines : Parser :=
  .mk ⟨"lines", {}, .map⟩ [] [.conditions "no returns" .exclude [⟨"EventName", .exact "return"⟩]]
    [⟨{ name := "EventName", locators := [{ location := "op" }] }, []⟩]

/-- A parser for receipts, whose line is delivered beside it. -/
def receipts : Parser :=
  .mk ⟨"receipts", {}, .map⟩ [] []
    [⟨{ name := "Line", locators := [{ location := "line", dataType := .asInput }] },
      [⟨lines, .relate, true⟩]⟩]

/-- What becomes of a receipt with such a line. -/
def receipt (op : String) : Outcome :=
  receipts.parse { now := ⟨0⟩, env := fun _ => none } { name := "test" } []
    (.map [("line", .map [("op", .str op)])]) { cache := default, ids := { id := toString } }

/-- What a record is delivered as: the events, whether they are excluded, and their identifiers. -/
def delivered (r : Record) : List (Option String × Bool × Option String) :=
  (r.deliveryUnits { id := toString, next := 1 }).1.map fun u =>
    (u.facts.eventName, u.facts.filtered, u.facts.trackingId)

theorem sale_delivered :
    ∃ r, (receipt "sale").result = .ok (some r) ∧ r.facts.filtered = false ∧
      delivered r = [(none, false, some "0"), (some "sale", false, some "1")] ∧
      (∃ idAt, (r.deliveryUnits { id := toString, next := 1 }).1 =
        Record.unitsAt 0 none idAt r.taken) ∧
      ∀ place u, r.Reaches place u → u.facts.filtered = false := by
  obtain ⟨r, hr, hknown⟩ := Outcome.exists_record (o := receipt "sale")
    (f := fun r => (r.facts.filtered, delivered r))
    (a := (false, [(none, false, some "0"), (some "sale", false, some "1")])) (by decide +kernel)
  obtain ⟨hpassed, hdelivered⟩ := Prod.mk.inj hknown
  obtain ⟨⟨idAt, hunits, -⟩, -, hmarks, -⟩ :=
    units_of_parse hr hpassed { id := toString, next := 1 }
  refine ⟨r, hr, hpassed, hdelivered, ⟨idAt, hunits⟩, hmarks.1 ?_⟩
  have hnone : ∀ t ∈ delivered r, t.2.1 = false := by
    rw [hdelivered]
    decide
  intro unit hunit
  exact hnone _ (List.mem_map.2 ⟨unit, hunit, rfl⟩)

/-- **An excluded record is delivered**: the filter excludes the line, and yet it is a unit of the
receipt and gets an identifier. -/
theorem return_delivered :
    ∃ r, (receipt "return").result = .ok (some r) ∧ r.facts.filtered = false ∧
      (r.childrenOf "lines").map (fun kid =>
        (kid.record.facts.filtered, kid.record.facts.trackingId)) = [(true, none)] ∧
      delivered r = [(none, false, some "0"), (some "return", true, some "1")] := by
  obtain ⟨r, hr, hknown⟩ := Outcome.exists_record (o := receipt "return")
    (f := fun r => (r.facts.filtered, delivered r))
    (a := (false, [(none, false, some "0"), (some "return", true, some "1")])) (by decide +kernel)
  obtain ⟨r', hr', hline⟩ := Outcome.exists_record (o := receipt "return")
    (f := fun r => (r.childrenOf "lines").map fun kid =>
      (kid.record.facts.filtered, kid.record.facts.trackingId))
    (a := [(true, none)]) (by decide +kernel)
  obtain ⟨hpassed, hdelivered⟩ := Prod.mk.inj hknown
  obtain rfl : r' = r := Option.some.inj (Except.ok.inj (hr'.symm.trans hr))
  exact ⟨r', hr, hpassed, hline, hdelivered⟩

end Parser

end Intake
