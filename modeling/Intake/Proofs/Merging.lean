import Intake.Proofs.Marks
import Intake.Proofs.Simulation

/-!
# Verdicts on records that are merged

A record that is merged into another one brings along the mark of the verdict on it. The mark is
written anew when the outer record is judged.

* `Record.Resembles`, `Context.Resembles`: records, and contexts, that are the same but for marks.
* `Parser.unjudged`: a parser without the record filters of those whose records are merged.
* `Parser.unjudged_simulates`: an item comes to the same without these filters.
* `Parser.parse_of_merged`: **the verdicts on merged records are lost**; the filters of its own
  parser alone decide on a record.
* `Parser.probe_kept`: a record that is to be excluded is merged into one that is kept.
-/

namespace Intake

/-- Two records are the same but for the marks of verdicts on them. -/
def Record.Resembles (r r' : Record) : Prop := r.unmarked = r'.unmarked

/-- Two contexts are the same but for the marks of verdicts on the records that are being made. -/
def Context.Resembles (a b : Context) : Prop := a.unmarked = b.unmarked

theorem Record.Resembles.unmarked {r r' : Record} (h : r.Resembles r') : r.unmarked = r'.unmarked :=
  h

theorem Context.Resembles.unmarked {a b : Context} (h : a.Resembles b) : a.unmarked = b.unmarked :=
  h

theorem Context.Resembles.record {a b : Context} (h : a.Resembles b) :
    a.record.Resembles b.record :=
  congrArg Context.record h.unmarked

namespace Parser

open Attempt RecordFilter

variable {a b : Context} {r r' : Record} {filters : List RecordFilter}

mutual

/-- The parser without the record filters of the parsers whose records are merged. -/
def unjudged : Parser → Parser
  | mk profile preParsers filters fields => mk profile preParsers filters (unjudgedFields fields)

/-- The fields without the record filters of the parsers whose records are merged. -/
def unjudgedFields : List (ParserField Parser) → List (ParserField Parser)
  | [] => []
  | ⟨f, stacked⟩ :: rest => ⟨f, unjudgedStacked stacked⟩ :: unjudgedFields rest

/-- The stacked parsers without the record filters of those whose records are merged. -/
def unjudgedStacked : List (Stacked Parser) → List (Stacked Parser)
  | [] => []
  | ⟨p, .merge, flatten⟩ :: rest =>
    ⟨(unjudged p).withFilters [], .merge, flatten⟩ :: unjudgedStacked rest
  | ⟨p, .relate, flatten⟩ :: rest => ⟨unjudged p, .relate, flatten⟩ :: unjudgedStacked rest

end

/-- No part of a parser, nor of the parsers stacked on it, uses how often it was asked, and no
record filter of them sees the mark of an earlier verdict. -/
inductive Impartial : Parser → Prop
  | intro {p : Parser} :
    (∀ q ∈ p.preParsers, q.Stateless) → (∀ f ∈ p.filters, f.Stateless ∧ f.OverlooksMark) →
      (∀ pf ∈ p.fields, ∀ st ∈ pf.stacked, Impartial st.parser) → Impartial p

variable {s s' : Session}

/-- A record is judged alike, whatever its mark, if no filter sees the mark. -/
theorem judged_resembling (h : ∀ f ∈ filters, f.Stateless ∧ f.OverlooksMark) (parser : String)
    (hr : r.Resembles r') (halike : s.Alike s') :
    (judged parser filters r s).1 = (judged parser filters r' s').1 ∧
      (judged parser filters r s).2.Alike (judged parser filters r' s').2 := by
  have hstateless : ∀ f ∈ filters, f.Stateless := fun f hf => (h f hf).1
  have hvalue : ∀ r : Record, r.completed.flagged (verdict filters r.completed) =
      r.unmarked.completed.flagged (verdict filters r.unmarked.completed) := by
    intro r
    have hverdict := verdict_congr (fun f hf => (h f hf).2 false) r.completed
    exact congrArg r.completed.flagged hverdict.symm
  -- the verdict takes the place of the mark
  refine ⟨?_, ?_⟩
  · rw [judged_eq hstateless, judged_eq hstateless, hvalue r, hvalue r', hr.unmarked]
  · have hleft := (judged_value parser filters r s).2
    have hright := (judged_value parser filters r' s').2
    exact ⟨(hleft.cache.trans halike.cache).trans hright.cache.symm,
      (hleft.ids.trans halike.ids).trans hright.ids.symm⟩

/-- A record is judged as if there were no filters, but for its mark. -/
theorem judged_resembles (parser : String) (filters : List RecordFilter) (hr : r.Resembles r') :
    Run.Parallel Session.Alike Record.Resembles (judged parser filters r) (judged parser [] r') := by
  intro s s' halike
  obtain ⟨hvalue, hleft⟩ := judged_value parser filters r s
  refine ⟨?_, hleft.cache.trans halike.cache, hleft.ids.trans halike.ids⟩
  rw [hvalue]
  change r.unmarked.completed = r'.unmarked.completed
  rw [hr.unmarked]

/-- Records that are put into contexts that are alike leave them so. -/
theorem joins_resembling (h : a.Resembles b) (hr : r.Resembles r') :
    Context.Joins Context.Resembles a b r r' := by
  change { a.unmarked with record := r.unmarked } = { b.unmarked with record := r'.unmarked }
  rw [h.unmarked, hr.unmarked]

/-- Times are derived alike, whatever the mark. -/
theorem determineTimes_resembling (now : Instant) (hr : r.Resembles r') :
    SameOutcome Record.Resembles (r.determineTimes now) (r'.determineTimes now) := by
  have hsame : ∀ r : Record, (r.determineTimes now).map Record.unmarked =
      r.unmarked.determineTimes now := by
    intro r
    unfold Record.determineTimes Facts.determineTimes
    change _ = (r.facts.elapsed.map _).map r.unmarked.withFacts
    cases r.facts.elapsed <;> rfl
  refine .of_map_eq ?_
  rw [hsame, hsame, hr.unmarked]

/-- What is taken up leaves contexts alike. A record that is merged may have another mark, and one
that comes to stand inside keeps its mark. -/
theorem takeUp_merged (h : a.Resembles b) (parser : String) (flatten : Bool)
    (hr : r.Resembles r') :
    SameOutcome Context.Resembles (takeUp a parser .merge flatten r)
      (takeUp b parser .merge flatten r') := by
  refine .ok (joins_resembling h ?_)
  unfold Record.Resembles
  rw [Record.merge_unmarked, Record.merge_unmarked b.record, hr.unmarked, h.record.unmarked]

theorem takeUp_related (h : a.Resembles b) (parser : String) (flatten : Bool) (r : Record) :
    SameOutcome Context.Resembles (takeUp a parser .relate flatten r)
      (takeUp b parser .relate flatten r) := by
  have hhost : b.unmarked.host = a.unmarked.host := by rw [h.unmarked]
  refine takeUp_relate_parallel hhost fun timed => joins_resembling h ?_
  exact congrArg (fun record : Record => record.addChild parser timed flatten) h.record.unmarked

theorem resembles_congruence : Context.Congruence Context.Resembles where
  name_eq := by
    intro a b h
    change b.unmarked.profile.name = a.unmarked.profile.name
    rw [h.unmarked]
  isTop_eq := by
    intro a b h
    have houter : b.unmarked.outer.isEmpty = a.unmarked.outer.isEmpty := by rw [h.unmarked]
    change (b.outer.map Record.unmarked).isEmpty = (a.outer.map Record.unmarked).isEmpty at houter
    rwa [List.isEmpty_map, List.isEmpty_map] at houter
  atField := by
    intro a b h field
    change { a.unmarked with field } = { b.unmarked with field }
    rw [h.unmarked]

/-- A field comes to the same, whatever the marks. -/
theorem simulates_resembling (f : Field) : f.Simulates Session.Alike Context.Resembles f := by
  refine ⟨rfl, fun _ => rfl, ?_, ?_, ?_⟩
  · intro a b h
    have hfield : a.resolveField f = b.resolveField f := by
      rw [← a.resolveField_unmarked, ← b.resolveField_unmarked, h.unmarked]
    exact .resolving_same .alike hfield
  · intro a b h v
    have hspread : SameOutcome Record.Resembles (a.spread f v).value (b.spread f v).value := by
      refine .of_map_eq ?_
      rw [← Context.spread_unmarked, ← Context.spread_unmarked, h.unmarked]
    exact .resolving Session.Alike.overlooksReadings
      (hspread.mono fun r r' hr => joins_resembling h hr)
  · intro a b h v
    have happly : SameOutcome Record.Resembles (a.record.apply f v) (b.record.apply f v) := by
      refine .of_map_eq ?_
      rw [← Record.apply_unmarked, ← Record.apply_unmarked]
      exact congrArg (fun ctx => Record.apply ctx.record f v) h
    exact happly.mono fun r r' hr => joins_resembling h hr

/-- The other parts of a parser come to the same too, if its pre-parsers do not count. -/
theorem own_simulates_resembling {p p' : Parser} (hprofile : p'.profile = p.profile)
    (hpreParsers : p'.preParsers = p.preParsers) (hpre : ∀ q ∈ p.preParsers, q.Stateless) :
    OwnSimulates Session.Alike Eq Context.Resembles Record.Resembles p p' := by
  refine ⟨by rw [hprofile], by rw [hprofile], resembles_congruence, ?_, ?_, ?_, ?_,
    fun hr now => determineTimes_resembling now hr⟩
  · intro raw
    rw [hpreParsers]
    exact Session.preParsed_steady hpre raw
  · intro raw
    rw [hprofile]
    refine .of_eq (fun data => ?_) _
    cases data with
    | none => exact .none
    | some data => exact .some rfl
  · rintro d _ rfl host source metadata raw cache
    unfold opening
    rw [hprofile]
    exact rfl
  · intro a b h dataAsMessage
    refine .of_map_eq ?_
    rw [hprofile, ← withDefaultMessage_unmarked, ← withDefaultMessage_unmarked, h.unmarked]

theorem inner_resembling (h : a.Resembles b) (profile : Profile) (raw : RawData)
    (data : Prepared) : (a.inner profile raw data).Resembles (b.inner profile raw data) := by
  unfold Context.Resembles
  rw [← inner_unmarked, ← inner_unmarked, h.unmarked]

mutual

/-- **A parser comes to the same without the filters of those that are merged.** -/
theorem unjudged_simulates : (p : Parser) → p.unjudged.Impartial →
    Simulates Session.Alike Context.Resembles Eq p p.unjudged
  | mk profile _ _ fields, .intro hpre hfilters hfields => by
    refine .intro (own_simulates_resembling rfl rfl hpre) ?_ (unjudgedFields_simulate fields hfields)
      fun hr _ _ halike => judged_resembling hfilters _ hr halike
    rintro a b d _ h rfl raw
    exact inner_resembling h profile raw d

/-- A parser comes to the same without its own filters too, but for the mark. -/
theorem unfiltered_simulates : (p : Parser) → (p.unjudged.withFilters []).Impartial →
    Simulates Session.Alike Context.Resembles Record.Resembles p (p.unjudged.withFilters [])
  | mk profile _ filters fields, .intro hpre _ hfields => by
    refine .intro (own_simulates_resembling rfl rfl hpre) ?_ (unjudgedFields_simulate fields hfields)
      fun hr => judged_resembles profile.name filters hr
    rintro a b d _ h rfl raw
    exact inner_resembling h profile raw d

theorem unjudgedFields_simulate : (fields : List (ParserField Parser)) →
    (∀ pf ∈ unjudgedFields fields, ∀ st ∈ pf.stacked, st.parser.Impartial) →
    FieldsSimulate Session.Alike Context.Resembles fields (unjudgedFields fields)
  | [], _ => .nil
  | ⟨f, stacked⟩ :: rest, himpartial =>
    .cons (simulates_resembling f)
      (unjudgedStacked_simulate stacked (himpartial _ List.mem_cons_self))
      (unjudgedFields_simulate rest fun pf hpf => himpartial pf (List.mem_cons_of_mem _ hpf))

theorem unjudgedStacked_simulate : (stacked : List (Stacked Parser)) →
    (∀ st ∈ unjudgedStacked stacked, st.parser.Impartial) →
    StackedSimulate Session.Alike Context.Resembles stacked (unjudgedStacked stacked)
  | [], _ => .nil
  -- a merged record loses its verdict, so its parser may lose its filters; a related one keeps it
  | ⟨p, .merge, flatten⟩ :: rest, himpartial => by
    have hname : (p.unjudged.withFilters []).name = p.name := by
      cases p
      rfl
    have hrest := unjudgedStacked_simulate rest
      fun st hst => himpartial st (List.mem_cons_of_mem _ hst)
    refine .cons (unfiltered_simulates p (himpartial _ List.mem_cons_self)) ?_ hrest
    intro a b r r' h hr
    rw [hname]
    exact takeUp_merged h p.name flatten hr
  | ⟨p, .relate, flatten⟩ :: rest, himpartial => by
    have hname : p.unjudged.name = p.name := by
      cases p
      rfl
    have hrest := unjudgedStacked_simulate rest
      fun st hst => himpartial st (List.mem_cons_of_mem _ hst)
    refine .cons (unjudged_simulates p (himpartial _ List.mem_cons_self)) ?_ hrest
    rintro a b r _ h rfl
    rw [hname]
    exact takeUp_related h p.name flatten r

end

variable {p : Parser} {host : Host} {source : Source} {metadata : Keyed Value} {input : RawData}
  {session : Session}

/-- **The verdicts on records that are merged are lost.** Whatever record filters say of records
that are merged into others, at any depth, an item comes to the same as if these filters were not
there, and the same values are kept, if the filters that are left do not count and do not see marks.
If the item has a record, the filters of its own parser alone decide whether it is excluded. Unless
they do, it has an identifier, and the store has taken what it takes from it. -/
theorem parse_of_merged (h : p.unjudged.Impartial) :
    (p.parse host source metadata input session).result =
        (p.unjudged.parse host source metadata input session).result ∧
      (p.parse host source metadata input session).session.cache =
        (p.unjudged.parse host source metadata input session).session.cache ∧
      ∀ r, (p.parse host source metadata input session).result = .ok (some r) →
        ∃ seen kept, r = kept.withParent (kept.facts.parentId.or source.groupId) ∧
          Settles p.filters p.name seen kept session.cache
            (p.parse host source metadata input session).session.cache ∧
          r.facts.filtered = verdict p.filters seen.unmarked := by
  have hstart : Session.Alike session session := ⟨rfl, rfl⟩
  obtain ⟨hsame, -, hnext⟩ :=
    parse_parallel .alike (unjudged_simulates p h) host source metadata input hstart
  refine ⟨hsame, hnext.cache, ?_⟩
  intro r hr
  have hfilters : ∀ f ∈ p.filters, f.Stateless ∧ f.OverlooksMark := by
    obtain ⟨-, hfilters, -⟩ := h
    cases p
    exact hfilters
  -- the mark that is left is the verdict of the last filters, which did not see the mark before
  obtain ⟨seen, kept, hsettles, rfl⟩ := settled_of_parse (fun f hf => (hfilters f hf).1) hr
  have hverdict : kept.facts.filtered = verdict p.filters seen.unmarked :=
    hsettles.filtered.trans (verdict_congr (fun f hf => (hfilters f hf).2 false) seen).symm
  exact ⟨seen, kept, rfl, hsettles, hverdict⟩

/-- A parser for operations that are not for debugging. -/
def operations : Parser :=
  .mk ⟨"operations", {}, .map⟩ [] [.conditions "no debug" .exclude [⟨"EventName", .exact "debug"⟩]]
    [⟨{ name := "EventName", locators := [{ location := "op" }] }, []⟩]

/-- A parser into whose records those of operations are merged, for those that are no failures. -/
def envelopes : Parser :=
  .mk ⟨"envelopes", {}, .map⟩ [] [.conditions "no failures" .exclude [⟨"EventName", .exact "fail"⟩]]
    [⟨{ name := "Payload", locators := [{ location := "payload", dataType := .asInput }] },
      [⟨operations, .merge, false⟩]⟩]

/-- An operation for debugging. -/
def probe : Value := .map [("op", .str "debug")]

/-- A session in which the last operation is kept. -/
def logbook : Session where
  cache := { (default : Cache) with
    entries := [{ id := "last", key := "last", value := "$\x7bEventName\x7d" }] }
  ids := { id := toString }

/-- What becomes of an envelope with that operation in it. -/
def probeOutcome (p : Parser) : Outcome :=
  p.parse { now := ⟨0⟩, env := fun _ => none } { name := "test" } [] (.map [("payload", probe)])
    logbook

theorem envelopes_impartial : envelopes.unjudged.Impartial := by
  refine .intro ?_ ?_ ?_
  · intro q hq
    cases hq
  · intro f hf
    obtain rfl := List.mem_singleton.1 hf
    exact ⟨trivial, conditions_overlookMark⟩
  · -- the operations are left without their filter
    intro pf hpf st hst
    obtain rfl := List.mem_singleton.1 hpf
    obtain rfl := List.mem_singleton.1 hst
    refine .intro ?_ ?_ ?_
    · intro q hq
      cases hq
    · intro f hf
      cases hf
    · intro pf hpf st hst
      obtain rfl := List.mem_singleton.1 hpf
      cases hst

theorem probe_passes :
    envelopes.unjudged.Impartial ∧
      (probeOutcome envelopes).result = (probeOutcome envelopes.unjudged).result ∧
      (probeOutcome envelopes).session.cache = (probeOutcome envelopes.unjudged).session.cache ∧
      ∃ r seen, (probeOutcome envelopes).result = .ok (some r) ∧
        r.facts.filtered = verdict envelopes.filters (Record.unmarked seen) := by
  obtain ⟨hsame, hcache, hown⟩ := @parse_of_merged envelopes
    { now := ⟨0⟩, env := fun _ => none } { name := "test" } [] (.map [("payload", probe)]) logbook
    envelopes_impartial
  obtain ⟨r, hr⟩ : ∃ r, (probeOutcome envelopes).result = .ok (some r) := ⟨_, rfl⟩
  obtain ⟨seen, kept, -, -, hverdict⟩ := hown r hr
  exact ⟨envelopes_impartial, hsame, hcache, r, seen, hr, hverdict⟩

/-- **A record that is to be excluded is merged and kept**: the filter excludes the operation, and
the envelope with all that the operation says is not excluded, has an identifier, and is kept
from. -/
theorem probe_kept :
    (∃ sub, ((parseStacked operations probe
        (envelopes.opening { now := ⟨0⟩, env := fun _ => none } { name := "test" } []
          (.map [("payload", probe)]) (.map [("payload", probe)]) logbook.cache)).on logbook).1 =
        .ok (some sub) ∧ sub.facts.filtered = true) ∧
      ∃ r, (probeOutcome envelopes).result = .ok (some r) ∧ r.facts.filtered = false ∧
        r.facts.eventName = some "debug" ∧ r.facts.trackingId = some "0" ∧
        ((probeOutcome envelopes).session.cache.get? "last").map Value.text = some "debug" := by
  refine ⟨⟨_, rfl, rfl⟩, ⟨_, rfl, rfl, rfl, rfl, ?_⟩⟩
  decide +kernel

end Parser

end Intake
