import Intake.Proofs.Padding
import Intake.Proofs.Simulation

/-!
# Parsers with steps that always fail

* `Session.SameFor`: sessions that agree for the parts of a parser, whatever others were asked.
* `Session.excludes_padded`: record filters that always fail leave the verdict to the other ones.
* `Parser.Padded`: futile steps and record filters are inserted into a parser and into those stacked
  on it.
* `Parser.padded_simulates`, `Parser.parse_padded`: **an item comes to the same without them.**
-/

namespace Intake

variable {α β : Type}

/-- Two sessions have the same kept values and identifiers, and the parts with these counters were
asked equally often in both. -/
structure Session.SameFor (counters : Nat → Prop) (s s' : Session) : Prop where
  cache : s.cache = s'.cache
  ids : s.ids = s'.ids
  tallies : ∀ n, counters n → s.tallies n = s'.tallies n

/-- If the pre-parser counts how often it was asked, it does so under one of these counters. -/
def PreParser.CountsIn (counters : Nat → Prop) : PreParser → Prop
  | custom _ counter _ => counters counter
  | _ => True

/-- If the record filter counts how often it was asked, it does so under one of these counters. -/
def RecordFilter.CountsIn (counters : Nat → Prop) : RecordFilter → Prop
  | custom _ counter _ => counters counter
  | _ => True

/-- The filter fails on every record and does not share a counter with other parts. -/
structure RecordFilter.IsFutile (counters : Nat → Prop) (f : RecordFilter) : Prop where
  apart : f.CountsIn fun n => ¬ counters n
  fails : ∀ asked r, ∃ e, f.excludes asked r = .error e

namespace Session.SameFor

variable {counters : Nat → Prop}

/-- How often a part with one of the counters was asked is the same in both sessions. -/
theorem ask {counter : Nat} (h : counters counter) :
    Run.Parallel (SameFor counters) Eq (Session.ask counter) (Session.ask counter) := by
  intro s s' hs
  refine ⟨hs.tallies counter h, hs.cache, hs.ids, fun n hn => ?_⟩
  change (if n = counter then _ else _) = if n = counter then _ else _
  rw [hs.tallies n hn]

theorem overlooksReadings : Session.OverlooksReadings (SameFor counters) :=
  fun _ _ _ _ h => ⟨h.cache, h.ids, h.tallies⟩

theorem congruence : Session.Congruence (SameFor counters) where
  cache := SameFor.cache
  noted _ _ _ h := ⟨rfl, overlooksReadings _ _ _ _ h⟩
  identify r := by
    intro s s' h
    unfold Session.identify
    rw [h.ids]
    exact ⟨rfl, h.cache, rfl, h.tallies⟩
  keep r parser := by
    intro s s' h
    refine ⟨rfl, ?_, h.ids, h.tallies⟩
    change (s.cache.store r parser).value = (s'.cache.store r parser).value
    rw [h.cache]

end Session.SameFor

namespace Session

variable {counters : Nat → Prop}

theorem preParse_sameFor {p : PreParser} (h : p.CountsIn counters) (raw : RawData) :
    Run.Parallel (SameFor counters) Eq (preParse p raw) (preParse p raw) := by
  cases p with
  | custom name counter run => exact (SameFor.ask h).bind_same fun _ => .pure rfl
  | _ => exact .pure rfl

theorem preParsed_sameFor {ps : List PreParser} (h : ∀ p ∈ ps, p.CountsIn counters)
    (raw : RawData) : Run.Parallel (SameFor counters) Eq (preParsed ps raw) (preParsed ps raw) :=
  SameFor.congruence.composes.preParsed (fun p hp raw => preParse_sameFor (h p hp) raw) raw

theorem judge_sameFor {f : RecordFilter} (h : f.CountsIn counters) (r : Record) :
    Run.Parallel (SameFor counters) Eq (judge f r) (judge f r) := by
  cases f with
  | custom name counter run => exact (SameFor.ask h).bind_same fun _ => .pure rfl
  | conditions name handling cs => exact .pure rfl

/-- A futile filter fails, and leaves a session behind that is the same for all other parts. -/
theorem judge_futile {f : RecordFilter} (h : f.IsFutile counters) (r : Record) {s s' : Session}
    (hs : s.SameFor counters s') :
    (∃ e, (judge f r s').1 = .error e) ∧ s.SameFor counters (judge f r s').2 := by
  cases f with
  | conditions name handling cs => exact ⟨h.fails 0 r, hs⟩
  | custom name counter run =>
    refine ⟨h.fails (s'.tallies counter) r, hs.cache, hs.ids, fun n hn => ?_⟩
    have hother : n ≠ counter := by
      rintro rfl
      exact h.apart hn
    exact (hs.tallies n hn).trans (if_neg hother).symm

/-- **Futile filters leave the verdict to the other ones.** -/
theorem excludes_padded {filters filters' : List RecordFilter}
    (h : Padded (RecordFilter.IsFutile counters) filters filters')
    (hcounts : ∀ f ∈ filters, f.CountsIn counters) (parser : String) (r : Record) :
    Run.Parallel (SameFor counters) Eq (excludes parser filters r)
      (excludes parser filters' r) := by
  induction h with
  | nil => exact .pure rfl
  | @keep f _ _ _ ih =>
    have hrest := ih fun g hg => hcounts g (List.mem_cons_of_mem _ hg)
    rw [excludes, excludes]
    refine (judge_sameFor (hcounts f List.mem_cons_self) r).bind_same fun verdict => ?_
    cases verdict with
    | ok excluded =>
      cases excluded with
      | true => exact .pure rfl
      | false => exact hrest
    | error e => exact (SameFor.congruence.note _).bind_same fun _ => hrest
  | @insert f _ _ hf _ ih =>
    -- An inserted filter fails on this record, so it is noted and passed over; what it did to its
    -- own counter no other filter looks at.
    intro s s' hs
    obtain ⟨⟨e, he⟩, hnext⟩ := judge_futile hf r hs
    rw [excludes.eq_def parser (f :: _)]
    simp only
    rw [Run.apply_bind, he]
    exact ih hcounts _ _ ⟨hnext.cache, hnext.ids, hnext.tallies⟩

end Session

namespace Parser

open Attempt

mutual

/-- Futile steps are inserted into a parser: into the locators of its fields, among its record
filters, and into the parsers stacked on its fields. Parts of its own that count do so under some
counters, which the inserted filters do not share. -/
inductive Padded (counters : Nat → Prop) : Parser → Parser → Prop
  | intro {profile : Profile} {preParsers : List PreParser} {filters filters' : List RecordFilter}
      {fields fields' : List (ParserField Parser)} :
    (∀ q ∈ preParsers, q.CountsIn counters) → (∀ f ∈ filters, f.CountsIn counters) →
      Intake.Padded (RecordFilter.IsFutile counters) filters filters' →
        FieldsPadded counters fields fields' →
          Padded counters (mk profile preParsers filters fields)
            (mk profile preParsers filters' fields')

/-- Futile steps are inserted into fields and into the parsers stacked on them. -/
inductive FieldsPadded (counters : Nat → Prop) :
    List (ParserField Parser) → List (ParserField Parser) → Prop
  | nil : FieldsPadded counters [] []
  | cons {f f' : Field} {stacked stacked' : List (Stacked Parser)}
      {rest rest' : List (ParserField Parser)} :
    f.Padded f' → StackedPadded counters stacked stacked' → FieldsPadded counters rest rest' →
      FieldsPadded counters (⟨f, stacked⟩ :: rest) (⟨f', stacked'⟩ :: rest')

/-- Futile steps are inserted into stacked parsers. -/
inductive StackedPadded (counters : Nat → Prop) :
    List (Stacked Parser) → List (Stacked Parser) → Prop
  | nil : StackedPadded counters [] []
  | cons {p p' : Parser} {how : Aggregation} {flatten : Bool} {rest rest' : List (Stacked Parser)} :
    Padded counters p p' → StackedPadded counters rest rest' →
      StackedPadded counters (⟨p, how, flatten⟩ :: rest) (⟨p', how, flatten⟩ :: rest')

end

variable {counters : Nat → Prop}

theorem Padded.profile_eq {p p' : Parser} (h : p.Padded counters p') : p'.profile = p.profile := by
  obtain ⟨-, -, -, -⟩ := h
  rfl

theorem judged_padded {filters filters' : List RecordFilter}
    (h : Intake.Padded (RecordFilter.IsFutile counters) filters filters')
    (hcounts : ∀ f ∈ filters, f.CountsIn counters) (parser : String) (r : Record) :
    Run.Parallel (Session.SameFor counters) Eq (judged parser filters r)
      (judged parser filters' r) := by
  unfold judged
  refine (Session.excludes_padded h hcounts _ _).bind_same fun filtered => ?_
  cases filtered with
  | true => exact (Session.SameFor.congruence.note _).bind_same fun _ => .pure rfl
  | false => exact .pure rfl

/-- A field comes to the same with futile steps inserted into its locators. -/
theorem simulates_padded {f f' : Field} (h : f.Padded f') :
    f.Simulates (Session.SameFor counters) Eq f' := by
  have hreadings : Session.OverlooksReadings (Session.SameFor counters) :=
    Session.SameFor.overlooksReadings
  refine ⟨h.name_eq, ?_, ?_, ?_, ?_⟩
  · intro v
    unfold isSpread
    rw [h.isDynamic_eq, h.isSplit_eq]
  · rintro a _ rfl
    refine .resolving hreadings ?_
    rw [Context.resolveField_padded h]
    exact .of_eq (fun _ => rfl) _
  · rintro a _ rfl v
    refine .resolving hreadings ?_
    rw [a.spread_padded h v]
    exact .of_eq (fun r => .of_eq a rfl) _
  · rintro a _ rfl v
    rw [a.record.apply_padded h]
    exact .of_eq (fun r => .of_eq a rfl) _

mutual

/-- **A parser goes in step with the one that has futile steps inserted**, at any depth. -/
theorem padded_simulates : (p : Parser) → {p' : Parser} → p.Padded counters p' →
    Simulates (Session.SameFor counters) Eq Eq p p'
  | mk _ _ _ fields, _, .intro hpre hcounts hfilters hfields =>
    .of_profile_eq rfl (Session.preParsed_sameFor hpre) (fields_simulate_padded fields hfields)
      (judged_padded hfilters hcounts _)

theorem fields_simulate_padded : (fields : List (ParserField Parser)) →
    {fields' : List (ParserField Parser)} → FieldsPadded counters fields fields' →
    FieldsSimulate (Session.SameFor counters) Eq fields fields'
  | [], _, .nil => .nil
  | ⟨_, stacked⟩ :: rest, _, .cons hf hstacked hrest =>
    .cons (simulates_padded hf) (stacked_simulate_padded stacked hstacked)
      (fields_simulate_padded rest hrest)

theorem stacked_simulate_padded : (stacked : List (Stacked Parser)) →
    {stacked' : List (Stacked Parser)} → StackedPadded counters stacked stacked' →
    StackedSimulate (Session.SameFor counters) Eq stacked stacked'
  | [], _, .nil => .nil
  | ⟨p, _, _⟩ :: rest, _, .cons hp hrest =>
    .cons_same (padded_simulates p hp) (congrArg Profile.name hp.profile_eq)
      (stacked_simulate_padded rest hrest)

end

/-- **An item comes to the same without futile steps**, in sessions that agree for the parser's own
parts, and leaves such sessions behind. -/
theorem parse_padded {p p' : Parser} (h : p.Padded counters p') (host : Host) (source : Source)
    (metadata : Keyed Value) (input : RawData) {s s' : Session} (hs : s.SameFor counters s') :
    (p.parse host source metadata input s).result =
        (p'.parse host source metadata input s').result ∧
      (p.parse host source metadata input s).input =
        (p'.parse host source metadata input s').input ∧
      (p.parse host source metadata input s).session.SameFor counters
        (p'.parse host source metadata input s').session :=
  parse_parallel Session.SameFor.congruence (padded_simulates p h) host source metadata input hs

end Parser

end Intake
