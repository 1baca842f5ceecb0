import Intake.Proofs.Hits
import Intake.Proofs.Simulation

/-!
# Always collecting matches

A parser may collect successive matches although none of its fields counts them. It comes to the
same as one that collects them only where they are counted.

* `Parser.collecting`: a parser that always collects matches, and so do those stacked on it.
* `Parser.Watches`: wherever a field counts matches, they are collected.
* `Context.Recollects`: contexts that are the same but for matches that no field counts.
* `Parser.collecting_simulates`: **where all matches that are counted are collected, it makes no
  difference that others are too**, neither to the parsers stacked on a field nor to an item.
-/

namespace Intake

namespace Parser

open Attempt

mutual

/-- The parser that collects successive matches in any case, and so do those stacked on it. -/
def collecting : Parser → Parser
  | mk profile preParsers filters fields =>
    mk profile.collecting preParsers filters (collectingFields fields)

/-- The fields, with parsers stacked on them that always collect matches. -/
def collectingFields : List (ParserField Parser) → List (ParserField Parser)
  | [] => []
  | ⟨f, stacked⟩ :: rest => ⟨f, collectingStacked stacked⟩ :: collectingFields rest

/-- The stacked parsers, which always collect matches. -/
def collectingStacked : List (Stacked Parser) → List (Stacked Parser)
  | [] => []
  | ⟨p, how, flatten⟩ :: rest => ⟨collecting p, how, flatten⟩ :: collectingStacked rest

end

theorem profile_collecting (p : Parser) : p.collecting.profile = p.profile.collecting := by
  cases p
  rfl

theorem preParsers_collecting (p : Parser) : p.collecting.preParsers = p.preParsers := by
  cases p
  rfl

theorem name_collecting (p : Parser) : p.collecting.name = p.name := by
  cases p
  rfl

/-- The resolver of a parser collects the matches that its fields count, and so it is for the
parsers stacked on them. -/
inductive Watches : Parser → Prop
  | intro {p : Parser} :
    (∀ pf ∈ p.fields, p.profile.resolver.Serves pf.field) →
      (∀ pf ∈ p.fields, ∀ st ∈ pf.stacked, Watches st.parser) → Watches p

end Parser

/-- The first context is one of a parser of this profile with these fields, and the second one is
that of the parser that always collects matches. The matches may differ only if no field counts
them. -/
def Context.Recollects (profile : Profile) (fs : List Field) (a b : Context) : Prop :=
  a.profile = profile ∧ ∃ hits?, (∀ f ∈ fs, f.Heedless hits?) ∧ b = a.collecting hits?

namespace Context

variable {profile : Profile} {fs : List Field} {a b : Context}

theorem recollects_congruence (profile : Profile) (fs : List Field) :
    Context.Congruence (Recollects profile fs) where
  name_eq := by
    rintro a _ ⟨-, hits?, -, rfl⟩
    rfl
  isTop_eq := by
    rintro a _ ⟨-, hits?, -, rfl⟩
    rfl
  atField := by
    rintro a _ ⟨hprofile, hits?, hheedless, rfl⟩ field
    exact ⟨hprofile, hits?, hheedless, rfl⟩

/-- A record that both contexts get leaves them the same but for the matches. -/
theorem joins_recollecting (h : Recollects profile fs a b) (r : Record) :
    Joins (Recollects profile fs) a b r r := by
  obtain ⟨hprofile, hits?, hheedless, rfl⟩ := h
  exact ⟨hprofile, hits?, hheedless, rfl⟩

theorem record_of_recollects (h : Recollects profile fs a b) : b.record = a.record := by
  obtain ⟨-, hits?, -, rfl⟩ := h
  rfl

end Context

namespace Parser

open Attempt

variable {profile : Profile} {fs : List Field} {a b : Context}

/-- A field does not depend on matches that it does not count. -/
theorem simulates_recollecting {f : Field} (hf : f ∈ fs) :
    f.Simulates Eq (Context.Recollects profile fs) f := by
  refine ⟨rfl, fun _ => rfl, ?_, ?_, ?_⟩
  · rintro a _ ⟨-, hits?, hheedless, rfl⟩
    exact .resolving_same .eq (a.resolveField_collecting (hheedless f hf)).symm
  · intro a b h v
    have hspread : a.spread f v = b.spread f v := by
      obtain ⟨-, hits?, hheedless, rfl⟩ := h
      exact (a.spread_collecting (hheedless f hf) v).symm
    refine (Parallel.resolving_same .eq hspread).mono fun r r' hr => ?_
    obtain rfl := hr
    exact Context.joins_recollecting h r
  · intro a b h v
    rw [Context.record_of_recollects h]
    exact .of_eq (Context.joins_recollecting h) _

/-- What is taken up does not depend on matches. -/
theorem takeUp_recollecting (h : a.Recollects profile fs b) (parser : String) (how : Aggregation)
    (flatten : Bool) (r : Record) :
    SameOutcome (Context.Recollects profile fs) (takeUp a parser how flatten r)
      (takeUp b parser how flatten r) := by
  have hrecord := Context.record_of_recollects h
  have hhost : b.host = a.host := by
    obtain ⟨-, hits?, -, rfl⟩ := h
    rfl
  cases how with
  | merge =>
    refine .ok ?_
    rw [hrecord]
    exact Context.joins_recollecting h _
  | relate =>
    refine takeUp_relate_parallel hhost fun timed => ?_
    rw [hrecord]
    exact Context.joins_recollecting h _

/-- The message of a record does not depend on matches. -/
theorem withDefaultMessage_recollecting (h : a.Recollects profile fs b) (dataAsMessage : Bool) :
    withDefaultMessage profile.collecting dataAsMessage b =
      withDefaultMessage profile dataAsMessage a := by
  obtain ⟨rfl, hits?, -, rfl⟩ := h
  unfold withDefaultMessage
  simp only [Profile.collecting, Context.collecting, Resolver.defaultMessage?_collecting]

/-- The parts that a parser has for itself do not depend on matches that its fields do not count. -/
theorem own_simulates_collecting (p : Parser)
    (hserves : ∀ pf ∈ p.fields, p.profile.resolver.Serves pf.field) :
    OwnSimulates Eq
      (fun d d' => ∃ hits?, (∀ f ∈ p.fields.map (·.field), f.Heedless hits?) ∧
        d' = p.profile.resolver.withHits hits? d)
      (Context.Recollects p.profile (p.fields.map (·.field))) Eq p p.collecting := by
  have hprofile := profile_collecting p
  refine ⟨by rw [hprofile]; rfl, by rw [hprofile]; rfl, Context.recollects_congruence _ _, ?_, ?_,
    ?_, ?_, ?_⟩
  · intro raw
    rw [preParsers_collecting]
    exact .same _
  · intro raw
    -- the items made ready differ in the matches alone, which no field heeds
    obtain ⟨hits?, hheedless, hprepare⟩ :=
      Resolver.prepare_collecting (List.forall_mem_map.2 hserves) raw
    have hresolver : p.collecting.profile.resolver = p.profile.resolver.collecting := by
      rw [hprofile]
      rfl
    rw [hresolver, hprepare]
    refine .of_map (fun data => ?_) _
    cases data with
    | none => exact .none
    | some data => exact .some ⟨hits?, hheedless, rfl⟩
  · rintro d _ ⟨hits?, hheedless, rfl⟩ host source metadata raw cache
    refine ⟨rfl, hits?, hheedless, ?_⟩
    unfold opening
    rw [hprofile]
    rfl
  · intro a b h dataAsMessage
    rw [hprofile, withDefaultMessage_recollecting h]
    exact .of_eq (fun _ => rfl) _
  · rintro r _ rfl now
    exact .of_eq (fun _ => rfl) _

mutual

/-- **A parser comes to the same if it always collects matches**, wherever those that fields count
are collected. Of the contexts around it only what it sees of them has to be the same. -/
theorem collecting_simulates : (p : Parser) → p.Watches → {O : Context → Context → Prop} →
    (∀ {a b}, O a b → ∀ profile raw data, b.inner profile raw data = a.inner profile raw data) →
    Simulates Eq O Eq p p.collecting
  | mk profile preParsers filters fields, .intro hserves hstacked, O, hO => by
    have hfields := collectingFields_simulate profile (fields.map (·.field)) fields
      (fun pf hpf => List.mem_map_of_mem hpf) hstacked
    refine .intro (own_simulates_collecting _ hserves) ?_ hfields ?_
    · rintro a b d _ h ⟨hits?, hheedless, rfl⟩ raw
      rw [hO h]
      exact ⟨rfl, hits?, hheedless, rfl⟩
    · rintro r _ rfl
      exact .same _

theorem collectingFields_simulate (profile : Profile) (fs : List Field) :
    (fields : List (ParserField Parser)) → (∀ pf ∈ fields, pf.field ∈ fs) →
    (∀ pf ∈ fields, ∀ st ∈ pf.stacked, st.parser.Watches) →
    FieldsSimulate Eq (Context.Recollects profile fs) fields (collectingFields fields)
  | [], _, _ => .nil
  | ⟨f, stacked⟩ :: rest, hfs, hstacked =>
    .cons (simulates_recollecting (hfs ⟨f, stacked⟩ List.mem_cons_self))
      (collectingStacked_simulate profile fs stacked (hstacked _ List.mem_cons_self))
      (collectingFields_simulate profile fs rest (fun pf hpf => hfs pf (List.mem_cons_of_mem _ hpf))
        fun pf hpf => hstacked pf (List.mem_cons_of_mem _ hpf))

theorem collectingStacked_simulate (profile : Profile) (fs : List Field) :
    (stacked : List (Stacked Parser)) → (∀ st ∈ stacked, st.parser.Watches) →
    StackedSimulate Eq (Context.Recollects profile fs) stacked (collectingStacked stacked)
  | [], _ => .nil
  | ⟨p, how, flatten⟩ :: rest, hstacked => by
    have hp : Simulates Eq (Context.Recollects profile fs) Eq p p.collecting := by
      refine collecting_simulates p (hstacked ⟨p, how, flatten⟩ List.mem_cons_self) ?_
      rintro a _ ⟨-, hits?, -, rfl⟩ profile raw data
      rfl
    refine .cons hp ?_ (collectingStacked_simulate profile fs rest fun st hst =>
      hstacked st (List.mem_cons_of_mem _ hst))
    rintro a b r _ h rfl
    rw [name_collecting]
    exact takeUp_recollecting h p.name how flatten r

end

end Parser

end Intake
