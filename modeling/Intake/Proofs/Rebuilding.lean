import Intake.Proofs.Futile
import Intake.Proofs.Precedence

/-!
# Building parsers with steps that always fail

Futile steps read no fields and do not change where locators look. So a blueprint with such steps
inserted is built, arranged or refused like the one without them.

* `Blueprint.checkFields_padded`, `Blueprint.arranged_padded`: fields are accepted and arranged in
  the same way.
* `Blueprint.Padded`: futile steps and record filters are inserted into a blueprint.
* `Blueprint.build_padded`: **both blueprints are refused in the same way, or the parsers that are
  built of them do the same with every item.**
-/

namespace Intake

namespace Field

variable {f f' : Field}

theorem Padded.allLocators (h : f.Padded f') :
    List.Forall₂ Locator.Padded f.allLocators f'.allLocators := by
  obtain ⟨hlocators, hnames⟩ := h
  refine List.rel_append hlocators ?_
  exact List.forall₂_map_left_iff.2 (List.forall₂_map_right_iff.2 (hnames.imp fun _ _ he => he.2))

theorem Padded.references_eq (h : f.Padded f') : f'.references = f.references := by
  unfold references
  rw [flatMap_eq_of_pairs h.allLocators fun _ _ hl => hl.references_eq]

theorem Padded.isCollection_eq (h : f.Padded f') : f'.isCollection = f.isCollection := by
  obtain ⟨-, -⟩ := h
  rfl

theorem Padded.isEnumeration_eq (h : f.Padded f') : f'.isEnumeration = f.isEnumeration := by
  obtain ⟨-, -⟩ := h
  rfl

theorem Padded.bare_eq (h : f.Padded f') : f'.bare = f.bare := by
  have hlocators : f'.locators.map Locator.bare = f.locators.map Locator.bare :=
    map_eq_of_pairs h.locators fun _ _ hl => hl.pointsAlike.bare_eq
  have hnames : f'.nameLocators.map (fun e => (e.1, e.2.bare)) =
      f.nameLocators.map fun e => (e.1, e.2.bare) := by
    refine map_eq_of_pairs h.nameLocators fun e e' he => ?_
    rw [he.1, he.2.pointsAlike.bare_eq]
  obtain ⟨-, -⟩ := h
  simp only [bare, hlocators, hnames]

end Field

theorem Resolver.accept_padded (r : Resolver) {f f' : Field} (h : f.Padded f') :
    r.accept f' = r.accept f := by
  have hcounts : ∀ l l' : Locator, l.Padded l' → countsMatches l' = countsMatches l := by
    intro l l' hl
    unfold countsMatches
    rw [hl.pointsAlike.kind]
  have hgroup : ∀ l l' : Locator, l.Padded l' → meansGroup l' = meansGroup l := by
    intro l l' hl
    unfold meansGroup
    rw [hl.pointsAlike.kind]
  cases r with
  | json | map => rfl
  | custom own => rw [accept, accept, h.name_eq, h.bare_eq]
  | regex pattern whole collects =>
    rw [accept, accept, h.name_eq, any_eq_of_pairs h.locators hcounts,
      any_eq_of_pairs h.locators hgroup, any_eq_of_pairs h.allLocators hcounts]

namespace Parser

variable {counters : Nat → Prop}

mutual

/-- All fields of a parser, those of stacked parsers among them, have futile steps inserted. -/
theorem allFields_padded : (p : Parser) → {p' : Parser} → p.Padded counters p' →
    List.Forall₂ Field.Padded (allFields p) (allFields p')
  | mk _ _ _ fields, _, .intro _ _ _ hfields => fieldsOfAll_padded fields hfields

theorem fieldsOfAll_padded : (fields : List (ParserField Parser)) →
    {fields' : List (ParserField Parser)} → FieldsPadded counters fields fields' →
    List.Forall₂ Field.Padded (fieldsOfAll fields) (fieldsOfAll fields')
  | [], _, .nil => .nil
  | ⟨_, stacked⟩ :: rest, _, .cons hf hstacked hrest =>
    .cons hf (List.rel_append (fieldsOfStacked_padded stacked hstacked)
      (fieldsOfAll_padded rest hrest))

theorem fieldsOfStacked_padded : (stacked : List (Stacked Parser)) →
    {stacked' : List (Stacked Parser)} → StackedPadded counters stacked stacked' →
    List.Forall₂ Field.Padded (fieldsOfStacked stacked) (fieldsOfStacked stacked')
  | [], _, .nil => .nil
  | ⟨p, _, _⟩ :: rest, _, .cons hp hrest =>
    List.rel_append (allFields_padded p hp) (fieldsOfStacked_padded rest hrest)

end

/-- Fields have futile steps inserted pair by pair. -/
theorem fieldsPadded_iff {fields fields' : List (ParserField Parser)} :
    FieldsPadded counters fields fields' ↔
      List.Forall₂ (fun pf pf' => pf.field.Padded pf'.field ∧
        StackedPadded counters pf.stacked pf'.stacked) fields fields' := by
  constructor
  · intro h
    induction fields generalizing fields' with
    | nil =>
      cases h
      exact .nil
    | cons pf rest ih =>
      obtain _ | ⟨hf, hstacked, hrest⟩ := h
      exact .cons ⟨hf, hstacked⟩ (ih hrest)
  · intro h
    induction h with
    | nil => exact .nil
    | cons hpf _ ih => exact .cons hpf.1 hpf.2 ih

end Parser

namespace Blueprint

open Intake.Parser

variable {counters : Nat → Prop}

theorem checkField_padded (r : Resolver) {before before' : List Field} {f f' : Field}
    (hbefore : List.Forall₂ Field.Padded before before') (h : f.Padded f') :
    checkField r before' f' = checkField r before f := by
  have hkinds : f'.allLocators.map (·.kind) = f.allLocators.map (·.kind) :=
    map_eq_of_pairs h.allLocators fun _ _ hl => hl.pointsAlike.kind
  have hnames : before'.any (·.name == f.name) = before.any (·.name == f.name) :=
    any_eq_of_pairs hbefore fun _ _ hg => by rw [hg.name_eq]
  unfold checkField
  rw [hkinds, h.name_eq, hnames, h.isCollection_eq, h.isEnumeration_eq,
    h.locators.length_eq, r.accept_padded h]

/-- Fields pass the checks in the same way. -/
theorem checkFields_padded (r : Resolver) {before before' fs fs' : List Field}
    (hbefore : List.Forall₂ Field.Padded before before') (h : List.Forall₂ Field.Padded fs fs') :
    checkFields r before' fs' = checkFields r before fs := by
  induction h generalizing r before before' with
  | nil => rfl
  | cons hf _ ih =>
    rw [checkFields, checkFields, checkField_padded r hbefore hf]
    congr 1
    funext r'
    exact ih r' (List.rel_append hbefore (.cons hf .nil))

theorem needs_padded {f f' : Field} (h : f.Padded f') : needs f' = needs f := by
  unfold needs
  rw [h.references_eq]

theorem placesOf_padded {fs fs' : List Field} (h : List.Forall₂ Field.Padded fs fs')
    (name : String) : placesOf fs' name = placesOf fs name := by
  unfold placesOf
  generalize 0 = start
  induction h generalizing start with
  | nil => rfl
  | cons hf _ ih =>
    simp only [List.zipIdx_cons, List.filter_cons, hf.name_eq]
    split
    · rw [List.map_cons, List.map_cons, ih]
    · exact ih _

theorem references_padded {fs fs' : List Field} (h : List.Forall₂ Field.Padded fs fs') :
    references fs' = references fs := by
  unfold references
  rw [h.length_eq]
  congr 1
  refine flatMap_eq_of_pairs (forall₂_zipIdx h 0) ?_
  rintro ⟨f, i⟩ ⟨f', i'⟩ ⟨hf, rfl⟩
  simp only [needs_padded hf, placesOf_padded h]

theorem unknownReference?_padded {known known' fs fs' : List Field}
    (hknown : List.Forall₂ Field.Padded known known') (h : List.Forall₂ Field.Padded fs fs') :
    unknownReference? known' fs' = unknownReference? known fs := by
  unfold unknownReference?
  rw [any_eq_of_pairs hknown fun _ _ hf => hf.isDynamic_eq]
  refine congrArg _ (findSome?_eq_of_pairs h fun f f' hf => ?_)
  have hnames : ∀ r, known'.any (·.name == r) = known.any (·.name == r) := fun r =>
    any_eq_of_pairs hknown fun _ _ hg => by rw [hg.name_eq]
  simp only [needs_padded hf, hf.name_eq, hnames]

/-- The fields themselves, without the parsers stacked on them, have futile steps inserted. -/
theorem own_padded {fields fields' : List (ParserField Parser)}
    (h : FieldsPadded counters fields fields') :
    List.Forall₂ Field.Padded (own fields) (own fields') :=
  List.forall₂_map_left_iff.2 (List.forall₂_map_right_iff.2
    ((fieldsPadded_iff.1 h).imp fun _ _ hpf => hpf.1))

/-- The field at a place has the name of the one without futile steps. -/
theorem name_at_padded {fs fs' : List Field} (h : List.Forall₂ Field.Padded fs fs') (place : Nat) :
    (fs'[place]?).elim "" (·.name) = (fs[place]?).elim "" (·.name) := by
  have hplace := rel_getElem? h place
  generalize fs[place]? = x at hplace ⊢
  generalize fs'[place]? = y at hplace ⊢
  cases hplace with
  | some hf => exact hf.name_eq
  | none => rfl

/-- Fields are arranged in the same order, or refused in the same way. -/
theorem arranged_padded (arrange : Bool) {fields fields' : List (ParserField Parser)}
    (h : FieldsPadded counters fields fields') :
    SameOutcome (FieldsPadded counters) (arranged arrange fields) (arranged arrange fields') := by
  have hpairs := fieldsPadded_iff.1 h
  have hown := own_padded h
  unfold arranged
  simp only [unknownReference?_padded (fieldsOfAll_padded fields h) hown, references_padded hown,
    name_at_padded hown]
  cases unknownReference? (fieldsOfAll fields) (fields.map (·.field)) with
  | some e => exact .error e
  | none =>
    simp only
    cases (references (fields.map (·.field))).order with
    | error place => exact .error _
    | ok order =>
      refine .ok ?_
      split
      · -- at each place of the order stands a pair
        refine fieldsPadded_iff.2 (List.rel_filterMap (R := Eq) ?_ (List.forall₂_refl order))
        rintro i _ rfl
        exact rel_getElem? hpairs i
      · exact h

/-- Futile steps are inserted into a blueprint: into its fields, into the parsers stacked on them,
and among its record filters. -/
inductive Padded (counters : Nat → Prop) (b : Blueprint) : Blueprint → Prop
  | intro {fields : List (ParserField Parser)} {filters : List RecordFilter} :
    (∀ q ∈ b.preParsers, q.CountsIn counters) → (∀ f ∈ b.filters, f.CountsIn counters) →
      Intake.Padded (RecordFilter.IsFutile counters) b.filters filters →
        FieldsPadded counters b.fields fields → Padded counters b { b with fields, filters }

/-- **Steps that always fail make no difference.** With transforms, value filters and record filters
that always fail inserted anywhere, also into the parsers stacked on fields, a blueprint is refused
in the same way, or the parsers come to the same with every item: to the same record, to none, or to
the same failure, item after item. The transforms and value filters must not say that they read
fields, and the record filters must not share counters with other parts. -/
theorem build_padded {b b' : Blueprint} (h : b.Padded counters b') :
    SameOutcome
      (fun p p' => p.Padded counters p' ∧
        ∀ (host : Host) (source : Source) (metadata : Keyed Value) (input : RawData)
          (s s' : Session), s.SameFor counters s' →
          (p.parse host source metadata input s).result =
              (p'.parse host source metadata input s').result ∧
            (p.parse host source metadata input s).input =
              (p'.parse host source metadata input s').input ∧
            (p.parse host source metadata input s).session.SameFor counters
              (p'.parse host source metadata input s').session)
      b.build b'.build := by
  -- building sees neither transforms nor filters, so it goes the same way
  have hpadded : SameOutcome (Parser.Padded counters) b.build b'.build := by
    obtain ⟨hpre, hcounts, hfilters, hfields⟩ := h
    unfold build
    simp only [checkFields_padded b.resolver .nil (own_padded hfields)]
    refine SameOutcome.bind (.of_eq (fun _ => rfl) _) fun properties _ hproperties => ?_
    obtain rfl := hproperties
    refine SameOutcome.bind (.of_eq (fun _ => rfl) _) fun resolver _ hresolver => ?_
    obtain rfl := hresolver
    refine (arranged_padded properties.arrangeFields hfields).bind fun fields fields' hout => ?_
    exact .ok (.intro hpre hcounts hfilters hout)
  exact hpadded.mono fun p p' hp =>
    ⟨hp, fun host source metadata input _ _ hs => parse_padded hp host source metadata input hs⟩

/-- Events, of which every second one is excluded. -/
def everySecond : RecordFilter :=
  .custom "every second" 0 fun asked _ => .ok (asked % 2 == 1)

/-- A blueprint for events. -/
def sound : Blueprint where
  name := "events"
  resolver := .map
  fields := [⟨{ name := "EventName", locators := [{ location := "op" }] }, []⟩]
  filters := [everySecond]

/-- A transform that always fails. -/
def brokenTransform (phase : Phase) : Transform :=
  .custom "broken" phase [] fun _ _ => .error "broken"

/-- A value filter that always fails. -/
def brokenFilter : ValueFilter :=
  .custom "broken" [] fun _ _ => .error "broken"

/-- A record filter that always fails. -/
def brokenJudge : RecordFilter :=
  .custom "broken" 1 fun _ _ => .error "broken"

/-- The blueprint for events, with steps that are broken. -/
def shaky : Blueprint :=
  { sound with
    fields := [⟨{ name := "EventName", locators := [{
      location := "op"
      transforms := [brokenTransform .raw, brokenTransform .formatted]
      filters := [brokenFilter] }] }, []⟩]
    filters := [brokenJudge, everySecond, brokenJudge] }

theorem sound_shaky : sound.Padded (fun n => n = 0) shaky := by
  have htransform : ∀ phase, (brokenTransform phase).IsFutile := fun _ =>
    ⟨rfl, fun _ _ => ⟨_, rfl⟩⟩
  have hfilter : brokenFilter.IsFutile := ⟨rfl, fun _ _ => ⟨_, rfl⟩⟩
  have hjudge : brokenJudge.IsFutile fun n => n = 0 := ⟨Nat.one_ne_zero, fun _ _ => ⟨_, rfl⟩⟩
  refine .intro nofun ?_ (.insert hjudge (.keep (.insert hjudge .nil))) (.cons ?_ .nil .nil)
  · intro f hf
    obtain rfl := List.mem_singleton.1 hf
    rfl
  · exact .intro (.cons (.intro (.insert (htransform _) (.insert (htransform _) .nil))
      (.insert hfilter .nil)) .nil) .nil

/-- What becomes of a login if the parser of a blueprint reads it. -/
def loginOutcome (p : Parser) : Outcome :=
  p.parse { now := ⟨0⟩, env := fun _ => none } { name := "test" } [] (.map [("op", .str "login")])
    { cache := default, ids := { id := toString } }

/-- The parser of the sound blueprint. -/
def soundParser : Parser := .mk ⟨"events", {}, .map⟩ [] sound.filters sound.fields

theorem build_sound : sound.build = .ok soundParser := by
  have hp : sound.base.setAll sound.properties = .ok {} := rfl
  have hr : checkFields sound.resolver [] (own sound.fields) = .ok .map := rfl
  rw [build_eq hp hr,
    arranged_of_no_edges (unknownReference?_eq_none_iff.1 (by decide)) (by decide)]
  rfl

theorem shaky_login :
    sound.Padded (fun n => n = 0) shaky ∧
      ∃ p r, shaky.build = .ok p ∧ (loginOutcome p).result = .ok (some r) ∧
        (loginOutcome soundParser).result = .ok (some r) ∧ r.facts.eventName = some "login" := by
  have hsame := build_padded sound_shaky
  rw [build_sound] at hsame
  obtain ⟨r, hr, hlogin⟩ : ∃ r, (loginOutcome soundParser).result = .ok (some r) ∧
      r.facts.eventName = some "login" := ⟨_, rfl, rfl⟩
  generalize hbuild : shaky.build = built at hsame
  cases hsame with
  | ok hp =>
    obtain ⟨-, hparse⟩ := hp
    obtain ⟨hresult, -, -⟩ := hparse { now := ⟨0⟩, env := fun _ => none } { name := "test" } []
      (.map [("op", .str "login")]) _ _ ⟨rfl, rfl, fun _ _ => rfl⟩
    exact ⟨sound_shaky, _, r, rfl, hresult.symm.trans hr, hr, hlogin⟩

end Blueprint

end Intake
