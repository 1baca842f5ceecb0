import Intake.Proofs.Collecting
import Intake.Proofs.Registries
import Intake.Proofs.Required

/-!
# Collecting matches on demand

While a parser on a regular expression is built, its resolver learns from the fields whether it has
to collect successive matches. Nobody can tell whether it does: the parser comes to the same as one
that always collects them.

* `Resolver.serving`, `checkFields_serving`: what a resolver has learnt from fields.
* `Blueprint.build_collecting`: what always collects is built from a blueprint in the same way.
* `Parser.Built.watches`: a parser that was built collects what its fields count.
* `Blueprint.same_if_always_collecting`: **whether matches are collected on demand or always, a
  parser comes to the same**, for every input and as a stacked parser.
* `Registry.indistinguishable_of_build`: so it is for every parser of a registry.
-/

namespace Intake

namespace Resolver

/-- The resolver after fields are registered: it collects matches if one of them counts them. -/
def serving (r : Resolver) (fs : List Field) : Resolver :=
  match r with
  | regex pattern whole collects =>
    regex pattern whole (collects || fs.any fun f => f.allLocators.any countsMatches)
  | r => r

theorem serving_nil (r : Resolver) : r.serving [] = r := by
  cases r with
  | regex pattern whole collects => simp [serving]
  | _ => rfl

theorem serving_cons (r : Resolver) (f : Field) (fs : List Field) :
    (r.serving [f]).serving fs = r.serving (f :: fs) := by
  cases r with
  | regex pattern whole collects => simp [serving, Bool.or_assoc]
  | _ => rfl

/-- A resolver that has learnt from fields serves each of them. -/
theorem serving_serves (r : Resolver) {fs : List Field} {f : Field} (hf : f ∈ fs) :
    (r.serving fs).Serves f := by
  cases r with
  | regex pattern whole collects =>
    intro hcounts
    rw [List.any_eq_true.2 ⟨f, hf, hcounts⟩, Bool.or_true]
  | _ => trivial

theorem accept_serving {r r' : Resolver} {f : Field} (h : r.accept f = .ok r') :
    r' = r.serving [f] := by
  cases r with
  | regex pattern whole collects =>
    rw [accept] at h
    split at h
    · cases h
    · simpa [serving] using (Except.ok.inj h).symm
  | custom own =>
    rw [accept] at h
    split at h
    · cases h
    · exact (Except.ok.inj h).symm
  | _ => exact (Except.ok.inj h).symm

/-- A field is accepted in the same way by a resolver that always collects matches. -/
theorem accept_collecting (r : Resolver) (f : Field) :
    r.collecting.accept f = (r.accept f).map collecting := by
  cases r with
  | regex pattern whole collects =>
    rw [collecting, accept, accept]
    split <;> rfl
  | custom own =>
    change (custom own).accept f = _
    rw [accept]
    split <;> rfl
  | _ => rfl

end Resolver

namespace Blueprint

open Intake.Parser (collectingFields)

theorem checkFields_serving {r r' : Resolver} {before fs : List Field}
    (h : checkFields r before fs = .ok r') : r' = r.serving fs := by
  induction fs generalizing r before with
  | nil => exact (Except.ok.inj h).symm.trans r.serving_nil.symm
  | cons f rest ih =>
    rw [checkFields] at h
    obtain ⟨r₁, hfirst, hrest⟩ := bind_eq_ok.1 h
    obtain ⟨-, -, haccept⟩ := checkField_ok_iff.1 hfirst
    rw [ih hrest, Resolver.accept_serving haccept, Resolver.serving_cons]

theorem checkField_collecting (r : Resolver) (before : List Field) (f : Field) :
    checkField r.collecting before f = (checkField r before f).map Resolver.collecting := by
  rw [checkField_eq, checkField_eq, Resolver.unsupported_collecting, Resolver.accept_collecting]
  split
  · rfl
  · split
    · rfl
    · split <;> rfl

/-- Fields pass the checks in the same way with a resolver that always collects matches. -/
theorem checkFields_collecting (r : Resolver) (before fs : List Field) :
    checkFields r.collecting before fs = (checkFields r before fs).map Resolver.collecting := by
  induction fs generalizing r before with
  | nil => rfl
  | cons f rest ih =>
    rw [checkFields, checkFields, checkField_collecting]
    cases checkField r before f with
    | error e => rfl
    | ok r₁ => exact ih r₁ (before ++ [f])

end Blueprint

namespace Parser

theorem collectingFields_eq_map (fields : List (ParserField Parser)) :
    collectingFields fields =
      fields.map fun pf => ⟨pf.field, collectingStacked pf.stacked⟩ := by
  induction fields with
  | nil => rfl
  | cons pf rest ih => rw [collectingFields, ih, List.map_cons]

mutual

/-- The fields of a parser and of those stacked on it stay as they are. -/
theorem allFields_collecting : (p : Parser) → allFields p.collecting = allFields p
  | mk _ _ _ fields => fieldsOfAll_collecting fields

theorem fieldsOfAll_collecting : (fields : List (ParserField Parser)) →
    fieldsOfAll (collectingFields fields) = fieldsOfAll fields
  | [] => rfl
  | ⟨f, stacked⟩ :: rest => by
    rw [collectingFields, fieldsOfAll, fieldsOfAll, fieldsOfStacked_collecting stacked,
      fieldsOfAll_collecting rest]

theorem fieldsOfStacked_collecting : (stacked : List (Stacked Parser)) →
    fieldsOfStacked (collectingStacked stacked) = fieldsOfStacked stacked
  | [] => rfl
  | ⟨p, _, _⟩ :: rest => by
    rw [collectingStacked, fieldsOfStacked, fieldsOfStacked, allFields_collecting p,
      fieldsOfStacked_collecting rest]

end

end Parser

namespace Blueprint

open Intake.Parser (collectingFields)

theorem own_collecting (fields : List (ParserField Parser)) :
    own (collectingFields fields) = own fields := by
  rw [Parser.collectingFields_eq_map, own, List.map_map]
  rfl

theorem arranged_collecting (arrange : Bool) (fields : List (ParserField Parser)) :
    arranged arrange (collectingFields fields) =
      (arranged arrange fields).map collectingFields := by
  have hplace : ∀ i : Nat, (collectingFields fields)[i]? =
      (fields[i]?).map fun pf => ⟨pf.field, Parser.collectingStacked pf.stacked⟩ := by
    intro i
    rw [Parser.collectingFields_eq_map, List.getElem?_map]
  -- The graph is made from the fields alone, so that both have the same order of places.
  have hown := own_collecting fields
  unfold own at hown
  unfold arranged
  simp only [Parser.fieldsOfAll_collecting, hown]
  cases unknownReference? (Parser.fieldsOfAll fields) (fields.map (·.field)) with
  | some e => rfl
  | none =>
    simp only
    cases (references (fields.map (·.field))).order with
    | error place => rfl
    | ok order =>
      simp only [Except.map]
      split
      · rw [Parser.collectingFields_eq_map (order.filterMap _), List.map_filterMap]
        simp only [hplace]
      · rfl

/-- What a parser that always collects matches is built from, and those stacked on it. -/
def collecting (b : Blueprint) : Blueprint :=
  { b with resolver := b.resolver.collecting, fields := collectingFields b.fields }

/-- A parser that always collects matches is built in the same way, or refused. -/
theorem build_collecting (b : Blueprint) : b.collecting.build = b.build.map Parser.collecting := by
  -- The steps of building are compared one by one; each of the three may refuse.
  have hbuild : b.collecting.build = (do
      let properties ← b.base.setAll b.properties
      let resolver ← checkFields b.resolver.collecting [] (own (collectingFields b.fields))
      let fields ← arranged properties.arrangeFields (collectingFields b.fields)
      return .mk ⟨properties.parserName.getD b.name, properties, resolver⟩ b.preParsers b.filters
        fields) := rfl
  rw [hbuild, own_collecting, checkFields_collecting]
  unfold build
  cases b.base.setAll b.properties with
  | error e => rfl
  | ok properties =>
    change ((checkFields b.resolver [] (own b.fields)).map Resolver.collecting >>= _) =
      (checkFields b.resolver [] (own b.fields) >>= _).map _
    cases checkFields b.resolver [] (own b.fields) with
    | error e => rfl
    | ok resolver =>
      change (arranged properties.arrangeFields (collectingFields b.fields) >>= _) =
        (arranged properties.arrangeFields b.fields >>= _).map _
      rw [arranged_collecting]
      cases arranged properties.arrangeFields b.fields <;> rfl

/-- A parser that was built collects what its fields count, if it is so for those stacked on it. -/
theorem watches_of_build {b : Blueprint} {p : Parser} (hb : b.build = .ok p)
    (hstacked : ∀ pf ∈ b.fields, ∀ st ∈ pf.stacked, st.parser.Watches) : p.Watches := by
  obtain ⟨-, -, hperm, -⟩ := fields_of_build hb
  obtain ⟨properties, resolver, fields, -, hr, -, rfl⟩ := build_ok hb
  refine ⟨fun pf hpf => ?_, fun pf hpf => hstacked pf (hperm.mem_iff.1 hpf)⟩
  obtain rfl := checkFields_serving hr
  exact b.resolver.serving_serves (List.mem_map_of_mem (hperm.mem_iff.1 hpf))

end Blueprint

namespace Parser

/-- The parser was built from a blueprint, and so were those stacked on it. -/
inductive Built : Parser → Prop
  | of_build {b : Blueprint} {p : Parser} : b.build = .ok p →
    (∀ pf ∈ b.fields, ∀ st ∈ pf.stacked, Built st.parser) → Built p

/-- A parser that was built collects the matches that its fields count. -/
theorem Built.watches {p : Parser} (h : p.Built) : p.Watches := by
  induction h with
  | of_build hb _ ih => exact Blueprint.watches_of_build hb ih

/-- The parsers come to the same: the same record, none or failure, the same input left and the same
session after it, for every item and as parsers stacked on a field. -/
structure Indistinguishable (p p' : Parser) : Prop where
  parse : ∀ (host : Host) (source : Source) (metadata : Keyed Value) (input : RawData)
    (session : Session),
    p.parse host source metadata input session = p'.parse host source metadata input session
  parseStacked : ∀ (v : Value) (outer : Context), parseStacked p v outer = parseStacked p' v outer

theorem Indistinguishable.symm {p p' : Parser} (h : p.Indistinguishable p') :
    p'.Indistinguishable p :=
  ⟨fun _ _ _ _ _ => (h.parse ..).symm, fun _ _ => (h.parseStacked ..).symm⟩

theorem Indistinguishable.trans {p p' p'' : Parser} (h : p.Indistinguishable p')
    (h' : p'.Indistinguishable p'') : p.Indistinguishable p'' :=
  ⟨fun _ _ _ _ _ => (h.parse ..).trans (h'.parse ..),
    fun _ _ => (h.parseStacked ..).trans (h'.parseStacked ..)⟩

theorem Watches.indistinguishable {p : Parser} (h : p.Watches) :
    p.collecting.Indistinguishable p := by
  have hsame : Simulates Eq Eq Eq p p.collecting := by
    refine collecting_simulates p h ?_
    rintro a _ rfl profile raw data
    rfl
  exact ⟨hsame.parse_eq, fun v _ => hsame.parseStacked_eq v rfl⟩

end Parser

namespace Blueprint

variable {b : Blueprint} {p : Parser}

theorem resolver_of_build (hb : b.build = .ok p) :
    p.profile.resolver = b.resolver.serving (own b.fields) := by
  obtain ⟨properties, resolver, fields, -, hr, -, rfl⟩ := build_ok hb
  exact checkFields_serving hr

/-- With a resolver that always collects matches, a parser is built that cannot be told from the one
that collects them on demand. -/
theorem build_always_collecting (hb : b.build = .ok p)
    (hstacked : ∀ pf ∈ b.fields, ∀ st ∈ pf.stacked, st.parser.Built) :
    ∃ p', { b with resolver := b.resolver.collecting }.build = .ok p' ∧
      p'.Indistinguishable p := by
  have hwatches : ∀ pf ∈ b.fields, ∀ st ∈ pf.stacked, st.parser.Watches :=
    fun pf hpf st hst => (hstacked pf hpf st hst).watches
  -- both blueprints become the same when all resolvers collect, which neither parser notices
  have hsame : { b with resolver := b.resolver.collecting }.collecting = b.collecting := by
    unfold collecting
    cases b.resolver <;> rfl
  have hall := build_collecting { b with resolver := b.resolver.collecting }
  rw [hsame, build_collecting, hb] at hall
  obtain ⟨p', hb', heq⟩ := map_eq_ok.1 hall.symm
  have hp := (watches_of_build hb hwatches).indistinguishable
  have hp' := (watches_of_build hb' hwatches).indistinguishable
  rw [heq] at hp'
  exact ⟨p', hb', hp'.symm.trans hp⟩

/-- **Whether matches are collected on demand or always, a parser comes to the same**, for every
input and as a stacked parser; be it that only its own resolver always collects them, or also those
of the parsers stacked on it. A resolver that was not told to collect them does so exactly if a
field counts them, by a locator for its value or for its name. -/
theorem same_if_always_collecting (hb : b.build = .ok p)
    (hstacked : ∀ pf ∈ b.fields, ∀ st ∈ pf.stacked, st.parser.Built) :
    (∃ p', { b with resolver := b.resolver.collecting }.build = .ok p' ∧
        p'.Indistinguishable p) ∧
      b.collecting.build = .ok p.collecting ∧ p.collecting.Indistinguishable p ∧
      ∀ pattern whole, b.resolver = .regex pattern whole false →
        p.collecting.profile.resolver = .regex pattern whole true ∧
          ∃ collects, p.profile.resolver = .regex pattern whole collects ∧
            (collects = true ↔
              ∃ f ∈ own b.fields, ∃ l ∈ f.allLocators, l.kind = .regexMatchNum) := by
  have hwatches : p.Watches :=
    watches_of_build hb fun pf hpf st hst => (hstacked pf hpf st hst).watches
  refine ⟨build_always_collecting hb hstacked, ?_, hwatches.indistinguishable, ?_⟩
  · rw [build_collecting, hb]
    rfl
  · intro pattern whole hresolver
    have hserving := resolver_of_build hb
    rw [hresolver] at hserving
    refine ⟨?_, _, hserving, ?_⟩
    · rw [Parser.profile_collecting, Profile.collecting, hserving]
      rfl
    · simp [Resolver.countsMatches]

/-- A word and what separates it from the next one. -/
def word : Regex.Node :=
  .cat (.rep (.set ⟨[(0x61, 0x7A)]⟩) 1 none true) (.rep (.set ⟨[(0x20, 0x20)]⟩) 0 (some 1) true)

/-- Words, as few as possible. -/
def someWords : Regex.Node := .rep word 1 none false

/-- A text of nothing but words. -/
def wordsOnly : Regex.Node := .cat (.anchor .textStart) (.cat someWords (.anchor .textEnd))

/-- A blueprint for items that are words; its field counts them. -/
def words : Blueprint where
  name := "words"
  resolver := .regex ⟨"(?:[a-z]+ ?)+?", someWords.program, 1, []⟩
    ⟨"^(?:(?:[a-z]+ ?)+?)$", wordsOnly.program, 1, []⟩ false
  fields := [⟨{ name := "EventName", locators := [{ location := "2", kind := .regexMatchNum }] },
    []⟩]

/-- The parser of this blueprint, which collects matches for its field. -/
def wordsParser : Parser :=
  .mk ⟨"words", {}, words.resolver.collecting⟩ [] [] words.fields

theorem build_words : words.build = .ok wordsParser := by
  have hp : words.base.setAll words.properties = .ok {} := rfl
  have hr : checkFields words.resolver [] (own words.fields) = .ok words.resolver.collecting := rfl
  rw [build_eq hp hr,
    arranged_of_no_edges (unknownReference?_eq_none_iff.1 (by decide)) (by decide)]
  rfl

/-- A blueprint for items that are words, which hands each to the other parser. -/
def remarks : Blueprint where
  name := "remarks"
  resolver := words.resolver
  fields := [⟨{ name := "Remark", locators := [{ location := "0" }] }, [{ parser := wordsParser }]⟩]

/-- The parser of this blueprint, which does not collect matches. -/
def remarksParser : Parser := .mk ⟨"remarks", {}, remarks.resolver⟩ [] [] remarks.fields

theorem build_remarks : remarks.build = .ok remarksParser := by
  have hp : remarks.base.setAll remarks.properties = .ok {} := rfl
  have hr : checkFields remarks.resolver [] (own remarks.fields) = .ok remarks.resolver := rfl
  rw [build_eq hp hr,
    arranged_of_no_edges (unknownReference?_eq_none_iff.1 (by decide)) (by decide)]
  rfl

/-- What becomes of a remark if this parser reads it. -/
def remarkOutcome (p : Parser) : Parser.Outcome :=
  p.parse { now := ⟨0⟩, env := fun _ => none } { name := "test" } [] (.text "user login")
    Parser.untouched

/-- A remark whose second word is the event. The parser that counts words collects them, the one
around it does not, and it makes no difference if that one does too. -/
theorem remarks_always_collecting :
    remarks.build = .ok remarksParser ∧ wordsParser.Built ∧
      (∃ p', { remarks with resolver := remarks.resolver.collecting }.build = .ok p' ∧
        remarkOutcome p' = remarkOutcome remarksParser) ∧
      remarkOutcome remarksParser.collecting = remarkOutcome remarksParser ∧
      ((remarkOutcome remarksParser).result.map fun r => r.map fun r =>
        r.facts.eventName).toOption = some (some (some "login")) ∧
      ∃ f ∈ own words.fields, ∃ l ∈ f.allLocators, l.kind = .regexMatchNum := by
  have hwords : wordsParser.Built := by
    refine .of_build build_words fun pf hpf st hst => ?_
    obtain rfl := List.mem_singleton.1 hpf
    cases hst
  have hstacked : ∀ pf ∈ remarks.fields, ∀ st ∈ pf.stacked, st.parser.Built := by
    intro pf hpf st hst
    obtain rfl := List.mem_singleton.1 hpf
    obtain rfl := List.mem_singleton.1 hst
    exact hwords
  obtain ⟨⟨p', hb', hsame⟩, -, hcollecting, -⟩ := same_if_always_collecting build_remarks hstacked
  have hwordsOwn : ∀ pf ∈ words.fields, ∀ st ∈ pf.stacked, st.parser.Built := by
    intro pf hpf st hst
    obtain rfl := List.mem_singleton.1 hpf
    cases hst
  -- the resolver of the words learns from its field that matches are counted
  obtain ⟨-, -, -, hcounts⟩ := same_if_always_collecting build_words hwordsOwn
  obtain ⟨-, collects, hresolver, hiff⟩ := hcounts _ _ rfl
  obtain rfl : true = collects := by
    injection hresolver
  exact ⟨build_remarks, hwords, ⟨p', hb', hsame.parse ..⟩, hcollecting.parse .., by decide +kernel,
    hiff.1 rfl⟩

end Blueprint

/-- What is stacked on the fields of a definition was built before. -/
theorem Definition.stacked_of_blueprint {d : Definition} {built : Keyed Parser} {base : Properties}
    {b : Blueprint} (h : d.blueprint built base = .ok b) :
    ∀ pf ∈ b.fields, ∀ st ∈ pf.stacked, ∃ name, Keyed.get? name built = some st.parser := by
  unfold blueprint at h
  obtain ⟨resolver, -, h⟩ := bind_eq_ok.1 h
  obtain ⟨fields, hfields, h⟩ := bind_eq_ok.1 h
  obtain ⟨filters, -, h⟩ := bind_eq_ok.1 h
  cases h
  intro pf hpf st hst
  obtain ⟨rule, -, hfield⟩ := exists_of_mem_mapM hfields pf hpf
  obtain ⟨field, -, hfield⟩ := bind_eq_ok.1 hfield
  obtain ⟨stacked, hstacked, hfield⟩ := bind_eq_ok.1 hfield
  cases hfield
  obtain ⟨s, -, hs⟩ := exists_of_mem_mapM hstacked st hst
  unfold buildStacked at hs
  cases hget : Keyed.get? s.parser built with
  | none =>
    rw [hget] at hs
    cases hs
  | some p =>
    rw [hget] at hs
    cases hs
    exact ⟨s.parser, hget⟩

namespace Registry

variable {base : Properties} {built m : Keyed Parser} {ds : List Definition} {e : EngineSettings}
  {name : String} {p : Parser} {r : Registry}

/-- The parser of a definition is built on parsers that were built before. -/
theorem built_of_definition {d : Definition}
    (hbuilt : ∀ name p, Keyed.get? name built = some p → p.Built)
    (h : d.build built base = .ok p) : p.Built := by
  obtain ⟨b, hb, hp⟩ := bind_eq_ok.1 h
  refine .of_build (mapError_eq_ok.1 hp) fun pf hpf st hst => ?_
  obtain ⟨name, hname⟩ := Definition.stacked_of_blueprint hb pf hpf st hst
  exact hbuilt name _ hname

theorem built_of_buildAll (hbuilt : ∀ name p, Keyed.get? name built = some p → p.Built)
    (h : buildAll base built ds = .ok m) : ∀ name p, Keyed.get? name m = some p → p.Built := by
  induction ds generalizing built with
  | nil => exact Except.ok.inj h ▸ hbuilt
  | cons d rest ih =>
    obtain ⟨p, hp, hrest⟩ := buildAll_cons_ok.1 h
    refine ih ?_ hrest
    intro name q hq
    rw [Keyed.get?_insert] at hq
    split at hq
    · cases hq
      exact built_of_definition hbuilt hp
    · exact hbuilt name q hq

/-- **No parser of a registry can be told from one that always collects matches.** -/
theorem indistinguishable_of_build (h : build ds e = .ok r)
    (hp : Keyed.get? name r.parsers = some p) : p.collecting.Indistinguishable p := by
  rcases build_cases ds e with ⟨-, _, _, _, -, -, herror⟩ | ⟨-, _, -, _, -, -, herror⟩ |
      ⟨-, -, _, -, herror⟩ | ⟨-, order, -, -, heq⟩
  · cases h.symm.trans herror
  · cases h.symm.trans herror
  · cases h.symm.trans herror
  · obtain ⟨parsers, hall, rfl⟩ := map_eq_ok.1 (heq.symm.trans h)
    have hnone : ∀ name p, Keyed.get? name ([] : Keyed Parser) = some p → p.Built := nofun
    exact (built_of_buildAll hnone hall name p hp).watches.indistinguishable

end Registry

end Intake
