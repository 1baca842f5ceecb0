import Intake.Proofs.Failing

/-!
# Required values

* `Context.missing_iff_stopsAt`: a field fails for want of a value exactly if one of its locators
  has to find a value and does not.
* `Parser.parse_required`: **an item has a record only if all required values were found, and has
  none exactly if filling stops for want of one**; then its record filters are not asked and nothing
  is kept.
-/

namespace Intake

namespace Context

/-- A locator of a field has to find a value: it says so itself, or else the field, or else the
parser. -/
def Demands (ctx : Context) (f : Field) (l : Locator) : Prop :=
  l.isRequired (f.requires ctx.profile.properties.requireDefault) = true

/-- The locators of a field find all values that they have to. -/
def Supplied (ctx : Context) (f : Field) : Prop :=
  ∀ l ∈ f.locators, ctx.Demands f l → ∃ v, (ctx.resolve l).value = .ok (some v)

/-- A locator of a field finds no value though it has to, and is the first one that stops the
field. -/
structure StopsAt (ctx : Context) (f : Field) (l : Locator) : Prop where
  demands : ctx.Demands f l
  nothing : (ctx.resolve l).value = .ok none
  first : ∃ before after, f.locators = before ++ l :: after ∧
    ∀ l' ∈ before, ∃ v, (ctx.resolve l').value = .ok v ∧ (ctx.Demands f l' → v ≠ none)

variable {ctx : Context} {f : Field} {l : Locator} {e : Failure}

theorem value_resolveFor : (ctx.resolveFor f l).value = (ctx.resolve l).value >>= fun v =>
    if v.isNone && l.isRequired (f.requires ctx.profile.properties.requireDefault) then
      .error (.missingValue f.name l.location)
    else .ok v := by
  unfold resolveFor
  rw [Resolving.value_bind]
  congr 1
  funext v
  split
  · rw [Resolving.value_bind, Resolving.value_throw]
    rfl
  · rw [Resolving.value_pure]

/-- A locator passes if it finds a value or need not. -/
theorem resolveFor_eq_ok_iff {v : Option Value} :
    (ctx.resolveFor f l).value = .ok v ↔
      (ctx.resolve l).value = .ok v ∧ (ctx.Demands f l → v ≠ none) := by
  rw [value_resolveFor, bind_eq_ok]
  constructor
  · rintro ⟨v', hv', h⟩
    split at h
    · cases h
    · next hpass =>
      cases h
      refine ⟨hv', ?_⟩
      rintro hdemands rfl
      exact hpass (by rw [hdemands]; rfl)
  · rintro ⟨hv, hpass⟩
    refine ⟨v, hv, ?_⟩
    rw [if_neg]
    intro hstop
    rw [Bool.and_eq_true, Option.isNone_iff_eq_none] at hstop
    exact hpass hstop.2 hstop.1

/-- A value is missing if a locator has to find one and does not. -/
theorem resolveFor_isMissing_iff :
    (∃ e, (ctx.resolveFor f l).value = .error e ∧ e.IsMissing) ↔
      ctx.Demands f l ∧ (ctx.resolve l).value = .ok none := by
  rw [value_resolveFor]
  constructor
  · rintro ⟨e, h, he⟩
    rcases bind_eq_error.1 h with h | ⟨v, hv, h⟩
    · exact absurd he (ctx.resolve_fails l e h).ordinary.1
    · split at h
      · next hstop =>
        rw [Bool.and_eq_true, Option.isNone_iff_eq_none] at hstop
        obtain ⟨rfl, hdemands⟩ := hstop
        exact ⟨hdemands, hv⟩
      · cases h
  · rintro ⟨hdemands, hnone⟩
    refine ⟨_, bind_eq_error.2 (.inr ⟨none, hnone, ?_⟩), f.name, l.location, rfl⟩
    rw [if_pos (by rw [hdemands]; rfl)]

/-- A field that comes to something, be it nothing, found all required values. -/
theorem supplied_of_resolveField {v : Option Value} (h : (ctx.resolveField f).value = .ok v) :
    ctx.Supplied f := by
  rw [value_resolveField] at h
  obtain ⟨found, hfound, -⟩ := map_eq_ok.1 h
  intro l hl hdemands
  obtain ⟨v, hv⟩ := ok_of_mapM_eq_ok hfound l hl
  obtain ⟨hresolve, hpass⟩ := resolveFor_eq_ok_iff.1 hv
  obtain ⟨w, rfl⟩ := Option.ne_none_iff_exists'.1 (hpass hdemands)
  exact ⟨w, hresolve⟩

/-- A field fails exactly with the failure of its first locator that has one. -/
theorem resolveField_eq_error_iff : (ctx.resolveField f).value = .error e ↔
    ∃ before l after, f.locators = before ++ l :: after ∧
      (∀ l' ∈ before, ∃ v, (ctx.resolveFor f l').value = .ok v) ∧
      (ctx.resolveFor f l).value = .error e := by
  rw [value_resolveField, map_eq_error, mapM_eq_error_iff]

/-- A field fails for want of a value exactly if it stops at one of its locators. -/
theorem missing_iff_stopsAt :
    (∃ e, (ctx.resolveField f).value = .error e ∧ e.IsMissing) ↔ ∃ l, ctx.StopsAt f l := by
  constructor
  · rintro ⟨e, h, he⟩
    obtain ⟨before, l, after, hsplit, hbefore, hl⟩ := resolveField_eq_error_iff.1 h
    obtain ⟨hdemands, hnone⟩ := resolveFor_isMissing_iff.1 ⟨e, hl, he⟩
    refine ⟨l, hdemands, hnone, before, after, hsplit, ?_⟩
    intro l' hl'
    obtain ⟨v, hv⟩ := hbefore l' hl'
    exact ⟨v, resolveFor_eq_ok_iff.1 hv⟩
  · rintro ⟨l, hdemands, hnone, before, after, hsplit, hbefore⟩
    obtain ⟨e, hl, he⟩ := resolveFor_isMissing_iff.2 ⟨hdemands, hnone⟩
    refine ⟨e, resolveField_eq_error_iff.2 ⟨before, l, after, hsplit, ?_, hl⟩, he⟩
    intro l' hl'
    obtain ⟨v, hv⟩ := hbefore l' hl'
    exact ⟨v, resolveFor_eq_ok_iff.2 hv⟩

end Context

namespace Parser

open Attempt

variable {pf : ParserField Parser} {ctx ctx' : Context} {s s' : Session}

theorem supplied_of_fillField (h : (fillField pf ctx).on s = (.ok ctx', s')) :
    ctx.Supplied pf.field := by
  cases hv : (ctx.resolveField pf.field).value with
  | error e =>
    rw [fillField_of_error hv] at h
    cases h
  | ok v => exact ctx.supplied_of_resolveField hv

/-- Filling a field fails for want of a value exactly if the field stops at one of its locators: a
value that is found never leads to one that is missing, whatever it is taken into. -/
theorem fillField_isMissing_iff :
    (∃ e s', (fillField pf ctx).on s = (.error e, s') ∧ e.IsMissing) ↔
      ∃ l, ctx.StopsAt pf.field l := by
  rw [← Context.missing_iff_stopsAt]
  cases hv : (ctx.resolveField pf.field).value with
  | error e =>
    rw [fillField_of_error hv]
    constructor
    · rintro ⟨_, _, ⟨⟩, he⟩
      exact ⟨e, rfl, he⟩
    · rintro ⟨_, ⟨⟩, he⟩
      exact ⟨e, _, rfl, he⟩
  | ok v =>
    -- the value is there: what may still fail is what it is taken into
    constructor
    · rintro ⟨e, s', h, he⟩
      cases v with
      | none =>
        rw [fillField_of_none hv] at h
        cases h
      | some v =>
        rw [fillField_of_some hv] at h
        have hmild := take_mild (fun v ctx => offer_mild pf.stacked v ctx) v ctx
        exact absurd he ((hmild _).2 e (congrArg Prod.fst h)).1
    · rintro ⟨e, h, -⟩
      cases h

/-- The same parser with other record filters. -/
def withFilters : Parser → List RecordFilter → Parser
  | mk profile preParsers _ fields, filters => mk profile preParsers filters fields

variable {p : Parser} {host : Host} {source : Source} {metadata : Keyed Value} {input : RawData}
  {session : Session}

theorem Opens.withFilters (h : p.Opens host source metadata input session ctx s)
    (filters : List RecordFilter) :
    (p.withFilters filters).Opens host source metadata input session ctx s := by
  obtain ⟨profile, preParsers, own, fields⟩ := p
  exact h

/-- Reading an item changes nothing about the values kept between activities. -/
theorem Opens.cache (h : p.Opens host source metadata input session ctx s) :
    s.cache = session.cache := by
  obtain ⟨item, rest, raw, data, -, hraw, -, -⟩ := h
  have hkeeps := Session.preParsed_keepsCache p.preParsers item session
  rw [hraw] at hkeeps
  exact hkeeps

/-- **Required values.** Let the next item of an input be there and be readable. If it has a record,
then at every field, when its turn came, all values that its locators have to find were found. It has
none exactly if at some field, after those before it were filled, a locator that has to find a value
did not. Then nothing is kept of it, and it would make no difference if the parser had other record
filters, or none. -/
theorem parse_required (h : p.Opens host source metadata input session ctx s) :
    (∀ r, (p.parse host source metadata input session).result = .ok (some r) →
      ∀ before pf after, p.fields = before ++ pf :: after →
        ∃ ctx' s', Filled before ctx s ctx' s' ∧ ctx'.profile = p.profile ∧
          (ctx'.atField pf.field.name).Supplied pf.field) ∧
    ((p.parse host source metadata input session).result = .ok none ↔
      ∃ before pf after ctx' s' l, p.fields = before ++ pf :: after ∧
        Filled before ctx s ctx' s' ∧ ctx'.profile = p.profile ∧
        (ctx'.atField pf.field.name).StopsAt pf.field l) ∧
    ((p.parse host source metadata input session).result = .ok none →
      (p.parse host source metadata input session).session.cache = session.cache ∧
      ∀ filters, (p.withFilters filters).parse host source metadata input session =
        p.parse host source metadata input session) := by
  have hprofile : ∀ {fields ctx' s'}, Filled fields ctx s ctx' s' → ctx'.profile = p.profile := by
    intro fields ctx' s' hfilled
    obtain ⟨record, field, rfl⟩ := hfilled.beside
    obtain ⟨item, rest, raw, data, -, -, -, rfl⟩ := h
    rfl
  refine ⟨?_, ?_, ?_⟩
  · intro r hr before pf after hsplit
    obtain ⟨ctx', s', hfilled⟩ := filled_of_parse h hr
    rw [hsplit] at hfilled
    obtain ⟨ctx₁, s₁, ctx₂, s₂, hbefore, hfield⟩ := hfilled.split
    exact ⟨ctx₁, s₁, hbefore, hprofile hbefore, supplied_of_fillField hfield⟩
  · rw [parse_eq_none_iff h, fill_eq_none_iff]
    constructor
    · rintro ⟨before, pf, after, ctx₁, s₁, e, s₂, hsplit, hbefore, hstuck, he⟩
      obtain ⟨l, hl⟩ := fillField_isMissing_iff.1 ⟨e, s₂, hstuck, he⟩
      exact ⟨before, pf, after, ctx₁, s₁, l, hsplit, hbefore, hprofile hbefore, hl⟩
    · rintro ⟨before, pf, after, ctx₁, s₁, l, hsplit, hbefore, -, hl⟩
      obtain ⟨e, s₂, hstuck, he⟩ := (fillField_isMissing_iff (s := s₁)).2 ⟨l, hl⟩
      exact ⟨before, pf, after, ctx₁, s₁, e, s₂, hsplit, hbefore, hstuck, he⟩
  · -- the filters stand in `close` only, which is never reached
    intro hnone
    rw [parse_eq_none_iff h] at hnone
    have hcache := (fill_mild p.fields ctx s).1
    rcases hfill : (fill p.fields ctx).on s with ⟨filled, s₁⟩
    rw [hfill] at hnone hcache
    obtain rfl : filled = .ok none := hnone
    rw [parse_of_fill_none h hfill]
    refine ⟨hcache.trans h.cache, ?_⟩
    intro filters
    have hsame : (fill (p.withFilters filters).fields ctx).on s = (.ok none, s₁) := by
      obtain ⟨profile, preParsers, own, fields⟩ := p
      exact hfill
    rw [parse_of_fill_none (h.withFilters filters) hsame]
    obtain ⟨profile, preParsers, own, fields⟩ := p
    rfl

/-- A parser that requires its second field. -/
def strict : Parser :=
  .mk ⟨"strict", { requireDefault := true }, .map⟩ [] []
    [⟨{ name := "UserName", locators := [{ location := "user", required := some false }] }, []⟩,
      ⟨{ name := "EventName", locators := [{ location := "event" }] }, []⟩]

/-- An item with a blank event. -/
def nameless : RawData := .map [("event", .str " "), ("user", .str "ann")]

/-- A session in which nothing has happened. -/
def untouched : Session where
  cache := default
  ids := { id := toString }

/-- The context in which `strict` fills its fields from `nameless`. -/
def strictOpening : Context :=
  strict.opening { now := ⟨0⟩, env := fun _ => none } { name := "test" } [] nameless
    (.map [("event", .str " "), ("user", .str "ann")]) default

theorem strict_gives_up :
    strict.Opens strictOpening.host strictOpening.source [] nameless untouched strictOpening
        untouched ∧
      (strict.parse strictOpening.host strictOpening.source [] nameless untouched).result =
        .ok none ∧
      (strict.parse strictOpening.host strictOpening.source [] nameless untouched).session.cache =
        untouched.cache := by
  have hopens : strict.Opens strictOpening.host strictOpening.source [] nameless untouched
      strictOpening untouched := ⟨nameless, nameless, nameless, _, rfl, rfl, rfl, rfl⟩
  obtain ⟨-, hnone, hkept⟩ := parse_required hopens
  have hresult : (strict.parse strictOpening.host strictOpening.source [] nameless
      untouched).result = .ok none := by
    refine hnone.2 ⟨[_], _, [], _, _, { location := "event" }, rfl, .cons rfl .nil, rfl, ?_⟩
    refine ⟨rfl, rfl, [], [], rfl, ?_⟩
    intro l' hl'
    cases hl'
  exact ⟨hopens, hresult, (hkept hresult).1⟩

end Parser

end Intake
