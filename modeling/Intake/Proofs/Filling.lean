import Intake.Proofs.Run

/-!
# Filling fields one after the other

* `Parser.fillField`: what filling does with one field.
* `Parser.Filled`: fields that were filled, with the contexts and sessions before and after them.
* `Parser.filled_or_stuck`: all fields are filled, or the first one that fails stops filling.
* `Parser.Beside`: filling changes nothing but the record and which field is filled.
* `Parser.parse_of_opens`: what becomes of an item that can be read, by what its fields come to.
-/

namespace Intake

namespace Failure

/-- A required value is missing. -/
def IsMissing (e : Failure) : Prop :=
  ∃ field location, e = missingValue field location

/-- A failure is one about a missing value whatever field it is put down to. -/
theorem isMissing_inField {e : Failure} {field : String} :
    (e.inField field).IsMissing ↔ e.IsMissing := by
  cases e with
  | missingValue f l => rfl
  | _ =>
    constructor <;>
    · rintro ⟨f, l, h⟩
      cases h

end Failure

namespace Parser

open Attempt

/-- Takes the value of a field into the record: element by element, through the parsers stacked on
the field, or as it is. -/
def take (pf : ParserField Parser) (v : Value) (ctx : Context) : Attempt Context := do
  if isSpread pf.field v then return { ctx with record := ← (ctx.spread pf.field v).attempt }
  else
    let (ctx, accepted) ← offer pf.stacked v ctx
    if accepted then return ctx
    else return { ctx with record := ← ctx.record.apply pf.field v }

/-- Fills one field. -/
def fillField (pf : ParserField Parser) (ctx : Context) : Attempt Context := do
  match ← (ctx.resolveField pf.field).attempt with
  | none => return ctx
  | some v => take pf v ctx

/-- Fields are filled one after the other, until one of them fails. -/
theorem fill_cons (pf : ParserField Parser) (rest : List (ParserField Parser)) (ctx : Context) :
    fill (pf :: rest) ctx =
      (fillField pf (ctx.atField pf.field.name)).outcome >>= fun outcome =>
        match outcome with
        | .ok ctx => fill rest ctx
        | .error e => giveUp (ctx.atField pf.field.name) pf.field.name e := by
  obtain ⟨f, stacked⟩ := pf
  rw [fill]
  rfl

variable {pf : ParserField Parser} {fields rest : List (ParserField Parser)}
  {ctx ctx' ctx₁ : Context} {s s' s₁ : Session} {e : Failure}

theorem fillField_of_error (h : (ctx.resolveField pf.field).value = .error e) :
    (fillField pf ctx).on s = (.error e, (ctx.resolveField pf.field).session s) := by
  unfold fillField
  rw [on_bind, on_resolving, h]

theorem fillField_of_none (h : (ctx.resolveField pf.field).value = .ok none) :
    (fillField pf ctx).on s = (.ok ctx, (ctx.resolveField pf.field).session s) := by
  unfold fillField
  rw [on_bind, on_resolving, h]
  rfl

theorem fillField_of_some {v : Value} (h : (ctx.resolveField pf.field).value = .ok (some v)) :
    (fillField pf ctx).on s = (take pf v ctx).on ((ctx.resolveField pf.field).session s) := by
  unfold fillField
  rw [on_bind, on_resolving, h]

theorem fill_of_ok (h : (fillField pf (ctx.atField pf.field.name)).on s = (.ok ctx₁, s₁)) :
    (fill (pf :: rest) ctx).on s = (fill rest ctx₁).on s₁ := by
  rw [fill_cons, on_bind, on_outcome, h]

theorem fill_of_error (h : (fillField pf (ctx.atField pf.field.name)).on s = (.error e, s₁)) :
    (fill (pf :: rest) ctx).on s = (giveUp (ctx.atField pf.field.name) pf.field.name e).on s₁ := by
  rw [fill_cons, on_bind, on_outcome, h]

/-- A missing value gives up the record. -/
theorem giveUp_of_isMissing {field : String} (he : e.IsMissing) :
    ∃ s', (giveUp ctx field e).on s = (.ok none, s') ∧ s'.cache = s.cache := by
  obtain ⟨f, l, rfl⟩ := he
  unfold giveUp
  simp only [Failure.inField]
  by_cases htop : ctx.isTop = true
  · rw [if_pos htop]
    exact ⟨_, rfl, rfl⟩
  · rw [if_neg htop]
    exact ⟨_, rfl, rfl⟩

/-- Any other failure is passed on, with the field that it happened in. -/
theorem giveUp_of_not_isMissing {field : String} (he : ¬ e.IsMissing) :
    ∃ s', (giveUp ctx field e).on s = (.error (e.inField field), s') ∧ s'.cache = s.cache := by
  have hin : ¬ (e.inField field).IsMissing := fun h => he (Failure.isMissing_inField.1 h)
  unfold giveUp
  generalize e.inField field = e' at hin
  cases e' with
  | missingValue f l => exact absurd ⟨f, l, rfl⟩ hin
  | fault f => exact ⟨s, rfl, rfl⟩
  | _ =>
    by_cases htop : ctx.isTop = true
    · simp only [if_pos htop]
      exact ⟨_, rfl, rfl⟩
    · simp only [if_neg htop]
      exact ⟨_, rfl, rfl⟩

/-- After a field that fails there is no context, whatever the failure. -/
theorem fill_cons_eq_some
    (h : (fill (pf :: rest) ctx).on s = (.ok (some ctx'), s')) :
    ∃ ctx₁ s₁, (fillField pf (ctx.atField pf.field.name)).on s = (.ok ctx₁, s₁) ∧
      (fill rest ctx₁).on s₁ = (.ok (some ctx'), s') := by
  rcases hfield : (fillField pf (ctx.atField pf.field.name)).on s with ⟨e | ctx₁, s₁⟩
  · rw [fill_of_error hfield] at h
    by_cases he : e.IsMissing
    · obtain ⟨s₂, hgive, -⟩ := giveUp_of_isMissing he
      rw [hgive] at h
      cases h
    · obtain ⟨s₂, hgive, -⟩ := giveUp_of_not_isMissing he
      rw [hgive] at h
      cases h
  · rw [fill_of_ok hfield] at h
    exact ⟨ctx₁, s₁, rfl, h⟩

/-- Fields were filled one after the other: from a context in a session to another context in
another session. -/
inductive Filled : List (ParserField Parser) → Context → Session → Context → Session → Prop
  | nil {ctx : Context} {s : Session} : Filled [] ctx s ctx s
  | cons {pf : ParserField Parser} {rest : List (ParserField Parser)} {ctx ctx₁ ctx' : Context}
      {s s₁ s' : Session} :
    (fillField pf (ctx.atField pf.field.name)).on s = (.ok ctx₁, s₁) →
      Filled rest ctx₁ s₁ ctx' s' → Filled (pf :: rest) ctx s ctx' s'

theorem fill_of_filled (h : Filled fields ctx s ctx' s') :
    (fill (fields ++ rest) ctx).on s = (fill rest ctx').on s' := by
  induction h with
  | nil => rfl
  | cons hfield _ ih =>
    rw [List.cons_append, fill_of_ok hfield, ih]

/-- What was filled was filled up to every field, and through it. -/
theorem Filled.split {before after : List (ParserField Parser)}
    (h : Filled (before ++ pf :: after) ctx s ctx' s') :
    ∃ ctx₁ s₁ ctx₂ s₂, Filled before ctx s ctx₁ s₁ ∧
      (fillField pf (ctx₁.atField pf.field.name)).on s₁ = (.ok ctx₂, s₂) := by
  induction before generalizing ctx s with
  | nil =>
    cases h with
    | cons hfield _ => exact ⟨_, _, _, _, .nil, hfield⟩
  | cons head before ih =>
    cases h with
    | cons hhead hrest =>
      obtain ⟨ctx₁, s₁, ctx₂, s₂, hbefore, hfield⟩ := ih hrest
      exact ⟨ctx₁, s₁, ctx₂, s₂, .cons hhead hbefore, hfield⟩

/-- Either all fields are filled, or one of them fails after those before it were filled. -/
theorem filled_or_stuck (fields : List (ParserField Parser)) (ctx : Context) (s : Session) :
    (∃ ctx' s', Filled fields ctx s ctx' s') ∨
    ∃ before pf after ctx₁ s₁ e s₂, fields = before ++ pf :: after ∧ Filled before ctx s ctx₁ s₁ ∧
      (fillField pf (ctx₁.atField pf.field.name)).on s₁ = (.error e, s₂) := by
  induction fields generalizing ctx s with
  | nil => exact .inl ⟨ctx, s, .nil⟩
  | cons pf rest ih =>
    rcases hfield : (fillField pf (ctx.atField pf.field.name)).on s with ⟨e | ctx₁, s₁⟩
    · exact .inr ⟨[], pf, rest, ctx, s, e, s₁, rfl, .nil, hfield⟩
    · rcases ih ctx₁ s₁ with ⟨ctx', s', hrest⟩ |
        ⟨before, pf', after, ctx₂, s₂, e, s₃, rfl, hbefore, hstuck⟩
      · exact .inl ⟨ctx', s', .cons hfield hrest⟩
      · exact .inr ⟨pf :: before, pf', after, ctx₂, s₂, e, s₃, rfl, .cons hfield hbefore, hstuck⟩

/-- Fields that were filled make a context for the record. -/
theorem fill_of_all_filled (h : Filled fields ctx s ctx' s') :
    (fill fields ctx).on s = (.ok (some { ctx' with field := none }), s') := by
  have hall : (fill (fields ++ []) ctx).on s = (fill [] ctx').on s' := fill_of_filled h
  rw [List.append_nil] at hall
  rw [hall]
  rfl

/-- A field that fails stops filling. -/
theorem fill_of_stuck {before after : List (ParserField Parser)}
    (h : Filled before ctx s ctx₁ s₁)
    (hstuck : (fillField pf (ctx₁.atField pf.field.name)).on s₁ = (.error e, s')) :
    (fill (before ++ pf :: after) ctx).on s =
      (giveUp (ctx₁.atField pf.field.name) pf.field.name e).on s' := by
  rw [fill_of_filled h, fill_of_error hstuck]

/-- All fields were filled if there is a context for the record. -/
theorem filled_of_fill (h : (fill fields ctx).on s = (.ok (some ctx'), s')) :
    ∃ ctx₁, Filled fields ctx s ctx₁ s' ∧ ctx' = { ctx₁ with field := none } := by
  induction fields generalizing ctx s with
  | nil =>
    rw [fill] at h
    cases h
    exact ⟨ctx, .nil, rfl⟩
  | cons pf rest ih =>
    obtain ⟨ctx₁, s₁, hfield, hrest⟩ := fill_cons_eq_some h
    obtain ⟨ctx₂, hfilled, heq⟩ := ih hrest
    exact ⟨ctx₂, .cons hfield hfilled, heq⟩

/-- There is no record exactly if a field fails for want of a value, after those before it were
filled. -/
theorem fill_eq_none_iff :
    ((fill fields ctx).on s).1 = .ok none ↔
      ∃ before pf after ctx₁ s₁ e s₂, fields = before ++ pf :: after ∧
        Filled before ctx s ctx₁ s₁ ∧
        (fillField pf (ctx₁.atField pf.field.name)).on s₁ = (.error e, s₂) ∧ e.IsMissing := by
  constructor
  · intro h
    rcases filled_or_stuck fields ctx s with ⟨ctx₁, s₁, hfilled⟩ |
      ⟨before, pf, after, ctx₁, s₁, e, s₂, rfl, hbefore, hstuck⟩
    · rw [fill_of_all_filled hfilled] at h
      cases h
    · refine ⟨before, pf, after, ctx₁, s₁, e, s₂, rfl, hbefore, hstuck, ?_⟩
      -- The first field that is not filled ends the item quietly exactly if a value was missing.
      by_cases he : e.IsMissing
      · exact he
      · obtain ⟨s₃, hgive, -⟩ := giveUp_of_not_isMissing he
        rw [fill_of_stuck hbefore hstuck, hgive] at h
        cases h
  · rintro ⟨before, pf, after, ctx₁, s₁, e, s₂, rfl, hbefore, hstuck, he⟩
    obtain ⟨s₃, hgive, -⟩ := giveUp_of_isMissing he
    rw [fill_of_stuck hbefore hstuck, hgive]

/-- A context differs from another one at most in its record and in the field that is filled. -/
def Beside (ctx ctx' : Context) : Prop :=
  ∃ record field, ctx' = { ctx with record, field }

theorem Beside.refl (ctx : Context) : Beside ctx ctx :=
  ⟨ctx.record, ctx.field, rfl⟩

theorem Beside.trans {ctx₂ : Context} (h : Beside ctx ctx₁) (h' : Beside ctx₁ ctx₂) :
    Beside ctx ctx₂ := by
  obtain ⟨r, f, rfl⟩ := h
  obtain ⟨r', f', rfl⟩ := h'
  exact ⟨r', f', rfl⟩

/-- The record of a stacked parser is taken into the record. -/
theorem takeUp_beside {parser : String} {how : Aggregation} {flatten : Bool} {sub : Record}
    (h : takeUp ctx parser how flatten sub = .ok ctx') : Beside ctx ctx' := by
  cases how with
  | merge =>
    cases h
    exact ⟨_, ctx.field, rfl⟩
  | relate =>
    obtain ⟨timed, -, rfl⟩ := map_eq_ok.1 h
    exact ⟨_, ctx.field, rfl⟩

/-- Stacked parsers change at most the record. -/
theorem offer_beside {stacked : List (Stacked Parser)} {v : Value} {accepted : Bool}
    (h : (offer stacked v ctx).on s = (.ok (ctx', accepted), s')) : Beside ctx ctx' := by
  induction stacked generalizing ctx s accepted with
  | nil =>
    rw [offer] at h
    cases h
    exact .refl _
  | cons head rest ih =>
    obtain ⟨p, how, flatten⟩ := head
    rw [offer] at h
    obtain ⟨sub, s₁, -, hrest⟩ := on_bind_eq_ok.1 h
    cases sub with
    | none => exact ih hrest
    | some sub =>
      obtain ⟨ctx₂, s₂, htake, hrest⟩ := on_bind_eq_ok.1 hrest
      obtain ⟨⟨ctx₁, accepted'⟩, s₃, hoffer, hreturn⟩ := on_bind_eq_ok.1 hrest
      cases hreturn
      exact (takeUp_beside (on_except_eq_ok.1 htake).1).trans (ih hoffer)

theorem take_beside {v : Value} (h : (take pf v ctx).on s = (.ok ctx', s')) : Beside ctx ctx' := by
  unfold take at h
  split at h
  · obtain ⟨record, s₁, -, hreturn⟩ := on_bind_eq_ok.1 h
    cases hreturn
    exact ⟨record, ctx.field, rfl⟩
  · obtain ⟨⟨ctx₁, accepted⟩, s₁, hoffer, hrest⟩ := on_bind_eq_ok.1 h
    have hbeside := offer_beside hoffer
    cases accepted with
    | true =>
      cases hrest
      exact hbeside
    | false =>
      obtain ⟨record, s₂, -, hreturn⟩ := on_bind_eq_ok.1 hrest
      cases hreturn
      exact hbeside.trans ⟨record, ctx₁.field, rfl⟩

/-- Filling a field changes at most the record. -/
theorem fillField_beside (h : (fillField pf ctx).on s = (.ok ctx', s')) : Beside ctx ctx' := by
  unfold fillField at h
  obtain ⟨v, s₁, -, hrest⟩ := on_bind_eq_ok.1 h
  cases v with
  | none =>
    cases hrest
    exact .refl _
  | some v => exact take_beside hrest

theorem Filled.beside (h : Filled fields ctx s ctx' s') : Beside ctx ctx' := by
  induction h with
  | nil => exact .refl _
  | cons hfield _ ih =>
    exact (Beside.trans ⟨_, _, rfl⟩ (fillField_beside hfield)).trans ih

/-- The context in which the fields of an item are filled. -/
def opening (p : Parser) (host : Host) (source : Source) (metadata : Keyed Value) (raw : RawData)
    (data : Prepared) (cache : Cache) : Context where
  host := host
  cache := cache
  profile := p.profile
  source := source
  raw := raw
  data := data
  metadata := metadata
  record := .blank
  field := none
  outer := []

/-- Makes a record of a context whose fields are filled. -/
def close (p : Parser) (host : Host) (source : Source) (ctx : Context) :
    Attempt (Option Record) := do
  let r ← withDefaultMessage p.profile p.profile.properties.dataAsMessage ctx
  let r ← finished p.name p.filters (← r.determineTimes host.now)
  Session.note (Reading.ofParser .itemsParsed p.name)
  return some (r.withFacts { r.facts with parentId := r.facts.parentId.or source.groupId })

/-- The next item of an input is there and can be read: its fields are filled in a context, from a
session on. -/
def Opens (p : Parser) (host : Host) (source : Source) (metadata : Keyed Value) (input : RawData)
    (session : Session) (ctx : Context) (s : Session) : Prop :=
  ∃ item rest raw data, input.next p.profile.properties.portion = (.ok (some item), rest) ∧
    Session.preParsed p.preParsers item session = (raw, s) ∧
    p.profile.resolver.prepare raw = .ok (some data) ∧
    ctx = p.opening host source metadata raw data s.cache

section Opens

variable {p : Parser} {host : Host} {source : Source} {metadata : Keyed Value} {input : RawData}
  {session : Session}

/-- What becomes of an item that can be read. -/
theorem parse_of_opens (h : p.Opens host source metadata input session ctx s) :
    p.parse host source metadata input session =
      let run := (fill p.fields ctx >>= fun filled =>
        match filled with
        | none => pure none
        | some ctx => p.close host source ctx).on s
      ⟨run.1, (input.next p.profile.properties.portion).2, run.2⟩ := by
  -- the steps before the fields are filled have come out as `h` says
  obtain ⟨item, rest, raw, data, hnext, hraw, hdata, rfl⟩ := h
  have hlift : (liftM (Session.preParsed p.preParsers item) : Attempt RawData).on session =
      (.ok raw, s) := by
    rw [on_run, hraw]
  have hprepared : (liftM (p.profile.resolver.prepare raw) : Attempt (Option Prepared)).on s =
      (.ok (some data), s) := by
    rw [on_except, hdata]
  have hitem : (p.parseItem host source metadata item).on session =
      (fill p.fields (p.opening host source metadata raw data s.cache) >>= fun filled =>
        match filled with
        | none => pure none
        | some ctx => p.close host source ctx).on s := by
    unfold parseItem
    rw [on_bind_of_ok hlift, on_bind_of_ok hprepared]
    rfl
  rw [← hitem]
  unfold parse
  rw [hnext]
  rfl

theorem parse_of_fill_error (h : p.Opens host source metadata input session ctx s)
    (hfill : (fill p.fields ctx).on s = (.error e, s')) :
    p.parse host source metadata input session =
      ⟨.error e, (input.next p.profile.properties.portion).2, s'⟩ := by
  rw [parse_of_opens h, on_bind_of_error hfill]

theorem parse_of_fill_none (h : p.Opens host source metadata input session ctx s)
    (hfill : (fill p.fields ctx).on s = (.ok none, s')) :
    p.parse host source metadata input session =
      ⟨.ok none, (input.next p.profile.properties.portion).2, s'⟩ := by
  rw [parse_of_opens h, on_bind_of_ok hfill]
  rfl

theorem parse_of_fill_some (h : p.Opens host source metadata input session ctx s)
    (hfill : (fill p.fields ctx).on s = (.ok (some ctx'), s')) :
    p.parse host source metadata input session =
      ⟨((p.close host source ctx').on s').1, (input.next p.profile.properties.portion).2,
        ((p.close host source ctx').on s').2⟩ := by
  rw [parse_of_opens h, on_bind_of_ok hfill]

/-- A context whose fields are filled becomes a record, if it does not fail. -/
theorem close_ne_none : ((p.close host source ctx).on s).1 ≠ .ok none := by
  intro h
  have hon : (p.close host source ctx).on s = (.ok none, ((p.close host source ctx).on s).2) := by
    rw [← h]
  unfold close at hon
  obtain ⟨r, s₁, -, hrest⟩ := on_bind_eq_ok.1 hon
  obtain ⟨timed, s₂, -, hrest⟩ := on_bind_eq_ok.1 hrest
  obtain ⟨r', s₃, -, hrest⟩ := on_bind_eq_ok.1 hrest
  obtain ⟨_, s₄, -, hreturn⟩ := on_bind_eq_ok.1 hrest
  cases hreturn

/-- An item has no record exactly if its fields come to nothing. -/
theorem parse_eq_none_iff (h : p.Opens host source metadata input session ctx s) :
    (p.parse host source metadata input session).result = .ok none ↔
      ((fill p.fields ctx).on s).1 = .ok none := by
  rcases hfill : (fill p.fields ctx).on s with ⟨e | ctx', s₁⟩
  · rw [parse_of_fill_error h hfill]
    constructor
    · intro h
      cases h
    · intro h
      cases h
  · cases ctx' with
    | none =>
      rw [parse_of_fill_none h hfill]
      constructor
      · intro _
        rfl
      · intro _
        rfl
    | some ctx' =>
      rw [parse_of_fill_some h hfill]
      constructor
      · -- a record whose fields are filled is closed, and a closed record is one
        intro hnone
        exact absurd hnone close_ne_none
      · intro h
        cases h

/-- An item has a record only if all its fields were filled. -/
theorem filled_of_parse {r : Record} (h : p.Opens host source metadata input session ctx s)
    (hr : (p.parse host source metadata input session).result = .ok (some r)) :
    ∃ ctx' s', Filled p.fields ctx s ctx' s' := by
  rcases hfill : (fill p.fields ctx).on s with ⟨e | ctx', s₁⟩
  · rw [parse_of_fill_error h hfill] at hr
    cases hr
  · cases ctx' with
    | none =>
      rw [parse_of_fill_none h hfill] at hr
      cases hr
    | some ctx' =>
      obtain ⟨ctx₁, hfilled, -⟩ := filled_of_fill hfill
      exact ⟨ctx₁, s₁, hfilled⟩

end Opens

end Parser

end Intake
