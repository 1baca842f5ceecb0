import Intake.Proofs.Parallel

/-!
# Parsers side by side

A parser is compared with another one that differs from it in parts that should make no difference.
What has to be known of the parts is said once, and that it carries over to all that the parsers do.

* `Field.Simulates`: a field comes to the same as another one, from contexts that are related.
* `Parser.OwnSimulates`: so do the other parts that a parser has for itself.
* `Parser.Simulates`: a parser whose parts, and the parsers stacked on it, come to the same as those
  of another one.
* `Parser.parseStacked_parallel`: **it comes to the same as that one where it is stacked on a
  field**, however deep parsers are stacked.
* `Parser.parse_parallel`: **so it does with every input.**
-/

namespace Intake

open Attempt

/-- A relation between contexts for parsers of the same name, as deep inside. It does not depend on
which field is filled. -/
structure Context.Congruence (C : Context → Context → Prop) : Prop where
  name_eq : ∀ {a b}, C a b → b.profile.name = a.profile.name
  isTop_eq : ∀ {a b}, C a b → b.isTop = a.isTop
  atField : ∀ {a b}, C a b → ∀ field, C { a with field } { b with field }

theorem Context.Congruence.eq : Context.Congruence Eq where
  name_eq := by
    rintro _ _ rfl
    rfl
  isTop_eq := by
    rintro _ _ rfl
    rfl
  atField := by
    rintro _ _ rfl _
    rfl

/-- Records that two contexts get leave them related. -/
def Context.Joins (C : Context → Context → Prop) (a b : Context) (r r' : Record) : Prop :=
  C { a with record := r } { b with record := r' }

theorem Context.Joins.of_eq (ctx : Context) {r r' : Record} (h : r = r') :
    Context.Joins Eq ctx ctx r r' := by
  rw [h]
  rfl

/-- The second field has the values of the first one, and what becomes of these in a record comes to
the same, from contexts that are related. -/
structure Field.Simulates (S : Session → Session → Prop) (C : Context → Context → Prop)
    (f f' : Field) : Prop where
  name_eq : f'.name = f.name
  isSpread_eq : ∀ v, Parser.isSpread f' v = Parser.isSpread f v
  resolve : ∀ {a b}, C a b → Parallel S Eq (a.resolveField f).attempt (b.resolveField f').attempt
  spread : ∀ {a b}, C a b → ∀ v,
    Parallel S (Context.Joins C a b) (a.spread f v).attempt (b.spread f' v).attempt
  apply : ∀ {a b}, C a b → ∀ v,
    SameOutcome (Context.Joins C a b) (a.record.apply f v) (b.record.apply f' v)

namespace Parser

/-- What the parts that a parser has for itself come to in the other parser: items are made ready
alike, contexts are opened alike, and records get their messages and times alike. -/
structure OwnSimulates (S : Session → Session → Prop) (D : Prepared → Prepared → Prop)
    (C : Context → Context → Prop) (M : Record → Record → Prop) (p p' : Parser) : Prop where
  name_eq : p'.profile.name = p.profile.name
  properties_eq : p'.profile.properties = p.profile.properties
  contexts : Context.Congruence C
  preParsed : ∀ raw, Run.Parallel S Eq (Session.preParsed p.preParsers raw)
    (Session.preParsed p'.preParsers raw)
  prepare : ∀ raw, SameOutcome (Option.Rel D) (p.profile.resolver.prepare raw)
    (p'.profile.resolver.prepare raw)
  opening : ∀ {d d'}, D d d' → ∀ host source metadata raw cache,
    C (p.opening host source metadata raw d cache) (p'.opening host source metadata raw d' cache)
  message : ∀ {a b}, C a b → ∀ dataAsMessage,
    SameOutcome M (withDefaultMessage p.profile dataAsMessage a)
      (withDefaultMessage p'.profile dataAsMessage b)
  times : ∀ {r r'}, M r r' → ∀ now, SameOutcome M (r.determineTimes now) (r'.determineTimes now)

mutual

/-- The second parser comes to the same as the first one, part by part. Around them contexts are
related by `O`, and the records that they make of values are related by `R`. -/
inductive Simulates (S : Session → Session → Prop) :
    (O : Context → Context → Prop) → (R : Record → Record → Prop) → Parser → Parser → Prop
  | intro {O C : Context → Context → Prop} {R M : Record → Record → Prop}
      {D : Prepared → Prepared → Prop} {p p' : Parser} :
    OwnSimulates S D C M p p' →
      (∀ {a b d d'}, O a b → D d d' → ∀ raw,
        C (a.inner p.profile raw d) (b.inner p'.profile raw d')) →
      FieldsSimulate S C p.fields p'.fields →
      (∀ {r r'}, M r r' →
        Run.Parallel S R (judged p.name p.filters r) (judged p'.name p'.filters r')) →
      Simulates S O R p p'

/-- The fields come to the same one by one, and so do the parsers stacked on them. -/
inductive FieldsSimulate (S : Session → Session → Prop) :
    (C : Context → Context → Prop) → List (ParserField Parser) → List (ParserField Parser) → Prop
  | nil {C : Context → Context → Prop} : FieldsSimulate S C [] []
  | cons {C : Context → Context → Prop} {f f' : Field} {stacked stacked' : List (Stacked Parser)}
      {rest rest' : List (ParserField Parser)} :
    f.Simulates S C f' → StackedSimulate S C stacked stacked' → FieldsSimulate S C rest rest' →
      FieldsSimulate S C (⟨f, stacked⟩ :: rest) (⟨f', stacked'⟩ :: rest')

/-- The stacked parsers come to the same one by one, and so does what is taken up of them. -/
inductive StackedSimulate (S : Session → Session → Prop) :
    (C : Context → Context → Prop) → List (Stacked Parser) → List (Stacked Parser) → Prop
  | nil {C : Context → Context → Prop} : StackedSimulate S C [] []
  | cons {C : Context → Context → Prop} {R : Record → Record → Prop} {p p' : Parser}
      {how : Aggregation} {flatten : Bool} {rest rest' : List (Stacked Parser)} :
    Simulates S C R p p' →
      (∀ {a b r r'}, C a b → R r r' →
        SameOutcome C (takeUp a p.name how flatten r) (takeUp b p'.name how flatten r')) →
      StackedSimulate S C rest rest' →
      StackedSimulate S C (⟨p, how, flatten⟩ :: rest) (⟨p', how, flatten⟩ :: rest')

end

variable {S : Session → Session → Prop} {C O : Context → Context → Prop}
  {R M : Record → Record → Prop} {D : Prepared → Prepared → Prop} {a b : Context} {p p' : Parser}

/-- A failure gives up a field alike, from contexts that are related. -/
theorem giveUp_parallel (hS : Session.Congruence S) (hC : Context.Congruence C) (h : C a b)
    (field : String) (e : Failure) :
    Parallel S (Option.Rel C) (giveUp a field e) (giveUp b field e) := by
  -- The outer parser only notes the failure, and what is noted is the same in both.
  have hnoted : ∀ (reading : Reading) {x : Attempt (Option Context)},
      Parallel S (Option.Rel C) x x → Parallel S (Option.Rel C)
        (do
          if a.isTop then liftM (Session.note reading)
          x)
        (do
          if a.isTop then liftM (Session.note reading)
          x) := by
    intro reading x hx
    split
    · exact (Parallel.run (hS.note reading)).bind_same fun _ => hx
    · exact hx
  unfold giveUp
  rw [hC.name_eq h, hC.isTop_eq h]
  split
  · exact .throw _
  · exact hnoted _ (.pure .none)
  · exact hnoted _ (.throw _)

/-- A record that comes to stand inside gets its times on the same host, and is put into contexts
that it leaves related. -/
theorem takeUp_relate_parallel {parser : String} {flatten : Bool} {r : Record}
    (hhost : b.host = a.host)
    (h : ∀ timed, Context.Joins C a b (a.record.addChild parser timed flatten)
      (b.record.addChild parser timed flatten)) :
    SameOutcome C (takeUp a parser .relate flatten r) (takeUp b parser .relate flatten r) := by
  have htimes : SameOutcome Eq (r.determineTimes a.host.now) (r.determineTimes b.host.now) := by
    rw [hhost]
    exact .of_eq (fun _ => rfl) _
  refine htimes.map fun timed _ htimed => ?_
  obtain rfl := htimed
  exact h timed

section Fields

variable {f f' : Field} {stacked stacked' : List (Stacked Parser)}

/-- Offers that come to the same, from contexts that are related. -/
def OffersAlike (S : Session → Session → Prop) (C : Context → Context → Prop)
    (stacked stacked' : List (Stacked Parser)) : Prop :=
  ∀ (v : Value) {a b : Context}, C a b →
    Parallel S (fun x y => C x.1 y.1 ∧ x.2 = y.2) (offer stacked v a) (offer stacked' v b)

/-- A value is taken into the record alike, if it is offered alike. -/
theorem take_parallel (hf : f.Simulates S C f') (hoffer : OffersAlike S C stacked stacked')
    (v : Value) (h : C a b) :
    Parallel S C (take ⟨f, stacked⟩ v a) (take ⟨f', stacked'⟩ v b) := by
  unfold take
  simp only [hf.isSpread_eq]
  split
  · exact (hf.spread h v).bind fun r r' hr => .pure hr
  · refine (hoffer v h).bind fun x y hxy => ?_
    obtain ⟨ctx, accepted⟩ := x
    obtain ⟨ctx', accepted'⟩ := y
    obtain ⟨hctx, rfl⟩ := hxy
    cases accepted with
    | true => exact .pure hctx
    | false => exact (Parallel.except (hf.apply hctx v)).bind fun r r' hr => .pure hr

theorem fillField_parallel (hf : f.Simulates S C f') (hoffer : OffersAlike S C stacked stacked')
    (h : C a b) : Parallel S C (fillField ⟨f, stacked⟩ a) (fillField ⟨f', stacked'⟩ b) := by
  unfold fillField
  refine (hf.resolve h).bind_same fun v => ?_
  cases v with
  | none => exact .pure h
  | some v => exact take_parallel hf hoffer v h

end Fields

mutual

/-- **A stacked parser comes to the same as one that it simulates**, however deep parsers are
stacked. -/
theorem parseStacked_parallel (hS : Session.Congruence S) : (p : Parser) → {p' : Parser} →
    {O : Context → Context → Prop} → {R : Record → Record → Prop} → Simulates S O R p p' →
    (v : Value) → {a b : Context} → O a b →
    Parallel S (Option.Rel R) (parseStacked p v a) (parseStacked p' v b)
  | mk profile preParsers filters fields, mk profile' preParsers' filters' fields', _, _,
      .intro hown hinner hfields hjudged, v, a, b, h => by
    rw [parseStacked, parseStacked]
    refine (Parallel.run (hown.preParsed _)).bind_same fun raw => ?_
    have hprepare : SameOutcome (Option.Rel _) (profile.resolver.prepare raw)
      (profile'.resolver.prepare raw) := hown.prepare raw
    generalize profile.resolver.prepare raw = data at hprepare ⊢
    generalize profile'.resolver.prepare raw = data' at hprepare ⊢
    -- An `UnsupportedData` failure means that the parser is passed over; any other one propagates.
    cases hprepare with
    | error e => cases e <;> first | exact .pure .none | exact .throw _
    | ok hdata =>
      cases hdata with
      | none => exact .pure .none
      | some hdata =>
        refine (fill_parallel hS fields hown.contexts hfields (hinner h hdata raw)).bind
          fun x y hxy => ?_
        cases hxy with
        | none => exact .pure .none
        | some hctx =>
          refine (Parallel.except (hown.message hctx false)).bind fun r r' hr => ?_
          exact (Parallel.run (hjudged hr)).bind fun r r' hr => .pure (.some hr)

/-- Fields are filled alike, from contexts that are related. -/
theorem fill_parallel (hS : Session.Congruence S) : (fields : List (ParserField Parser)) →
    {fields' : List (ParserField Parser)} → {C : Context → Context → Prop} →
    Context.Congruence C → FieldsSimulate S C fields fields' → {a b : Context} → C a b →
    Parallel S (Option.Rel C) (fill fields a) (fill fields' b)
  | [], _, _, hC, .nil, a, b, h => by
    rw [fill, fill]
    exact .pure (.some (hC.atField h none))
  | ⟨f, stacked⟩ :: rest, _, C, hC, .cons hf hstacked hrest, a, b, h => by
    have hat : C (a.atField f.name) (b.atField f.name) := hC.atField h (some f.name)
    have hoffer := offer_parallel hS stacked hstacked
    rw [fill_cons, fill_cons]
    simp only [hf.name_eq]
    refine (fillField_parallel hf hoffer hat).outcome.bind fun x y hxy => ?_
    cases hxy with
    | error e => exact giveUp_parallel hS hC hat f.name e
    | ok hctx => exact fill_parallel hS rest hC hrest hctx

theorem offer_parallel (hS : Session.Congruence S) : (stacked : List (Stacked Parser)) →
    {stacked' : List (Stacked Parser)} → {C : Context → Context → Prop} →
    StackedSimulate S C stacked stacked' → OffersAlike S C stacked stacked'
  | [], _, _, .nil, _, _, _, h => by
    rw [offer, offer]
    exact .pure ⟨h, rfl⟩
  | ⟨p, how, flatten⟩ :: rest, _, C, .cons hp htake hrest, v, a, b, h => by
    have hmore {a b : Context} (h : C a b) := offer_parallel hS rest hrest v h
    rw [offer, offer]
    refine (parseStacked_parallel hS p hp v h).bind fun x y hxy => ?_
    cases hxy with
    | none => exact hmore h
    | some hsub =>
      refine (Parallel.except (htake h hsub)).bind fun ctx ctx' hctx => ?_
      exact (hmore hctx).bind fun x y hxy => .pure ⟨hxy.1, rfl⟩

end

/-- A record is finished alike if it is judged alike. -/
theorem finished_parallel (hS : Session.Congruence S) {parser : String}
    {filters filters' : List RecordFilter} {r r' : Record}
    (h : Run.Parallel S Eq (judged parser filters r) (judged parser filters' r')) :
    Run.Parallel S Eq (finished parser filters r) (finished parser filters' r') := by
  unfold finished
  refine h.bind_same fun r => ?_
  split
  · exact .pure rfl
  · exact (hS.identify r).bind_same fun r => (hS.keep r parser).bind_same fun _ => .pure rfl

theorem close_parallel (hS : Session.Congruence S) (hown : OwnSimulates S D C M p p')
    (hjudged : ∀ {r r'}, M r r' →
      Run.Parallel S Eq (judged p.name p.filters r) (judged p'.name p'.filters r'))
    (host : Host) (source : Source) (h : C a b) :
    Parallel S Eq (p.close host source a) (p'.close host source b) := by
  have hname : p'.name = p.name := hown.name_eq
  unfold close
  rw [hown.properties_eq, hname]
  refine (Parallel.except (hown.message h _)).bind fun r r' hr => ?_
  refine (Parallel.except (hown.times hr host.now)).bind fun r r' hr => ?_
  have hfinished := finished_parallel hS (hname ▸ hjudged hr)
  refine (Parallel.run hfinished).bind_same fun r => ?_
  exact (Parallel.run (hS.note _)).bind_same fun _ => .pure rfl

/-- An item comes to the same. -/
theorem parseItem_parallel (hS : Session.Congruence S) (h : Simulates S O Eq p p') (host : Host)
    (source : Source) (metadata : Keyed Value) (item : RawData) :
    Parallel S Eq (p.parseItem host source metadata item)
      (p'.parseItem host source metadata item) := by
  obtain ⟨hown, -, hfields, hjudged⟩ := h
  unfold parseItem
  refine (Parallel.run (hown.preParsed item)).bind_same fun raw => ?_
  refine (Parallel.except (hown.prepare raw)).bind fun data data' hdata => ?_
  cases hdata with
  | none => exact .pure rfl
  | some hdata =>
    refine .get hS fun s s' hcache => ?_
    rw [hcache]
    refine (fill_parallel hS p.fields hown.contexts hfields
      (hown.opening hdata host source metadata raw s'.cache)).bind fun x y hxy => ?_
    cases hxy with
    | none => exact .pure rfl
    | some hctx => exact close_parallel hS hown hjudged host source hctx

/-- **An input comes to the same for a parser as for one that it simulates**, in sessions that are
related. -/
theorem parse_parallel (hS : Session.Congruence S) (h : Simulates S O Eq p p') (host : Host)
    (source : Source) (metadata : Keyed Value) (input : RawData) {s s' : Session} (hs : S s s') :
    (p.parse host source metadata input s).result =
        (p'.parse host source metadata input s').result ∧
      (p.parse host source metadata input s).input =
        (p'.parse host source metadata input s').input ∧
      S (p.parse host source metadata input s).session
        (p'.parse host source metadata input s').session := by
  have hitem := parseItem_parallel hS h host source metadata
  obtain ⟨hown, -, -, -⟩ := h
  unfold parse
  rw [hown.properties_eq]
  rcases input.next p.profile.properties.portion with ⟨e | _ | item, rest⟩
  · exact ⟨rfl, rfl, hs⟩
  · exact ⟨rfl, rfl, hs⟩
  · obtain ⟨hsame, hnext⟩ := hitem item s s' hs
    exact ⟨hsame.eq, rfl, hnext⟩

/-- A parser that simulates another one wherever sessions are the same comes to just the same. -/
theorem Simulates.parse_eq (h : Simulates Eq O Eq p p') (host : Host) (source : Source)
    (metadata : Keyed Value) (input : RawData) (session : Session) :
    p'.parse host source metadata input session = p.parse host source metadata input session := by
  obtain ⟨hresult, hinput, hsession⟩ :=
    parse_parallel .eq h host source metadata input (rfl : session = session)
  generalize p.parse host source metadata input session = o at hresult hinput hsession ⊢
  generalize p'.parse host source metadata input session = o' at hresult hinput hsession ⊢
  obtain ⟨result, rest, next⟩ := o
  obtain ⟨result', rest', next'⟩ := o'
  obtain rfl : result = result' := hresult
  obtain rfl : rest = rest' := hinput
  obtain rfl : next = next' := hsession
  rfl

theorem Simulates.parseStacked_eq (h : Simulates Eq O Eq p p') (v : Value) (hab : O a b) :
    parseStacked p' v b = parseStacked p v a := by
  refine (Parallel.eq ((parseStacked_parallel .eq p h v hab).mono fun x y hxy => ?_)).symm
  cases hxy with
  | none => rfl
  | some hr => rw [hr]

/-! ### Parsers of the same profile, in the same contexts -/

/-- A parser simulates one of the same profile if its pre-parsers, fields and filters come to the
same in the same contexts. -/
theorem Simulates.of_profile_eq (hprofile : p'.profile = p.profile)
    (hpre : ∀ raw, Run.Parallel S Eq (Session.preParsed p.preParsers raw)
      (Session.preParsed p'.preParsers raw))
    (hfields : FieldsSimulate S Eq p.fields p'.fields)
    (hjudged : ∀ r, Run.Parallel S Eq (judged p.name p.filters r) (judged p.name p'.filters r)) :
    Simulates S Eq Eq p p' := by
  have hown : OwnSimulates S Eq Eq Eq p p' := by
    refine ⟨by rw [hprofile], by rw [hprofile], .eq, hpre, ?_, ?_, ?_, ?_⟩
    · intro raw
      rw [hprofile]
      refine .of_eq (fun data => ?_) _
      cases data with
      | none => exact .none
      | some data => exact .some rfl
    · rintro d _ rfl host source metadata raw cache
      unfold opening
      rw [hprofile]
    · rintro a _ rfl dataAsMessage
      rw [hprofile]
      exact .of_eq (fun _ => rfl) _
    · rintro r _ rfl now
      exact .of_eq (fun _ => rfl) _
  refine .intro hown ?_ hfields ?_
  · rintro a _ d _ rfl rfl raw
    rw [hprofile]
  · rintro r _ rfl
    have hname : p'.name = p.name := congrArg Profile.name hprofile
    rw [hname]
    exact hjudged r

/-- What is taken up of parsers of the same name comes to the same. -/
theorem StackedSimulate.cons_same {how : Aggregation} {flatten : Bool}
    {rest rest' : List (Stacked Parser)} (hp : Simulates S Eq Eq p p') (hname : p'.name = p.name)
    (hrest : StackedSimulate S Eq rest rest') :
    StackedSimulate S Eq (⟨p, how, flatten⟩ :: rest) (⟨p', how, flatten⟩ :: rest') := by
  refine .cons hp ?_ hrest
  rintro a _ r _ rfl rfl
  rw [hname]
  exact .of_eq (fun _ => rfl) _

end Parser

end Intake
