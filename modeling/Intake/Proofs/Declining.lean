import Intake.Proofs.Steady

/-!
# Stacked parsers that decline a value

* `Run.Quiet`: a run leaves the kept values and the identifiers at hand alone, as a stacked parser
  does however deep it is stacked (`Parser.parseStacked_quiet`).
* `Parser.parseStacked_eq_none_iff`: when a stacked parser declines a value.
* `Parser.accepted`: the stacked parsers that accept a value, each with its record.
* `Parser.Shortened`: some of the parsers that decline a value are left out.
* `Parser.take_of_shortened`: **stacked parsers that decline a value leave no trace.** If all of
  them do, the value is applied itself; if one accepts it, it is not. A value that is spread over
  fields is offered to none of them.
-/

namespace Intake

variable {α β : Type}

theorem Session.Alike.refl (s : Session) : s.Alike s := ⟨rfl, rfl⟩

theorem Session.Alike.trans {s s₁ s₂ : Session} (h : s.Alike s₁) (h' : s₁.Alike s₂) : s.Alike s₂ :=
  ⟨h.cache.trans h'.cache, h.ids.trans h'.ids⟩

/-- A run leaves the kept values and the identifiers at hand alone. -/
def Run.Quiet (x : Run α) : Prop :=
  ∀ s, (x s).2.Alike s

theorem Run.Quiet.composes : Run.Composes @Run.Quiet where
  pure _ s := .refl s
  bind hx hf s := (hf _ _).trans (hx s)
  noted _ _ := ⟨rfl, rfl⟩

theorem Run.Quiet.ask (counter : Nat) : Run.Quiet (Session.ask counter) := fun _ => ⟨rfl, rfl⟩

namespace Session

theorem preParse_quiet (p : PreParser) (raw : RawData) : Run.Quiet (preParse p raw) := by
  have h := Run.Quiet.composes
  unfold preParse
  split
  · exact h.bind (Run.Quiet.ask _) fun _ => h.pure _
  · exact h.pure _

theorem judge_quiet (f : RecordFilter) (r : Record) : Run.Quiet (judge f r) := by
  have h := Run.Quiet.composes
  unfold judge
  split
  · exact h.bind (Run.Quiet.ask _) fun _ => h.pure _
  · exact h.pure _

end Session

namespace Parser

open Attempt

/-- **A stacked parser is quiet**, however deep it is stacked and whatever it comes to. -/
theorem parseStacked_quiet (p : Parser) (v : Value) (outer : Context) :
    Has Run.Quiet (parseStacked p v outer) :=
  parseStacked_has Run.Quiet.composes (fun q _ raw => Session.preParse_quiet q raw)
    (fun f _ r => Session.judge_quiet f r)
    (allParts_of_all (Q := fun _ => True) (F := fun _ => True) (fun _ => trivial)
      (fun _ => trivial) p) v outer

variable {v : Value} {ctx : Context} {s s' s₁ : Session} {stacked kept : List (Stacked Parser)}

/-- A record of a stacked parser is judged, whatever becomes of it, once its fields are filled. -/
theorem record_ne_none (profile : Profile) (filters : List RecordFilter) (ctx : Context)
    (s : Session) :
    (((do
      let r ← withDefaultMessage profile false ctx
      return some (← judged profile.name filters r) : Attempt (Option Record))).on s).1 ≠
        .ok none := by
  rw [on_bind, on_except]
  cases withDefaultMessage profile false ctx with
  | error e => nofun
  | ok r => nofun

/-- A stacked parser declines a value exactly if it cannot read data of its kind, if there is
nothing in the value for it to parse, or if its fields come to nothing for want of a value. -/
theorem parseStacked_eq_none_iff {p : Parser} {raw : RawData}
    (hraw : Session.preParsed p.preParsers (.ofValue v) s = (raw, s₁)) :
    ((parseStacked p v ctx).on s).1 = .ok none ↔
      (∃ what, p.profile.resolver.prepare raw = .error (.unsupportedData what)) ∨
      p.profile.resolver.prepare raw = .ok none ∨
      ∃ data, p.profile.resolver.prepare raw = .ok (some data) ∧
        ((fill p.fields (ctx.inner p.profile raw data)).on s₁).1 = .ok none := by
  obtain ⟨profile, preParsers, filters, fields⟩ := p
  have hlift : (liftM (Session.preParsed preParsers (.ofValue v)) : Attempt RawData).on s =
      (.ok raw, s₁) := by
    rw [on_run, show Session.preParsed preParsers (.ofValue v) s = (raw, s₁) from hraw]
  rw [parseStacked, on_bind_of_ok hlift]
  simp only [Parser.profile, Parser.fields]
  -- of the failures of the resolver only the one about the kind of data is no failure here
  rcases profile.resolver.prepare raw with e | _ | data
  · cases e with
    | unsupportedData what => exact ⟨fun _ => .inl ⟨what, rfl⟩, fun _ => rfl⟩
    | _ => simp
  · exact ⟨fun _ => .inr (.inl rfl), fun _ => rfl⟩
  · rcases hfill : (fill fields (ctx.inner profile raw data)).on s₁ with ⟨e | _ | ctx', s₂⟩
    · simp only
      rw [on_bind_of_error hfill]
      simp [hfill]
    · simp only
      rw [on_bind_of_ok hfill]
      simp [hfill]
    · simp only
      rw [on_bind_of_ok hfill]
      simpa [hfill] using record_ne_none profile filters ctx' s₂

/-- The parsers of a list that accept a value when it is offered to one after the other, each with
its record. -/
def accepted : List (Stacked Parser) → Value → Context →
    Attempt (List (Stacked Parser × Record))
  | [], _, _ => return []
  | st :: rest, v, ctx => do
    match ← parseStacked st.parser v ctx with
    | none => accepted rest v ctx
    | some sub =>
      let ctx ← takeUp ctx st.parser.name st.aggregation st.flatten sub
      let others ← accepted rest v ctx
      return (st, sub) :: others

/-- A context with the records of stacked parsers, taken up one after the other. -/
def takenUp (ctx : Context) (subs : List (Stacked Parser × Record)) : Except Failure Context :=
  subs.foldlM (fun ctx (st, sub) => takeUp ctx st.parser.name st.aggregation st.flatten sub) ctx

theorem takenUp_cons (ctx : Context) (st : Stacked Parser) (sub : Record)
    (subs : List (Stacked Parser × Record)) :
    takenUp ctx ((st, sub) :: subs) =
      takeUp ctx st.parser.name st.aggregation st.flatten sub >>= fun next => takenUp next subs :=
  rfl

theorem offer_on (stacked : List (Stacked Parser)) (v : Value) (ctx : Context) (s : Session) :
    (offer stacked v ctx).on s =
      (((accepted stacked v ctx).on s).1 >>= fun subs =>
          (takenUp ctx subs).map fun ctx => (ctx, !subs.isEmpty),
        ((accepted stacked v ctx).on s).2) := by
  -- offering takes up each record at once; it comes to the same to take them all up in the end
  induction stacked generalizing ctx s with
  | nil =>
    rw [offer, accepted]
    rfl
  | cons st rest ih =>
    obtain ⟨p, how, flatten⟩ := st
    rw [offer, accepted, on_bind, on_bind]
    rcases (parseStacked p v ctx).on s with ⟨e | _ | sub, s₁⟩
    · rfl
    · exact ih ctx s₁
    · simp only
      rw [on_bind, on_bind, on_except]
      cases htake : takeUp ctx p.name how flatten sub with
      | error e => rfl
      | ok next =>
        simp only
        rw [on_bind, on_bind, ih]
        rcases (accepted rest v next).on s₁ with ⟨e | subs, s₂⟩
        · rfl
        · have htaken : takenUp ctx ((⟨p, how, flatten⟩, sub) :: subs) = takenUp next subs :=
            (takenUp_cons _ _ _ _).trans (by rw [htake]; rfl)
          change _ = ((takenUp ctx _).map _, s₂)
          rw [htaken]
          simp only [bind, Except.bind]
          cases takenUp next subs <;> rfl

/-- The records of the parsers that accept a value can be taken up. -/
theorem takenUp_of_accepted {subs : List (Stacked Parser × Record)}
    (h : (accepted stacked v ctx).on s = (.ok subs, s')) : ∃ next, takenUp ctx subs = .ok next := by
  induction stacked generalizing ctx s subs with
  | nil =>
    cases h
    exact ⟨ctx, rfl⟩
  | cons st rest ih =>
    rw [accepted] at h
    obtain ⟨sub, s₁, -, h⟩ := on_bind_eq_ok.1 h
    cases sub with
    | none => exact ih h
    | some sub =>
      obtain ⟨next, s₂, htake, h⟩ := on_bind_eq_ok.1 h
      obtain ⟨others, s₃, hothers, hreturn⟩ := on_bind_eq_ok.1 h
      cases hreturn
      rw [takenUp_cons, (on_except_eq_ok.1 htake).1]
      exact ih hothers

/-- Some of the parsers that decline a value, each in its turn, are left out of a list. -/
inductive Shortened (v : Value) :
    Context → Session → List (Stacked Parser) → List (Stacked Parser) → Prop
  | nil {ctx : Context} {s : Session} : Shortened v ctx s [] []
  /-- A parser declines and is left out. -/
  | leaveOut {ctx : Context} {s s₁ : Session} {st : Stacked Parser}
      {stacked kept : List (Stacked Parser)} :
    (parseStacked st.parser v ctx).on s = (.ok none, s₁) → Shortened v ctx s₁ stacked kept →
      Shortened v ctx s (st :: stacked) kept
  /-- A parser declines and is kept all the same. -/
  | declines {ctx : Context} {s s₁ : Session} {st : Stacked Parser}
      {stacked kept : List (Stacked Parser)} :
    (parseStacked st.parser v ctx).on s = (.ok none, s₁) → Shortened v ctx s₁ stacked kept →
      Shortened v ctx s (st :: stacked) (st :: kept)
  /-- A parser accepts: those after it are offered the value in a context with its record. -/
  | accepts {ctx next : Context} {s s₁ : Session} {st : Stacked Parser} {sub : Record}
      {stacked kept : List (Stacked Parser)} :
    (parseStacked st.parser v ctx).on s = (.ok (some sub), s₁) →
      takeUp ctx st.parser.name st.aggregation st.flatten sub = .ok next →
        Shortened v next s₁ stacked kept → Shortened v ctx s (st :: stacked) (st :: kept)
  /-- A parser accepts, but its record cannot be taken up: no parser after it is offered the
  value. -/
  | stops {ctx : Context} {s s₁ : Session} {e : Failure} {st : Stacked Parser} {sub : Record}
      {stacked kept : List (Stacked Parser)} :
    (parseStacked st.parser v ctx).on s = (.ok (some sub), s₁) →
      takeUp ctx st.parser.name st.aggregation st.flatten sub = .error e →
        Shortened v ctx s (st :: stacked) (st :: kept)
  /-- A parser fails: no parser after it is offered the value. -/
  | fails {ctx : Context} {s s₁ : Session} {e : Failure} {st : Stacked Parser}
      {stacked kept : List (Stacked Parser)} :
    (parseStacked st.parser v ctx).on s = (.error e, s₁) →
      Shortened v ctx s (st :: stacked) (st :: kept)

/-- What goes on steadily goes on alike after attempts that came to the same. -/
theorem goes_on_alike {x y : Attempt α} {f : α → Attempt β}
    (h : (x.on s).1 = (y.on s').1 ∧ (x.on s).2.Alike (y.on s').2) (hf : ∀ a, Steady (f a)) :
    ((x >>= f).on s).1 = ((y >>= f).on s').1 ∧ ((x >>= f).on s).2.Alike ((y >>= f).on s').2 := by
  obtain ⟨hresult, hnext⟩ := h
  rw [on_bind, on_bind]
  generalize x.on s = left at hresult hnext ⊢
  generalize y.on s' = right at hresult hnext ⊢
  obtain ⟨result, s₁⟩ := left
  obtain ⟨result', s₁'⟩ := right
  obtain rfl : result = result' := hresult
  cases result with
  | error e => exact ⟨rfl, hnext⟩
  | ok a => exact hf a s₁ s₁' hnext

/-- A stateless stacked parser answers alike in sessions that are alike. -/
theorem answer_alike {p : Parser} {answer : Except Failure (Option Record)} (hp : p.Stateless)
    (hs : s.Alike s') (h : (parseStacked p v ctx).on s = (answer, s₁)) :
    ∃ s₁', (parseStacked p v ctx).on s' = (answer, s₁') ∧ s₁.Alike s₁' := by
  obtain ⟨hanswer, hnext⟩ := parseStacked_steady hp v ctx s s' hs
  change ((parseStacked p v ctx).on s).1 = ((parseStacked p v ctx).on s').1 at hanswer
  change ((parseStacked p v ctx).on s).2.Alike ((parseStacked p v ctx).on s').2 at hnext
  rw [h] at hanswer hnext
  exact ⟨((parseStacked p v ctx).on s').2, Prod.ext hanswer.symm rfl, hnext⟩

/-- A parser that declines a value leaves a session alike behind. -/
theorem alike_of_declines {st : Stacked Parser}
    (h : (parseStacked st.parser v ctx).on s = (.ok none, s₁)) : s₁.Alike s := by
  have hquiet := parseStacked_quiet st.parser v ctx s
  change ((parseStacked st.parser v ctx).on s).2.Alike s at hquiet
  rwa [h] at hquiet

/-- A value is offered to a shortened list with the same outcome. -/
theorem Shortened.offer_alike (h : Shortened v ctx s stacked kept)
    (hstateless : ∀ st ∈ kept, st.parser.Stateless) (hs : s.Alike s') :
    ((offer stacked v ctx).on s).1 = ((offer kept v ctx).on s').1 ∧
      ((offer stacked v ctx).on s).2.Alike ((offer kept v ctx).on s').2 := by
  -- on how the list was shortened: the sessions drift apart, but only in what was asked and noted
  induction h generalizing s' with
  | nil =>
    rw [offer]
    exact ⟨rfl, hs⟩
  | leaveOut hnone _ ih =>
    rw [offer, on_bind_of_ok hnone]
    exact ih hstateless ((alike_of_declines hnone).trans hs)
  | @declines ctx s s₁ st stacked kept hnone _ ih =>
    obtain ⟨s₁', hnone', hs₁⟩ := answer_alike (hstateless st List.mem_cons_self) hs hnone
    rw [offer, offer, on_bind_of_ok hnone, on_bind_of_ok hnone']
    exact ih (fun st hst => hstateless st (List.mem_cons_of_mem _ hst)) hs₁
  | @accepts ctx next s s₁ st sub stacked kept hsome htake _ ih =>
    obtain ⟨s₁', hsome', hs₁⟩ := answer_alike (hstateless st List.mem_cons_self) hs hsome
    rw [offer, offer, on_bind_of_ok hsome, on_bind_of_ok hsome']
    simp only [htake]
    exact goes_on_alike (ih (fun st hst => hstateless st (List.mem_cons_of_mem _ hst)) hs₁)
      fun _ => .pure _
  | @stops ctx s s₁ e st sub stacked kept hsome htake =>
    obtain ⟨s₁', hsome', hs₁⟩ := answer_alike (hstateless st List.mem_cons_self) hs hsome
    rw [offer, offer, on_bind_of_ok hsome, on_bind_of_ok hsome']
    simp only [htake]
    exact ⟨rfl, hs₁⟩
  | @fails ctx s s₁ e st stacked kept herror =>
    obtain ⟨s₁', herror', hs₁⟩ := answer_alike (hstateless st List.mem_cons_self) hs herror
    rw [offer, offer, on_bind_of_error herror, on_bind_of_error herror']
    exact ⟨rfl, hs₁⟩

/-- If all parsers of a list decline, none accepts. -/
theorem Shortened.accepted_eq_nil (h : Shortened v ctx s stacked []) :
    ((accepted stacked v ctx).on s).1 = .ok [] := by
  induction stacked generalizing s with
  | nil => rfl
  | cons st rest ih =>
    cases h with
    | leaveOut hnone hrest =>
      rw [accepted, on_bind_of_ok hnone]
      exact ih hrest

variable {f : Field}

/-- What a value that is not spread comes to, by the parsers that accept it. -/
theorem take_of_not_spread (hspread : isSpread f v = false) :
    ((take ⟨f, stacked⟩ v ctx).on s).1 =
      ((accepted stacked v ctx).on s).1 >>= fun subs =>
        if subs.isEmpty then (ctx.record.apply f v).map fun record => { ctx with record }
        else takenUp ctx subs := by
  unfold take
  simp only [hspread, if_neg Bool.false_ne_true]
  rw [on_bind, offer_on]
  rcases (accepted stacked v ctx).on s with ⟨e | _ | ⟨sub, subs⟩, s₁⟩
  · rfl
  · change ((liftM (ctx.record.apply f v) >>= fun record =>
      (pure { ctx with record } : Attempt Context)).on s₁).1 = _
    rw [on_bind, on_except]
    cases ctx.record.apply f v with
    | error e => rfl
    | ok record => rfl
  · simp only [bind, Except.bind]
    cases takenUp ctx (sub :: subs) <;> rfl

/-- **Stacked parsers that decline a value leave no trace.** Whichever of them are left out, the
field takes the value into the same context, or fails in the same way. If all of them decline, the
value is applied itself; once one of them accepts it, it is not: what becomes of the record then is
what the records of the accepting parsers make of it, or the failure of a parser after them. A value
that is spread over fields is offered to none of them. -/
theorem take_of_shortened (hstateless : ∀ st ∈ kept, st.parser.Stateless)
    (h : Shortened v ctx s stacked kept) :
    (((take ⟨f, stacked⟩ v ctx).on s).1 = ((take ⟨f, kept⟩ v ctx).on s).1 ∧
      ((take ⟨f, stacked⟩ v ctx).on s).2.Alike ((take ⟨f, kept⟩ v ctx).on s).2) ∧
    (isSpread f v = false →
      (kept = [] → ((take ⟨f, stacked⟩ v ctx).on s).1 =
        (ctx.record.apply f v).map fun record => { ctx with record }) ∧
      (∀ subs, subs ≠ [] → ((accepted stacked v ctx).on s).1 = .ok subs →
        ∃ next, takenUp ctx subs = .ok next ∧ ((take ⟨f, stacked⟩ v ctx).on s).1 = .ok next) ∧
      ∀ e, ((accepted stacked v ctx).on s).1 = .error e →
        ((take ⟨f, stacked⟩ v ctx).on s).1 = .error e) ∧
    (isSpread f v = true → ∀ others, take ⟨f, others⟩ v ctx = take ⟨f, stacked⟩ v ctx) := by
  refine ⟨?_, fun hspread => ⟨?_, ?_, ?_⟩, fun hspread others => ?_⟩
  · unfold take
    split
    · exact ⟨rfl, .refl _⟩
    · -- after the offer both go on from the same context
      refine goes_on_alike (h.offer_alike hstateless (.refl s)) fun next => ?_
      obtain ⟨ctx', accepted⟩ := next
      cases accepted with
      | true => exact .pure _
      | false => exact (Steady.except _).bind fun _ => .pure _
  · rintro rfl
    rw [take_of_not_spread hspread, h.accepted_eq_nil]
    rfl
  · intro subs hsubs haccepted
    obtain ⟨next, hnext⟩ := takenUp_of_accepted (Prod.ext haccepted rfl)
    refine ⟨next, hnext, ?_⟩
    rw [take_of_not_spread hspread, haccepted, ← hnext]
    exact if_neg (by simpa using hsubs)
  · intro e haccepted
    rw [take_of_not_spread hspread, haccepted]
    rfl
  · unfold take
    rw [if_pos hspread, if_pos hspread]

/-- A parser for orders, which have to have a number. -/
def orders : Parser :=
  .mk ⟨"orders", {}, .map⟩ [] []
    [⟨{ name := "Order", locators := [{ location := "number", required := some true }] }, []⟩]

/-- A parser for any kind of event. -/
def events : Parser :=
  .mk ⟨"events", {}, .map⟩ [] []
    [⟨{ name := "EventName", locators := [{ location := "op" }] }, []⟩]

theorem events_stateless : events.Stateless := by
  refine .intro nofun nofun ?_
  intro pf hpf st hst
  simp only [fields, events, List.mem_singleton] at hpf
  subst hpf
  cases hst

/-- The context of an item of which nothing is known yet. -/
def blankContext : Context :=
  events.opening { now := ⟨0⟩, env := fun _ => none } { name := "test" } [] (.text "") (.map [])
    default

/-- A session with nothing kept. -/
def blankSession : Session where
  cache := default
  ids := { id := toString }

/-- A login is no order: the field takes it as if it were offered to the parser for events alone. -/
theorem login_is_no_order :
    ((take ⟨{ name := "Payload" }, [⟨orders, .merge, false⟩, ⟨events, .merge, false⟩]⟩
        (.map [("op", .str "login")]) blankContext).on blankSession).1 =
      ((take ⟨{ name := "Payload" }, [⟨events, .merge, false⟩]⟩
        (.map [("op", .str "login")]) blankContext).on blankSession).1 := by
  have hnone : ((parseStacked orders (.map [("op", .str "login")]) blankContext).on
      blankSession).1 = .ok none := by
    rfl
  have hkept : ∀ st ∈ [(⟨events, .merge, false⟩ : Stacked Parser)], st.parser.Stateless := by
    intro st hst
    rw [List.mem_singleton.1 hst]
    exact events_stateless
  have hsome : ∃ sub, ((parseStacked events (.map [("op", .str "login")]) blankContext).on
      ((parseStacked orders (.map [("op", .str "login")]) blankContext).on blankSession).2).1 =
        .ok (some sub) := ⟨_, rfl⟩
  obtain ⟨sub, hsub⟩ := hsome
  exact (take_of_shortened hkept
    (.leaveOut (Prod.ext hnone rfl) (.accepts (Prod.ext hsub rfl) rfl .nil))).1.1

/-- A field whose list is spread over fields. -/
def items : Field where
  name := "Item"
  locators := [{ location := "items.*" }]
  isSplit := true

/-- The properties of a record that a field was taken into, as texts. -/
def wordedProperties (taken : Except Failure Context) : Option (Keyed String) :=
  taken.toOption.map fun ctx => ctx.record.facts.properties.map fun e => (e.1, e.2.text)

/-- Nor are two names an order. They are spread over fields all the same, and not applied as one
value. -/
theorem names_spread_over_fields :
    Shortened (.list [.str "ann", .str "bob"]) blankContext blankSession
      [⟨orders, .merge, false⟩] [] ∧
    wordedProperties ((take ⟨items, [⟨orders, .merge, false⟩]⟩ (.list [.str "ann", .str "bob"])
      blankContext).on blankSession).1 = some [("Item", "ann"), ("Item1", "bob")] ∧
    ((take ⟨items, [⟨orders, .merge, false⟩]⟩ (.list [.str "ann", .str "bob"]) blankContext).on
      blankSession).1 ≠
        (blankContext.record.apply items (.list [.str "ann", .str "bob"])).map fun record =>
          { blankContext with record } := by
  have hnone : ((parseStacked orders (.list [.str "ann", .str "bob"]) blankContext).on
      blankSession).1 = .ok none := by
    rfl
  have hspread : wordedProperties ((take ⟨items, [⟨orders, .merge, false⟩]⟩
      (.list [.str "ann", .str "bob"]) blankContext).on blankSession).1 =
        some [("Item", "ann"), ("Item1", "bob")] := by
    decide +kernel
  have hwhole : wordedProperties ((blankContext.record.apply items
      (.list [.str "ann", .str "bob"])).map fun record => { blankContext with record }) =
        some [("Item", "annbob")] := by
    decide +kernel
  refine ⟨.leaveOut (Prod.ext hnone rfl) .nil, hspread, fun h => ?_⟩
  rw [h, hwhole] at hspread
  exact absurd hspread (by decide)

end Parser

end Intake
