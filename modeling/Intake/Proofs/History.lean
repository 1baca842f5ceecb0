import Intake.Proofs.Closing
import Intake.Proofs.Gathering
import Intake.Proofs.Inside

/-!
# How records come about

While the fields of a parser are filled, fields of its record are set, and the records of the
parsers stacked on its fields are merged into it or added to it. These have come about in the same
way.

* `Parser.History`: what has happened to a record, step by step, and to the records that it got.
* `Parser.arises_of_fill`: **a record whose fields were filled has such a history**.
* `Parser.Finishes`, `Parser.finishes_of_parse`, `Parser.facts_of_parse`: what becomes of it at the
  end of its item.
* `Parser.History.ordinal_eq`, `Parser.History.identifiedBy`, `Parser.History.ordered`: what is
  known of a record by its history.
* `Parser.History.encloses`, `Parser.History.inside`: where the records inside a record come from.
* `Parser.everywhere_of_parse`: everywhere in the record of an item stand records with histories.
-/

namespace Intake

namespace Facts

variable {f f' : Facts} {name : String} {format : Option TimeFormat} {v : Value}

/-- A slot that is set leaves the place of the record alone and its properties too, and unless it
is the identifier that one as well. -/
theorem setSlot_keeps {slot : Slot} (h : f.setSlot slot name format v = .ok f') :
    f'.ordinal = f.ordinal ∧ f'.properties = f.properties ∧
      (slot ≠ .trackingId → f'.trackingId = f.trackingId) := by
  cases slot with
  | trackingId =>
    cases h
    exact ⟨rfl, rfl, fun hne => absurd rfl hne⟩
  | message =>
    obtain rfl : f.setMessage v = f' := Except.ok.inj h
    unfold setMessage
    simp only
    split <;> exact ⟨rfl, rfl, fun _ => rfl⟩
  | eventType | severity | compCode | startTime | endTime | elapsedTime | reasonCode | msgLength
  | processId | threadId =>
    obtain ⟨c, -, rfl⟩ := map_eq_ok.1 h
    exact ⟨rfl, rfl, fun _ => rfl⟩
  | _ =>
    cases h
    exact ⟨rfl, rfl, fun _ => rfl⟩

theorem ordinal_setAs (h : f.setAs name format v = .ok f') : f'.ordinal = f.ordinal := by
  unfold setAs at h
  split at h
  · exact (setSlot_keeps h).1
  · cases h
    rfl

theorem sorted_setAs (hf : Keyed.Sorted f.properties) (h : f.setAs name format v = .ok f') :
    Keyed.Sorted f'.properties := by
  unfold setAs at h
  split at h
  · rw [(setSlot_keeps h).2.1]
    exact hf
  · cases h
    exact Keyed.sorted_insert hf

/-- An identifier was there before, or it is the text that the field of this name was set to. -/
theorem trackingId_setAs {id : String} (h : f.setAs name format v = .ok f')
    (hid : f'.trackingId = some id) :
    f.trackingId = some id ∨ name = Slot.trackingId.name ∧ v.text = id := by
  unfold setAs at h
  split at h
  · next slot hslot =>
    by_cases hthis : slot = .trackingId
    · subst hthis
      cases h
      change substitute f.trackingId v = some id at hid
      unfold substitute at hid
      simp only at hid
      split at hid
      · exact .inl hid
      · exact .inr ⟨(Slot.name_of_ofName? hslot).symm, Option.some.inj hid⟩
    · have hkept := (setSlot_keeps h).2.2 hthis
      exact .inl (hkept ▸ hid)
  · cases h
    exact .inl hid

/-- An identifier after a merge is one of those before it. -/
theorem trackingId_merge {g : Facts} {id : String} (hid : (f.merge g).trackingId = some id) :
    f.trackingId = some id ∨ g.trackingId = some id := by
  change fillText f.trackingId g.trackingId = some id at hid
  rw [fillText_eq] at hid
  split at hid
  · exact .inl hid
  · split at hid
    · exact .inr hid
    · exact .inl hid

end Facts

namespace Parser

open Attempt

/-- The parsers stacked on the fields of a parser, in the order in which they are offered values. -/
def stacked (p : Parser) : List (Stacked Parser) :=
  p.fields.flatMap (·.stacked)

/-- The parser judges a record: it is complete then, and says what the record filters say of it. -/
def Judges (p : Parser) (filled r : Record) : Prop :=
  ∃ s, r = filled.completed.flagged (Session.excludes p.name p.filters filled.completed s).1

theorem Judges.children {p : Parser} {filled r : Record} (h : p.Judges filled r) :
    r.children = filled.children := by
  obtain ⟨s, rfl⟩ := h
  rfl

/-- A parser sets fields of this name: one of its fields has it, or an element of its value gets a
field of this name. The message may be set without a field. -/
inductive Sets (p : Parser) : String → Prop
  | own {pf : ParserField Parser} : pf ∈ p.fields → Sets p pf.field.name
  | element {pf : ParserField Parser} {values : Keyed Value} {elements : List (String × Value)}
      {entry : Field × Value} :
    pf ∈ p.fields → entry ∈ Context.elementFields pf.field values 0 {} elements →
      Sets p entry.1.name
  | message : Sets p Slot.message.name

/-- Something that happens to a record while its fields are filled. -/
inductive Happening where
  | sets (name : String) (v : Value)
  | merges (p : Parser) (sub : Record)
  | relates (p : Parser) (sub : Record)

/-- What has happened to a record of a parser, in this order, while stacked parsers were offered
values. The record is the one with this number among those of its parser inside another record. -/
inductive History : Parser → List (Stacked Parser) → Nat → List Happening → Record → Prop
  | start {p : Parser} {n : Nat} : History p [] n [] (.mk { ordinal := n } [])
  | sets {p : Parser} {offered : List (Stacked Parser)} {n : Nat} {happened : List Happening}
      {r : Record} {facts : Facts} {name : String} {format : Option TimeFormat} {v : Value} :
    History p offered n happened r → p.Sets name → r.facts.setAs name format v = .ok facts →
      History p offered n (happened ++ [.sets name v]) (r.withFacts facts)
  /-- A stacked parser is not asked, or it has no record. -/
  | passes {p : Parser} {offered : List (Stacked Parser)} {n : Nat} {happened : List Happening}
      {r : Record} {st : Stacked Parser} :
    History p offered n happened r → History p (offered ++ [st]) n happened r
  | merges {p q : Parser} {offered : List (Stacked Parser)} {n : Nat}
      {happened inner : List Happening} {r filled sub : Record} {flatten : Bool} :
    History p offered n happened r →
      History q q.stacked ((r.childrenOf q.name).length + 1) inner filled → q.Judges filled sub →
      History p (offered ++ [⟨q, .merge, flatten⟩]) n (happened ++ [.merges q sub]) (r.merge sub)
  | relates {p q : Parser} {offered : List (Stacked Parser)} {n : Nat}
      {happened inner : List Happening} {r filled sub timed : Record} {flatten : Bool}
      {now : Instant} :
    History p offered n happened r →
      History q q.stacked ((r.childrenOf q.name).length + 1) inner filled → q.Judges filled sub →
      sub.determineTimes now = .ok timed →
      History p (offered ++ [⟨q, .relate, flatten⟩]) n (happened ++ [.relates q sub])
        (r.addChild q.name timed flatten)

/-- The record of a parser has come about while these stacked parsers were offered values. -/
def Arises (p : Parser) (offered : List (Stacked Parser)) (n : Nat) (r : Record) : Prop :=
  ∃ happened, History p offered n happened r

variable {offered : List (Stacked Parser)} {n : Nat} {happened : List Happening} {r r' u : Record}
  {ctx ctx' : Context} {s s' : Session} {f : Field} {v : Value} {p q : Parser}

/-! ### Filling fields -/

theorem Arises.start (p : Parser) (n : Nat) : p.Arises [] n (.mk { ordinal := n } []) :=
  ⟨[], .start⟩

theorem Arises.passes (h : p.Arises offered n r) (more : List (Stacked Parser)) :
    p.Arises (offered ++ more) n r := by
  induction more generalizing offered with
  | nil => rwa [List.append_nil]
  | cons st more ih =>
    obtain ⟨happened, h⟩ := h
    rw [List.append_cons]
    exact ih ⟨happened, h.passes⟩

theorem Arises.set (h : p.Arises offered n r) {name : String} (hname : p.Sets name)
    (hset : r.set name v = .ok r') : p.Arises offered n r' := by
  obtain ⟨happened, h⟩ := h
  obtain ⟨facts, hfacts, rfl⟩ := map_eq_ok.1 hset
  exact ⟨_, h.sets hname hfacts⟩

theorem Arises.apply (h : p.Arises offered n r) (hname : p.Sets f.name)
    (happly : r.apply f v = .ok r') : p.Arises offered n r' := by
  obtain ⟨happened, h⟩ := h
  unfold Record.apply at happly
  obtain ⟨w, -, hrest⟩ := bind_eq_ok.1 happly
  obtain ⟨facts, hset, hreturn⟩ := bind_eq_ok.1 hrest
  cases hreturn
  exact ⟨_, h.sets hname (mapError_eq_ok.1 hset)⟩

theorem Arises.applyElements {elements : List (Field × Value)} (h : p.Arises offered n ctx.record)
    (hnames : ∀ e ∈ elements, p.Sets e.1.name)
    (hvalue : (ctx.applyElements elements).value = .ok r) : p.Arises offered n r := by
  induction elements generalizing ctx with
  | nil =>
    cases hvalue
    exact h
  | cons element rest ih =>
    obtain ⟨f, v⟩ := element
    rw [Context.applyElements, Resolving.value_bind] at hvalue
    obtain ⟨excluded, -, hrest⟩ := bind_eq_ok.1 hvalue
    have hlater : ∀ e ∈ rest, p.Sets e.1.name := fun e he => hnames e (List.mem_cons_of_mem _ he)
    cases excluded with
    | true => exact ih h hlater hrest
    | false =>
      rw [if_neg Bool.false_ne_true, Resolving.value_bind, Resolving.value_except] at hrest
      obtain ⟨record, happly, hrest⟩ := bind_eq_ok.1 hrest
      exact ih (h.apply (hnames _ List.mem_cons_self) (mapError_eq_ok.1 happly)) hlater hrest

theorem Arises.spread {pf : ParserField Parser} (h : p.Arises offered n ctx.record)
    (hpf : pf ∈ p.fields) (hvalue : (ctx.spread pf.field v).value = .ok r) :
    p.Arises offered n r := by
  unfold Context.spread at hvalue
  rw [Resolving.value_bind] at hvalue
  obtain ⟨values, -, hrest⟩ := bind_eq_ok.1 hvalue
  exact h.applyElements (fun e he => .element hpf he) hrest

theorem Arises.withDefaultMessage {profile : Profile} {dataAsMessage : Bool}
    (h : p.Arises offered n ctx.record)
    (hmessage : Parser.withDefaultMessage profile dataAsMessage ctx = .ok r) :
    p.Arises offered n r := by
  unfold Parser.withDefaultMessage at hmessage
  split at hmessage
  · cases hmessage
    exact h
  · split at hmessage
    · exact h.set .message hmessage
    · cases hmessage
      exact h

/-- What these stacked parsers do to a record adds to its history. -/
def AddHistory (more : List (Stacked Parser)) : Prop :=
  ∀ {p : Parser} {offered : List (Stacked Parser)} {n : Nat} {v : Value} {ctx ctx' : Context}
    {accepted : Bool} {s s' : Session}, p.Arises offered n ctx.record →
    (offer more v ctx).on s = (.ok (ctx', accepted), s') → p.Arises (offered ++ more) n ctx'.record

theorem arises_of_take {pf : ParserField Parser} (hoffer : AddHistory pf.stacked)
    (hpf : pf ∈ p.fields) (h : p.Arises offered n ctx.record)
    (htake : (take pf v ctx).on s = (.ok ctx', s')) :
    p.Arises (offered ++ pf.stacked) n ctx'.record := by
  unfold take at htake
  split at htake
  · obtain ⟨record, s₁, hspread, hreturn⟩ := on_bind_eq_ok.1 htake
    cases hreturn
    rw [on_resolving] at hspread
    exact (h.spread hpf (Prod.mk.inj hspread).1).passes _
  · obtain ⟨⟨ctx₁, accepted⟩, s₁, htaken, hrest⟩ := on_bind_eq_ok.1 htake
    -- The value is offered first; only one that no stacked parser accepts is applied to the record.
    have hmore := hoffer h htaken
    cases accepted with
    | true =>
      cases hrest
      exact hmore
    | false =>
      obtain ⟨record, s₂, happly, hreturn⟩ := on_bind_eq_ok.1 hrest
      cases hreturn
      rw [on_except] at happly
      exact hmore.apply (.own hpf) (Prod.mk.inj happly).1

theorem arises_of_fillField {pf : ParserField Parser} (hoffer : AddHistory pf.stacked)
    (hpf : pf ∈ p.fields) (h : p.Arises offered n ctx.record)
    (hfield : (fillField pf ctx).on s = (.ok ctx', s')) :
    p.Arises (offered ++ pf.stacked) n ctx'.record := by
  unfold fillField at hfield
  obtain ⟨found, s₁, -, hrest⟩ := on_bind_eq_ok.1 hfield
  cases found with
  | none =>
    cases hrest
    exact h.passes _
  | some v => exact arises_of_take hoffer hpf h hrest

/-- What is taken up of a stacked parser adds to the history of a record. -/
theorem Arises.takeUp {how : Aggregation} {filled sub : Record} (h : p.Arises offered n ctx.record)
    (hfilled : q.Arises q.stacked ((ctx.record.childrenOf q.name).length + 1) filled)
    (hjudged : q.Judges filled sub) {flatten : Bool}
    (htake : Parser.takeUp ctx q.name how flatten sub = .ok ctx') :
    p.Arises (offered ++ [⟨q, how, flatten⟩]) n ctx'.record := by
  obtain ⟨happened, h⟩ := h
  obtain ⟨inner, hfilled⟩ := hfilled
  cases how with
  | merge =>
    cases htake
    exact ⟨_, h.merges hfilled hjudged⟩
  | relate =>
    obtain ⟨timed, htimed, rfl⟩ := map_eq_ok.1 htake
    exact ⟨_, h.relates hfilled hjudged htimed⟩

mutual

/-- The record of a stacked parser has a history, and was judged at its end. -/
theorem arises_of_parseStacked : (p : Parser) → {v : Value} → {outer : Context} →
    {s s' : Session} → {sub : Record} →
    (parseStacked p v outer).on s = (.ok (some sub), s') →
    ∃ filled, p.Arises p.stacked ((outer.record.childrenOf p.name).length + 1) filled ∧
      p.Judges filled sub
  | mk profile preParsers filters fields, v, outer, s, s', sub, h => by
    rw [parseStacked] at h
    obtain ⟨raw, s₁, -, h⟩ := on_bind_eq_ok.1 h
    -- only an item that was made ready and filled gets as far as a record
    split at h
    · cases h
    · cases h
    · cases h
    · next data _ =>
      obtain ⟨ctx, s₂, hfill, h⟩ := on_bind_eq_ok.1 h
      cases ctx with
      | none => cases h
      | some ctx =>
        obtain ⟨filled, s₃, hmessage, h⟩ := on_bind_eq_ok.1 h
        obtain ⟨judged, s₄, hjudged, hreturn⟩ := on_bind_eq_ok.1 h
        cases hreturn
        rw [on_except] at hmessage
        rw [on_run] at hjudged
        obtain rfl := Except.ok.inj (Prod.mk.inj hjudged).1
        have hstart := Arises.start (mk profile preParsers filters fields)
          ((outer.record.childrenOf profile.name).length + 1)
        have hfields : ∀ pf ∈ fields, pf ∈ (mk profile preParsers filters fields).fields :=
          fun _ hpf => hpf
        have hfilled := arises_of_fill fields hfields hstart hfill
        refine ⟨filled, hfilled.withDefaultMessage (Prod.mk.inj hmessage).1, s₃, ?_⟩
        exact (judged_value profile.name filters filled s₃).1

/-- **A record whose fields were filled has a history** to which all parsers stacked on them
belong. -/
theorem arises_of_fill : (fields : List (ParserField Parser)) → {p : Parser} →
    (∀ pf ∈ fields, pf ∈ p.fields) → {offered : List (Stacked Parser)} → {n : Nat} →
    {ctx ctx' : Context} → {s s' : Session} → p.Arises offered n ctx.record →
    (fill fields ctx).on s = (.ok (some ctx'), s') →
    p.Arises (offered ++ fields.flatMap (·.stacked)) n ctx'.record
  | [], _, _, _, _, _, _, _, _, h, hfill => by
    rw [fill] at hfill
    cases hfill
    rwa [List.flatMap_nil, List.append_nil]
  | ⟨f, stacked⟩ :: rest, p, hfields, _, _, ctx, _, s, _, h, hfill => by
    obtain ⟨ctx₁, s₁, hfield, hrest⟩ := fill_cons_eq_some hfill
    have hoffer : AddHistory stacked := fun h htake => arises_of_offer stacked h htake
    have hat : p.Arises _ _ (ctx.atField f.name).record := h
    have hfirst := arises_of_fillField hoffer (hfields _ List.mem_cons_self) hat hfield
    rw [List.flatMap_cons, ← List.append_assoc]
    exact arises_of_fill rest (fun pf hpf => hfields pf (List.mem_cons_of_mem _ hpf)) hfirst hrest

theorem arises_of_offer : (more : List (Stacked Parser)) → {p : Parser} →
    {offered : List (Stacked Parser)} → {n : Nat} → {v : Value} → {ctx ctx' : Context} →
    {accepted : Bool} → {s s' : Session} → p.Arises offered n ctx.record →
    (offer more v ctx).on s = (.ok (ctx', accepted), s') →
    p.Arises (offered ++ more) n ctx'.record
  | [], _, _, _, _, _, _, _, _, _, h, htake => by
    rw [offer] at htake
    cases htake
    rwa [List.append_nil]
  | ⟨q, how, flatten⟩ :: rest, _, _, _, v, ctx, _, _, _, _, h, htake => by
    rw [offer] at htake
    obtain ⟨sub, s₁, hsub, htake⟩ := on_bind_eq_ok.1 htake
    rw [List.append_cons]
    cases sub with
    -- A parser that declines has been offered the value too, and left no trace in the record.
    | none => exact arises_of_offer rest (h.passes [_]) htake
    | some sub =>
      obtain ⟨ctx₁, s₂, hup, htake⟩ := on_bind_eq_ok.1 htake
      obtain ⟨⟨ctx₂, accepted'⟩, s₃, hrest, hreturn⟩ := on_bind_eq_ok.1 htake
      cases hreturn
      obtain ⟨filled, hfilled, hjudged⟩ := arises_of_parseStacked q hsub
      exact arises_of_offer rest (h.takeUp hfilled hjudged (on_except_eq_ok.1 hup).1) hrest

end

/-! ### The end of an item -/

/-- What becomes of a record whose fields are filled, wherever it goes: it is complete and has
times, and what is in it stays. -/
structure Concludes (filled r : Record) : Prop where
  children : r.children = filled.children
  properties : r.facts.properties = filled.facts.properties
  ordinal : r.facts.ordinal = filled.facts.ordinal
  complete : r.facts.complete = true
  startTime : r.facts.startTime.isSome
  endTime : r.facts.endTime.isSome

/-- What becomes of a record whose fields are filled at the end of its item: it gets an identifier
unless the record filters exclude it. -/
structure Finishes (filled r : Record) : Prop extends Concludes filled r where
  identified : r.facts.filtered = false → r.facts.trackingId.isSome
  unidentified : r.facts.filtered = true → r.facts.trackingId = filled.facts.trackingId

/-- The record of the next item of an input has been filled: its fields, and its message if none of
them gave it one. -/
def Fills (p : Parser) (host : Host) (source : Source) (metadata : Keyed Value) (input : RawData)
    (session : Session) (filled : Record) : Prop :=
  ∃ ctx s ctx' s', p.Opens host source metadata input session ctx s ∧
    (fill p.fields ctx).on s = (.ok (some ctx'), s') ∧
    withDefaultMessage p.profile p.profile.properties.dataAsMessage ctx' = .ok filled

/-- A record has got times: those for its elapsed time. -/
theorem determineTimes_eq_ok {now : Instant} {timed : Record} :
    r.determineTimes now = .ok timed ↔
      ∃ elapsed, r.facts.elapsed = .ok elapsed ∧
        timed = r.withFacts (r.facts.timed now elapsed) := by
  unfold Record.determineTimes Facts.determineTimes
  cases r.facts.elapsed <;> simp [Except.map, eq_comm]

theorem children_determineTimes {now : Instant} {timed : Record}
    (h : r.determineTimes now = .ok timed) : timed.children = r.children := by
  obtain ⟨elapsed, -, rfl⟩ := determineTimes_eq_ok.1 h
  rfl

/-- Times for an elapsed time leave all else alone. -/
theorem timed_eq (now : Instant) (elapsed : Int64) (f : Facts) :
    ∃ start stop, f.timed now elapsed =
      { f with startTime := some start, endTime := some stop, elapsedTime := elapsed } := by
  unfold Facts.timed
  cases f.startTime with
  | none => exact ⟨_, _, rfl⟩
  | some start => exact ⟨_, _, rfl⟩

/-- Times that a record gets leave all else alone. -/
theorem times_of_determineTimes {now : Instant} {timed : Record}
    (h : r.determineTimes now = .ok timed) :
    ∃ start stop elapsed, timed = r.withFacts
      { r.facts with startTime := some start, endTime := some stop, elapsedTime := elapsed } := by
  obtain ⟨elapsed, -, rfl⟩ := determineTimes_eq_ok.1 h
  obtain ⟨start, stop, htimed⟩ := timed_eq now elapsed r.facts
  exact ⟨start, stop, elapsed, congrArg r.withFacts htimed⟩

/-- It makes no difference whether a record gets its times or the verdict on it first. -/
theorem determineTimes_flagged {now : Instant} {timed : Record}
    (h : r.determineTimes now = .ok timed) (verdict : Bool) :
    (r.completed.flagged verdict).determineTimes now = .ok (timed.completed.flagged verdict) := by
  obtain ⟨elapsed, helapsed, rfl⟩ := determineTimes_eq_ok.1 h
  exact determineTimes_eq_ok.2 ⟨elapsed, helapsed, rfl⟩

/-- A record that is judged and gets times is concluded, and its identifier stays. -/
theorem concludes_judged {now : Instant} {filled timed : Record} {verdict : Bool}
    (h : (filled.completed.flagged verdict).determineTimes now = .ok timed) :
    Concludes filled timed ∧ timed.facts.trackingId = filled.facts.trackingId := by
  obtain ⟨start, stop, elapsed, rfl⟩ := times_of_determineTimes h
  exact ⟨⟨rfl, rfl, rfl, rfl, rfl, rfl⟩, rfl⟩

theorem finishes_finished (parser : String) (filters : List RecordFilter) {now : Instant}
    {filled timed : Record} (htimed : filled.determineTimes now = .ok timed) (s : Session) :
    Finishes filled (finished parser filters timed s).1 := by
  have hjudged := (judged_value parser filters timed s).1
  unfold finished
  rw [Run.apply_bind]
  generalize judged parser filters timed s = next at hjudged ⊢
  obtain ⟨r, s₁⟩ := next
  generalize (Session.excludes parser filters _ s).1 = verdict at hjudged
  obtain rfl : r = timed.completed.flagged verdict := hjudged
  obtain ⟨hconcludes, hid⟩ := concludes_judged (determineTimes_flagged htimed verdict)
  generalize timed.completed.flagged verdict = r at hconcludes hid ⊢
  by_cases hfiltered : r.facts.filtered = true
  · rw [if_pos hfiltered]
    exact ⟨hconcludes, fun hpassed => absurd (hpassed.symm.trans hfiltered) Bool.false_ne_true,
      fun _ => hid⟩
  · rw [if_neg hfiltered]
    -- the identifier is all that is still missing
    obtain ⟨id, hfacts, -⟩ := Facts.identified_cases r.facts s₁.ids
    have hidentify : (Session.identify r s₁).1 =
        r.withFacts { r.facts with trackingId := some id } := congrArg r.withFacts hfacts
    change Finishes filled (Session.identify r s₁).1
    rw [hidentify]
    obtain ⟨hchildren, hproperties, hordinal, hcomplete, hstart, hend⟩ := hconcludes
    exact ⟨⟨hchildren, hproperties, hordinal, hcomplete, hstart, hend⟩, fun _ => rfl,
      fun hexcluded => absurd hexcluded hfiltered⟩

/-- A record that is finished has got a verdict and perhaps an identifier, and says what it said
before in all else. -/
theorem facts_finished (parser : String) (filters : List RecordFilter) (timed : Record)
    (s : Session) :
    ∃ verdict id, (finished parser filters timed s).1.facts =
      { timed.facts with complete := true, filtered := verdict, trackingId := id } := by
  have hjudged := (judged_value parser filters timed s).1
  unfold finished
  rw [Run.apply_bind]
  generalize judged parser filters timed s = next at hjudged ⊢
  obtain ⟨r, s₁⟩ := next
  generalize (Session.excludes parser filters _ s).1 = verdict at hjudged
  obtain rfl : r = timed.completed.flagged verdict := hjudged
  cases verdict with
  | true => exact ⟨true, timed.facts.trackingId, rfl⟩
  | false =>
    obtain ⟨id, hfacts, -⟩ :=
      Facts.identified_cases (timed.completed.flagged false).facts s₁.ids
    exact ⟨false, some id, hfacts⟩

section Parse

variable {host : Host} {source : Source} {metadata : Keyed Value} {input : RawData}
  {session : Session}

/-- A record that was filled has come about while the parsers stacked on its fields were offered
values. -/
theorem Fills.arises {filled : Record}
    (h : p.Fills host source metadata input session filled) : p.Arises p.stacked 0 filled := by
  obtain ⟨ctx, s, ctx', s', ⟨_, _, _, _, _, _, _, rfl⟩, hfill, hmessage⟩ := h
  exact (arises_of_fill p.fields (fun _ hpf => hpf) (.start p 0) hfill).withDefaultMessage hmessage

/-- **The record of an item** is the one that was filled, finished. -/
theorem finishes_of_parse
    (hr : (p.parse host source metadata input session).result = .ok (some r)) :
    ∃ filled, p.Fills host source metadata input session filled ∧ Finishes filled r := by
  obtain ⟨ctx, s, ctx', s₁, hopens, hfill, hclose⟩ := closed_of_parse hr
  obtain ⟨filled, timed, kept, s₂, hmessage, htimed, hfinished, -, rfl⟩ :=
    finished_of_close hclose
  have hfinishes := finishes_finished p.name p.filters htimed s₁
  rw [hfinished] at hfinishes
  refine ⟨filled, ⟨ctx, s, ctx', s₁, hopens, hfill, hmessage⟩, ?_⟩
  -- the parent that the record may get is none of these facts
  obtain ⟨⟨hchildren, hproperties, hordinal, hcomplete, hstart, hend⟩, hid, hno⟩ := hfinishes
  exact ⟨⟨hchildren, hproperties, hordinal, hcomplete, hstart, hend⟩, hid, hno⟩

/-- **What the record of an item says** is what it said when its fields were filled, but for its
times, which are derived from those, its identifier, its parent and the verdict on it. -/
theorem facts_of_parse
    (hr : (p.parse host source metadata input session).result = .ok (some r)) :
    ∃ filled, p.Fills host source metadata input session filled ∧
      r.children = filled.children ∧
      ∃ timed verdict id parent, filled.determineTimes host.now = .ok timed ∧ r.facts =
        { timed.facts with
          complete := true, filtered := verdict, trackingId := id, parentId := parent } := by
  obtain ⟨ctx, s, ctx', s₁, hopens, hfill, hclose⟩ := closed_of_parse hr
  obtain ⟨filled, timed, kept, s₂, hmessage, htimed, hfinished, -, rfl⟩ :=
    finished_of_close hclose
  have hchildren := (finishes_finished p.name p.filters htimed s₁).children
  obtain ⟨verdict, id, hfacts⟩ := facts_finished p.name p.filters timed s₁
  rw [hfinished] at hchildren hfacts
  have hfills : p.Fills host source metadata input session filled :=
    ⟨ctx, s, ctx', s₁, hopens, hfill, hmessage⟩
  refine ⟨filled, hfills, hchildren, timed, verdict, id, kept.facts.parentId.or source.groupId,
    htimed, ?_⟩
  exact congrArg (fun f : Facts => { f with parentId := kept.facts.parentId.or source.groupId })
    hfacts

end Parse

/-! ### What is known of a record by its history -/

/-- What has happened to a record gives it this identifier: its parser has set the field for it to
this text, or one of the records that were merged had it. -/
def IdentifiedBy (p : Parser) (offered : List (Stacked Parser)) (happened : List Happening)
    (id : String) : Prop :=
  (p.Sets Slot.trackingId.name ∧ ∃ v, .sets Slot.trackingId.name v ∈ happened ∧ v.text = id) ∨
    ∃ q flatten sub, ⟨q, .merge, flatten⟩ ∈ offered ∧ .merges q sub ∈ happened ∧
      sub.facts.trackingId = some id

/-- What identifies a record goes on doing so when more happens. -/
theorem IdentifiedBy.mono {more : List (Stacked Parser)} {later : List Happening} {id : String}
    (h : p.IdentifiedBy offered happened id) (hoffered : offered ⊆ more)
    (hhappened : happened ⊆ later) : p.IdentifiedBy more later id := by
  rcases h with ⟨hname, v, hv, htext⟩ | ⟨q, flatten, sub, hq, hsub, hid⟩
  · exact .inl ⟨hname, v, hhappened hv, htext⟩
  · exact .inr ⟨q, flatten, sub, hoffered hq, hhappened hsub, hid⟩

namespace History

theorem ordinal_eq (h : History p offered n happened r) : r.facts.ordinal = n := by
  induction h with
  | start => rfl
  | sets _ _ hset ih => exact (Facts.ordinal_setAs hset).trans ih
  | passes _ ih => exact ih
  | merges _ _ _ ih _ => exact ih
  | relates _ _ _ _ ih _ => exact ih

/-- **An identifier comes from what has happened to the record.** -/
theorem identifiedBy (h : History p offered n happened r) {id : String}
    (hid : r.facts.trackingId = some id) : p.IdentifiedBy offered happened id := by
  induction h with
  | start => cases hid
  | @sets _ _ _ _ _ _ _ _ v _ hname hset ih =>
    rcases Facts.trackingId_setAs hset hid with hid | ⟨rfl, htext⟩
    · exact (ih hid).mono (List.Subset.refl _) (List.subset_append_left _ _)
    · exact .inl ⟨hname, v, List.mem_concat_self, htext⟩
  | passes _ ih => exact (ih hid).mono (List.subset_append_left _ _) (List.Subset.refl _)
  | @merges _ q _ _ _ _ _ _ sub flatten _ _ _ ih _ =>
    rcases Facts.trackingId_merge hid with hid | hid
    · exact (ih hid).mono (List.subset_append_left _ _) (List.subset_append_left _ _)
    · exact .inr ⟨q, flatten, sub, List.mem_concat_self, List.mem_concat_self, hid⟩
  | relates _ _ _ _ ih _ =>
    exact (ih hid).mono (List.subset_append_left _ _) (List.subset_append_left _ _)

theorem sorted (h : History p offered n happened r) : r.Sorted := by
  induction h with
  | start => exact ⟨.nil, .nil⟩
  | sets _ _ hset ih => exact ⟨Facts.sorted_setAs ih.properties hset, ih.children⟩
  | passes _ ih => exact ih
  | merges _ _ _ ih _ => exact ih.merge _
  | relates _ _ _ _ ih _ => exact ⟨ih.properties, Keyed.sorted_insert ih.children⟩

theorem ordered (h : History p offered n happened r) : r.Ordered := by
  induction h with
  | start => exact .intro .nil (by simp)
  | sets _ _ _ ih => exact ih.congr rfl
  | passes _ ih => exact ih
  | merges _ _ hjudged ih ihsub => exact ih.merge (ihsub.congr hjudged.children)
  | relates _ _ hjudged htimed ih ihsub =>
    have hsame := (children_determineTimes htimed).trans hjudged.children
    exact ih.addChild (ihsub.congr hsame) _ _

end History

/-! ### The records inside a record -/

/-- The record was made by a stacked parser for its place with this number, and has got times since
then. -/
def Made (p : Parser) (n : Nat) (u : Record) : Prop :=
  ∃ filled sub now, p.Arises p.stacked n filled ∧ p.Judges filled sub ∧
    sub.determineTimes now = .ok u

/-- The records of a stacked parser stand directly inside those of a parser with others stacked on
it: it is one of them, or it is stacked on one whose records are merged. -/
inductive Brings : List (Stacked Parser) → Stacked Parser → Prop
  | relates {offered : List (Stacked Parser)} {st : Stacked Parser} :
    st ∈ offered → st.aggregation = .relate → Brings offered st
  | merges {offered : List (Stacked Parser)} {via st : Stacked Parser} :
    via ∈ offered → via.aggregation = .merge → Brings via.parser.stacked st → Brings offered st

theorem Brings.mono {more : List (Stacked Parser)} {st : Stacked Parser}
    (hsub : ∀ st ∈ offered, st ∈ more) (h : Brings offered st) : Brings more st := by
  cases h with
  | relates hst hhow => exact .relates (hsub _ hst) hhow
  | merges hvia hhow hinner => exact .merges (hsub _ hvia) hhow hinner

theorem Brings.later {st : Stacked Parser} (h : Brings offered st) (last : Stacked Parser) :
    Brings (offered ++ [last]) st :=
  h.mono fun _ hst => List.mem_append_left _ hst

/-- A record that a stacked parser has made is one that has come about, concluded. -/
theorem Made.concludes (h : p.Made n u) :
    ∃ filled, p.Arises p.stacked n filled ∧ Concludes filled u := by
  obtain ⟨filled, sub, now, harises, ⟨s, rfl⟩, htimed⟩ := h
  exact ⟨filled, harises, (concludes_judged htimed).1⟩

theorem Made.ordinal_eq (h : p.Made n u) : u.facts.ordinal = n := by
  obtain ⟨filled, ⟨happened, hhistory⟩, hconcludes⟩ := h.concludes
  exact hconcludes.ordinal.trans hhistory.ordinal_eq

namespace History

/-- **Whose the records directly inside a record are**, and that they stand there as their parser is
stacked. -/
theorem encloses (h : History p offered n happened r) {name : String} {kid : Child}
    (hkid : r.Encloses name kid) :
    ∃ st, Brings offered st ∧ st.parser.name = name ∧ st.flatten = kid.flatten ∧
      ∃ k, Made st.parser k kid.record := by
  -- what is inside came from a parser offered earlier, from the record merged last, or is the last
  induction h with
  | start =>
    obtain ⟨kids, hgroup, -⟩ := hkid
    cases hgroup
  | sets _ _ _ ih => exact ih hkid
  | passes _ ih =>
    obtain ⟨st, hst, hmade⟩ := ih hkid
    exact ⟨st, hst.later _, hmade⟩
  | merges _ _ hjudged ih ihsub =>
    rcases Record.encloses_merge hkid with hkid | hkid
    · obtain ⟨st, hst, hmade⟩ := ih hkid
      exact ⟨st, hst.later _, hmade⟩
    · -- it stood inside the record that was merged
      obtain ⟨s, rfl⟩ := hjudged
      obtain ⟨st, hst, hmade⟩ := ihsub hkid
      exact ⟨st, .merges List.mem_concat_self rfl hst, hmade⟩
  | @relates _ q _ _ _ inner _ filled sub timed flatten now _ hinner hjudged htimed ih _ =>
    rcases Record.encloses_addChild hkid with ⟨rfl, rfl⟩ | hkid
    · exact ⟨⟨q, .relate, flatten⟩,
        .relates List.mem_concat_self rfl, rfl, rfl, _,
        filled, sub, now, ⟨inner, hinner⟩, hjudged, htimed⟩
    · obtain ⟨st, hst, hmade⟩ := ih hkid
      exact ⟨st, hst.later _, hmade⟩

/-- **All records inside a record, at any depth, were made by stacked parsers** that have what
passes from every parser to those stacked on it. -/
theorem inside {holds : Parser → Prop} (hpass : ∀ p, holds p → ∀ st ∈ p.stacked, holds st.parser)
    (h : History p offered n happened r) (hoffered : ∀ st ∈ offered, holds st.parser) :
    ∀ u ∈ r.inside, ∃ q k, holds q ∧ Made q k u := by
  -- as before, but at any depth: a record that comes inside brings all that is inside it
  induction h with
  | start => exact fun u hu => absurd hu List.not_mem_nil
  | @sets _ _ _ _ r facts _ _ _ _ _ _ ih =>
    have hsame : (r.withFacts facts).inside = r.inside := Record.inside_congr rfl
    rw [hsame]
    exact ih hoffered
  | passes _ ih => exact ih fun st hst => hoffered st (List.mem_append_left _ hst)
  | @merges _ q _ _ _ _ _ _ _ flatten _ _ hjudged ih ihsub =>
    have hq : holds q := hoffered ⟨q, .merge, flatten⟩ List.mem_concat_self
    intro u hu
    rcases Record.inside_merge hu with hu | hu
    · exact ih (fun st hst => hoffered st (List.mem_append_left _ hst)) u hu
    · rw [Record.inside_congr hjudged.children] at hu
      exact ihsub (hpass q hq) u hu
  | @relates _ q _ _ _ inner _ filled sub timed flatten now _ hinner hjudged htimed ih ihsub =>
    have hq : holds q := hoffered ⟨q, .relate, flatten⟩ List.mem_concat_self
    have hmade : q.Made _ timed := ⟨filled, sub, now, ⟨inner, hinner⟩, hjudged, htimed⟩
    intro u hu
    rcases Record.inside_addChild hu with rfl | hu | hu
    · exact ⟨q, _, hq, hmade⟩
    · have hsame : timed.inside = filled.inside :=
        Record.inside_congr ((children_determineTimes htimed).trans hjudged.children)
      rw [hsame] at hu
      exact ihsub (hpass q hq) u hu
    · exact ih (fun st hst => hoffered st (List.mem_append_left _ hst)) u hu

end History

/-- **Everywhere in the record of an item** stand records that have come about while stacked parsers
were offered values, and their parsers have what passes from every parser to those stacked on it. -/
theorem everywhere_of_parse {holds : Parser → Prop} {host : Host} {source : Source}
    {metadata : Keyed Value} {input : RawData} {session : Session}
    (hpass : ∀ p, holds p → ∀ st ∈ p.stacked, holds st.parser) (hp : holds p)
    (hr : (p.parse host source metadata input session).result = .ok (some r)) :
    ∀ u ∈ r :: r.inside, ∃ q k filled, holds q ∧ q.Arises q.stacked k filled ∧
      Concludes filled u := by
  obtain ⟨filled, hfills, hfinishes⟩ := finishes_of_parse hr
  obtain ⟨happened, hhistory⟩ := hfills.arises
  intro u hu
  rcases List.mem_cons.1 hu with rfl | hu
  · exact ⟨p, 0, filled, hp, ⟨happened, hhistory⟩, hfinishes.toConcludes⟩
  · rw [Record.inside_congr hfinishes.children] at hu
    obtain ⟨q, k, hq, hmade⟩ := hhistory.inside hpass (hpass p hp) u hu
    obtain ⟨inner, harises, hconcludes⟩ := hmade.concludes
    exact ⟨q, k, inner, hq, harises, hconcludes⟩

/-- Everywhere in the record of an item stand records that have come about. -/
theorem concludes_of_parse {host : Host} {source : Source} {metadata : Keyed Value}
    {input : RawData} {session : Session}
    (hr : (p.parse host source metadata input session).result = .ok (some r)) :
    ∀ u ∈ r :: r.inside, ∃ (q : Parser) (k : Nat) (filled : Record),
      q.Arises q.stacked k filled ∧ Concludes filled u := by
  have hany : ∀ p : Parser, True → ∀ st ∈ p.stacked, True := fun _ _ _ _ => trivial
  intro u hu
  obtain ⟨q, k, filled, -, harises, hconcludes⟩ := everywhere_of_parse hany trivial hr u hu
  exact ⟨q, k, filled, harises, hconcludes⟩

/-- The record that an input came to. -/
def Outcome.record? (o : Outcome) : Option Record := o.result.toOption.join

/-- An input of whose record something is known has a record. -/
theorem Outcome.exists_record {α : Type} {o : Outcome} {f : Record → α} {a : α}
    (h : o.record?.map f = some a) : ∃ r, o.result = .ok (some r) ∧ f r = a := by
  obtain ⟨r, hr, hf⟩ := Option.map_eq_some_iff.1 h
  unfold record? at hr
  cases hresult : o.result with
  | error e =>
    rw [hresult] at hr
    cases hr
  | ok found =>
    rw [hresult] at hr
    obtain rfl : found = some r := hr
    exact ⟨r, rfl, hf⟩

end Parser

end Intake
