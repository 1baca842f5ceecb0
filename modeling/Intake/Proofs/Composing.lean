import Intake.Proofs.Filling

/-!
# Properties of attempts

What holds of pre-parsers and record filters, and is kept when runs are put together, holds of
filling fields, however deep parsers are stacked.

* `Attempt.Has`: an attempt has a property of runs.
* `Parser.AllParts`: all pre-parsers and record filters of a parser, and of the parsers stacked on
  it, are of some kinds.
* `Parser.parseStacked_has`: **a stacked parser has every property that composes and that its
  pre-parsers and record filters have**, at any depth.
-/

namespace Intake

variable {α β : Type} {P : {α : Type} → Run α → Prop}

/-- The attempt has a property of runs. -/
def Attempt.Has (P : {α : Type} → Run α → Prop) (x : Attempt α) : Prop := P x.run

namespace Attempt.Has

theorem pure (h : Run.Composes P) (a : α) : Has P (Pure.pure a : Attempt α) := h.pure _

theorem throw (h : Run.Composes P) (e : Failure) : Has P (MonadExcept.throw e : Attempt α) :=
  h.pure _

theorem run (h : Run.Composes P) {x : Run α} (hx : P x) : Has P (liftM x : Attempt α) :=
  h.bind hx fun _ => h.pure _

theorem except (h : Run.Composes P) (x : Except Failure α) : Has P (liftM x : Attempt α) := by
  cases x with
  | error e => exact throw h e
  | ok a => exact pure h a

theorem resolving (h : Run.Composes P) (x : Resolving α) : Has P x.attempt := h.noted _

theorem bind (h : Run.Composes P) {x : Attempt α} {f : α → Attempt β} (hx : Has P x)
    (hf : ∀ a, Has P (f a)) : Has P (x >>= f) :=
  h.bind (f := ExceptT.bindCont f) hx fun r =>
    match r with
    | .ok a => hf a
    | .error e => h.pure (Except.error e)

theorem outcome (h : Run.Composes P) {x : Attempt α} (hx : Has P x) : Has P x.outcome :=
  h.bind hx fun _ => h.pure _

end Attempt.Has

namespace Parser

open Attempt

theorem giveUp_has (h : Run.Composes P) (ctx : Context) (field : String) (e : Failure) :
    Has P (giveUp ctx field e) := by
  have hnoted : ∀ (r : Reading) {x : Attempt (Option Context)}, Has P x →
      Has P (do
        if ctx.isTop then liftM (Session.note r)
        x) := by
    intro r x hx
    split
    · exact (Has.run h (h.note r)).bind h fun _ => hx
    · exact hx
  unfold giveUp
  split
  · exact .throw h _
  · exact hnoted _ (.pure h _)
  · exact hnoted _ (.throw h _)

/-- A value is offered to stacked parsers with a property that each of them has. -/
theorem offer_has (h : Run.Composes P) {stacked : List (Stacked Parser)}
    (hstacked : ∀ st ∈ stacked, ∀ v outer, Has P (parseStacked st.parser v outer)) (v : Value)
    (ctx : Context) : Has P (offer stacked v ctx) := by
  induction stacked generalizing ctx with
  | nil =>
    rw [offer]
    exact .pure h _
  | cons st rest ih =>
    obtain ⟨p, how, flatten⟩ := st
    have hrest := ih fun st hst => hstacked st (List.mem_cons_of_mem _ hst)
    rw [offer]
    refine (hstacked _ List.mem_cons_self v ctx).bind h fun sub => ?_
    cases sub with
    | none => exact hrest ctx
    | some sub =>
      exact (Has.except h _).bind h fun ctx => (hrest ctx).bind h fun _ => .pure h _

theorem take_has (h : Run.Composes P) {pf : ParserField Parser}
    (hstacked : ∀ st ∈ pf.stacked, ∀ v outer, Has P (parseStacked st.parser v outer)) (v : Value)
    (ctx : Context) : Has P (take pf v ctx) := by
  unfold take
  split
  · exact (Has.resolving h _).bind h fun _ => .pure h _
  · refine (offer_has h hstacked v ctx).bind h fun next => ?_
    obtain ⟨ctx', accepted⟩ := next
    cases accepted with
    | true => exact .pure h _
    | false => exact (Has.except h _).bind h fun _ => .pure h _

theorem fillField_has (h : Run.Composes P) {pf : ParserField Parser}
    (hstacked : ∀ st ∈ pf.stacked, ∀ v outer, Has P (parseStacked st.parser v outer))
    (ctx : Context) : Has P (fillField pf ctx) := by
  unfold fillField
  refine (Has.resolving h _).bind h fun v => ?_
  cases v with
  | none => exact .pure h _
  | some v => exact take_has h hstacked v ctx

/-- Fields are filled with a property that all parsers stacked on them have. -/
theorem fill_has (h : Run.Composes P) {fields : List (ParserField Parser)}
    (hstacked : ∀ pf ∈ fields, ∀ st ∈ pf.stacked, ∀ v outer,
      Has P (parseStacked st.parser v outer)) (ctx : Context) : Has P (fill fields ctx) := by
  induction fields generalizing ctx with
  | nil =>
    rw [fill]
    exact .pure h _
  | cons pf rest ih =>
    rw [fill_cons]
    refine ((fillField_has h (hstacked pf List.mem_cons_self) _).outcome h).bind h fun outcome => ?_
    cases outcome with
    | ok ctx => exact ih (fun pf hpf => hstacked pf (List.mem_cons_of_mem _ hpf)) ctx
    | error e => exact giveUp_has h _ _ _

/-- All pre-parsers and record filters of a parser are of some kinds, and so are those of the
parsers stacked on it. -/
inductive AllParts (Q : PreParser → Prop) (F : RecordFilter → Prop) : Parser → Prop
  | intro {p : Parser} :
    (∀ q ∈ p.preParsers, Q q) → (∀ f ∈ p.filters, F f) →
      (∀ pf ∈ p.fields, ∀ st ∈ pf.stacked, AllParts Q F st.parser) → AllParts Q F p

variable {Q : PreParser → Prop} {F : RecordFilter → Prop}

/-- **A stacked parser has every property that composes and that its pre-parsers and record filters
have**, however deep parsers are stacked. -/
theorem parseStacked_has (h : Run.Composes P)
    (hpre : ∀ q, Q q → ∀ raw, P (Session.preParse q raw))
    (hjudge : ∀ f, F f → ∀ r, P (Session.judge f r)) {p : Parser} (hp : AllParts Q F p) (v : Value)
    (outer : Context) : Has P (parseStacked p v outer) := by
  induction hp generalizing v outer with
  | @intro p hpreParsers hfilters _ ih =>
    obtain ⟨profile, preParsers, filters, fields⟩ := p
    rw [parseStacked]
    refine (Has.run h (h.preParsed (fun q hq => hpre q (hpreParsers q hq)) _)).bind h
      fun raw => ?_
    split
    · exact .pure h _
    · exact .throw h _
    · exact .pure h _
    · next data heq =>
      refine (fill_has h ih (outer.inner profile raw data)).bind h fun ctx => ?_
      cases ctx with
      | none => exact .pure h _
      | some ctx =>
        exact (Has.except h _).bind h fun r =>
          (Has.run h (h.judged (fun f hf => hjudge f (hfilters f hf)) _ _)).bind h
            fun _ => .pure h _

mutual

/-- All parts of any parser are of kinds that leave nothing out. -/
theorem allParts_of_all (hQ : ∀ q, Q q) (hF : ∀ f, F f) : (p : Parser) → AllParts Q F p
  | mk _ _ _ fields =>
    .intro (fun q _ => hQ q) (fun f _ => hF f) (allParts_of_fields hQ hF fields)

theorem allParts_of_fields (hQ : ∀ q, Q q) (hF : ∀ f, F f) :
    (fields : List (ParserField Parser)) →
    ∀ pf ∈ fields, ∀ st ∈ pf.stacked, AllParts Q F st.parser
  | [] => nofun
  | ⟨_, stacked⟩ :: rest => by
    intro pf hpf
    rcases List.mem_cons.1 hpf with rfl | hpf
    · exact allParts_of_stacked hQ hF stacked
    · exact allParts_of_fields hQ hF rest pf hpf

theorem allParts_of_stacked (hQ : ∀ q, Q q) (hF : ∀ f, F f) :
    (stacked : List (Stacked Parser)) → ∀ st ∈ stacked, AllParts Q F st.parser
  | [] => nofun
  | ⟨p, _, _⟩ :: rest => by
    intro st hst
    rcases List.mem_cons.1 hst with rfl | hst
    · exact allParts_of_all hQ hF p
    · exact allParts_of_stacked hQ hF rest st hst

end

end Parser

end Intake
