import Intake.Proofs.Composing

/-!
# What items see of a session

Of what lasts from one item to the next an item sees the values kept between activities and the
identifiers at hand, unless some part of its parser counts how often it was asked.

* `Session.Alike`: two sessions with the same kept values and identifiers.
* `Run.Steady`, `Attempt.Steady`: a run, or an attempt, comes to the same in sessions that are
  alike, and leaves them alike. What is made of steady ones is steady.
* `Parser.Stateless`: no part of a parser, nor of those stacked on it, uses how often it was asked.
* `Parser.parse_alike`: **an item comes to the same in sessions that are alike**, if its parser is
  stateless.
-/

namespace Intake

variable {α β : Type}

/-- Two sessions have the same kept values and identifiers. What was asked and what was noted in
them may differ. -/
structure Session.Alike (s s' : Session) : Prop where
  cache : s.cache = s'.cache
  ids : s.ids = s'.ids

/-- A run goes on with the result of its first part, in the session after it. -/
theorem Run.apply_bind (x : Run α) (f : α → Run β) (s : Session) :
    (x >>= f) s = f (x s).1 (x s).2 := rfl

/-- A run comes to the same in sessions that are alike, and leaves them alike. -/
def Run.Steady (x : Run α) : Prop :=
  ∀ s s' : Session, s.Alike s' → (x s).1 = (x s').1 ∧ (x s).2.Alike (x s').2

namespace Run.Steady

theorem pure (a : α) : Run.Steady (Pure.pure a) := fun _ _ h => ⟨rfl, h⟩

theorem bind {x : Run α} {f : α → Run β} (hx : Run.Steady x) (hf : ∀ a, Run.Steady (f a)) :
    Run.Steady (x >>= f) := by
  intro s s' h
  obtain ⟨hresult, hnext⟩ := hx s s' h
  rw [apply_bind, apply_bind, ← hresult]
  exact hf _ _ _ hnext

theorem note (r : Reading) : Run.Steady (Session.note r) := fun _ _ h => ⟨rfl, h.cache, h.ids⟩

/-- A part that does not use how often it was asked is steady. -/
theorem ask (counter : Nat) {f : Nat → α} (hf : ∀ n m, f n = f m) :
    Run.Steady (do return f (← Session.ask counter)) := fun _ _ h => ⟨hf _ _, h.cache, h.ids⟩

theorem identify (r : Record) : Run.Steady (Session.identify r) := by
  intro s s' h
  unfold Session.identify
  rw [h.ids]
  exact ⟨rfl, h.cache, rfl⟩

theorem keep (r : Record) (parser : String) : Run.Steady (Session.keep r parser) := by
  intro s s' h
  refine ⟨rfl, ?_, h.ids⟩
  change (s.cache.store r parser).value = (s'.cache.store r parser).value
  rw [h.cache]

theorem composes : Run.Composes @Run.Steady where
  pure := pure
  bind := bind
  noted _ _ _ h := ⟨rfl, h.cache, h.ids⟩

end Run.Steady

/-- The pre-parser does not use how often it was asked. -/
def PreParser.Stateless : PreParser → Prop
  | custom _ _ run => ∀ n m, run n = run m
  | _ => True

/-- The record filter does not use how often it was asked. -/
def RecordFilter.Stateless : RecordFilter → Prop
  | custom _ _ run => ∀ n m, run n = run m
  | _ => True

namespace Session

theorem preParse_steady {p : PreParser} (h : p.Stateless) (raw : RawData) :
    Run.Steady (preParse p raw) := by
  cases p with
  | custom name counter run =>
    refine Run.Steady.ask counter (f := fun n => (PreParser.custom name counter run).run n raw) ?_
    intro n m
    simp only [PreParser.run, PreParser.change, h n m]
  | _ => exact .pure _

theorem preParsed_steady {ps : List PreParser} (h : ∀ p ∈ ps, p.Stateless) (raw : RawData) :
    Run.Steady (preParsed ps raw) :=
  Run.Steady.composes.preParsed (fun p hp raw => preParse_steady (h p hp) raw) raw

theorem judge_steady {f : RecordFilter} (h : f.Stateless) (r : Record) :
    Run.Steady (judge f r) := by
  cases f with
  | custom name counter run =>
    refine Run.Steady.ask counter
      (f := fun n => (RecordFilter.custom name counter run).excludes n r) ?_
    intro n m
    simp only [RecordFilter.excludes, h n m]
  | conditions name handling cs => exact .pure _

end Session

namespace Attempt

/-- An attempt comes to the same in sessions that are alike, and leaves them alike. -/
def Steady (x : Attempt α) : Prop := Run.Steady x.run

namespace Steady

theorem pure (a : α) : Steady (Pure.pure a : Attempt α) := Has.pure Run.Steady.composes a

theorem run {x : Run α} (h : Run.Steady x) : Steady (liftM x : Attempt α) :=
  Has.run Run.Steady.composes h

theorem except (x : Except Failure α) : Steady (liftM x : Attempt α) :=
  Has.except Run.Steady.composes x

theorem resolving (x : Resolving α) : Steady x.attempt := Has.resolving Run.Steady.composes x

theorem bind {x : Attempt α} {f : α → Attempt β} (hx : Steady x) (hf : ∀ a, Steady (f a)) :
    Steady (x >>= f) :=
  Has.bind Run.Steady.composes hx hf

/-- What is made of the kept values alone sees nothing else of a session. -/
theorem get {f : Session → Attempt α} (hcache : ∀ s s', s.cache = s'.cache → f s = f s')
    (hf : ∀ s, Steady (f s)) : Steady (MonadState.get >>= f) := by
  intro s s' h
  change ((f s).run s).1 = ((f s').run s').1 ∧ ((f s).run s).2.Alike ((f s').run s').2
  rw [hcache s s' h.cache]
  exact hf s' s s' h

end Steady

end Attempt

namespace Parser

open Attempt

/-- No part of a parser, nor of the parsers stacked on it, uses how often it was asked. -/
inductive Stateless : Parser → Prop
  | intro {p : Parser} :
    (∀ q ∈ p.preParsers, q.Stateless) → (∀ f ∈ p.filters, f.Stateless) →
      (∀ pf ∈ p.fields, ∀ st ∈ pf.stacked, Stateless st.parser) → Stateless p

theorem Stateless.allParts {p : Parser} (h : p.Stateless) :
    p.AllParts PreParser.Stateless RecordFilter.Stateless := by
  induction h with
  | intro hpre hfilters _ ih => exact .intro hpre hfilters ih

theorem judged_steady {filters : List RecordFilter} (h : ∀ f ∈ filters, f.Stateless)
    (parser : String) (r : Record) : Run.Steady (judged parser filters r) :=
  Run.Steady.composes.judged (fun f hf r => Session.judge_steady (h f hf) r) parser r

theorem finished_steady {filters : List RecordFilter} (h : ∀ f ∈ filters, f.Stateless)
    (parser : String) (r : Record) : Run.Steady (finished parser filters r) := by
  unfold finished
  refine (judged_steady h _ _).bind fun r => ?_
  split
  · exact .pure _
  · exact (Run.Steady.identify r).bind fun r =>
      (Run.Steady.keep r parser).bind fun _ => .pure _

/-- **A stateless parser that is stacked on a field is steady**, however deep parsers are
stacked. -/
theorem parseStacked_steady {p : Parser} (h : p.Stateless) (v : Value) (outer : Context) :
    Steady (parseStacked p v outer) :=
  parseStacked_has Run.Steady.composes (fun _ hq raw => Session.preParse_steady hq raw)
    (fun _ hf r => Session.judge_steady hf r) h.allParts v outer

theorem close_steady {p : Parser} (h : p.Stateless) (host : Host) (source : Source)
    (ctx : Context) : Steady (p.close host source ctx) := by
  obtain ⟨-, hfilters, -⟩ := h
  unfold close
  exact (Steady.except _).bind fun r => (Steady.except _).bind fun r =>
    (Steady.run (finished_steady hfilters _ _)).bind fun r =>
      (Steady.run (.note _)).bind fun _ => .pure _

theorem parseItem_steady {p : Parser} (h : p.Stateless) (host : Host) (source : Source)
    (metadata : Keyed Value) (item : RawData) :
    Steady (p.parseItem host source metadata item) := by
  have hclose := close_steady h host source
  obtain ⟨hpre, -, hstacked⟩ := h
  unfold parseItem
  refine (Steady.run (Session.preParsed_steady hpre _)).bind fun raw => ?_
  refine (Steady.except _).bind fun data => ?_
  cases data with
  | none => exact .pure _
  | some data =>
    -- Of the session itself only the cache is read, which sessions that are alike share.
    refine Steady.get ?_ fun s => ?_
    · intro s s' h
      rw [h]
    have hfill := fill_has Run.Steady.composes
      fun pf hpf st hst => parseStacked_steady (hstacked pf hpf st hst)
    refine Steady.bind (hfill _) fun filled => ?_
    cases filled with
    | none => exact .pure _
    | some ctx => exact hclose ctx

/-- **An item comes to the same in sessions that are alike**, and leaves them alike, if its parser
is stateless. -/
theorem parse_alike {p : Parser} (h : p.Stateless) (host : Host) (source : Source)
    (metadata : Keyed Value) (input : RawData) {s s' : Session} (halike : s.Alike s') :
    (p.parse host source metadata input s).result =
        (p.parse host source metadata input s').result ∧
      (p.parse host source metadata input s).session.Alike
        (p.parse host source metadata input s').session := by
  unfold parse
  rcases input.next p.profile.properties.portion with ⟨e | item, rest⟩
  · exact ⟨rfl, halike⟩
  · cases item with
    | none => exact ⟨rfl, halike⟩
    | some item => exact parseItem_steady h host source metadata item s s' halike

end Parser

end Intake
