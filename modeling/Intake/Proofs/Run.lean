import Intake.Parser.Parse
import Intake.Proofs.Except

/-!
# Runs and what they come to

* `Noted` obeys the laws of monads, so that a run through a list can be taken apart.
* `Resolving.value`: what a computation comes to, whatever readings it takes.
* `Run.Composes`: a property of runs is kept when runs are put together; pre-parsers and record
  filters have it if each of them has it.
* `KeepsCache`: a run leaves the values kept between activities alone; so do pre-parsers and record
  filters.
* `Attempt.on`: what an attempt comes to in a session, and the session after it.
* `Attempt.Mild`: an attempt leaves the values kept between activities alone and fails only in some
  ways. What is made of mild attempts is mild.
-/

namespace Intake

instance : LawfulMonad Noted := LawfulMonad.mk' Noted
  (by
    intro α x
    change (⟨x.value, x.readings ++ []⟩ : Noted α) = x
    rw [List.append_nil])
  (by
    intro α β a f
    rfl)
  (by
    intro α β γ x f g
    change (⟨_, (x.readings ++ _) ++ _⟩ : Noted γ) = ⟨_, x.readings ++ (_ ++ _)⟩
    rw [List.append_assoc]
    rfl)

variable {α β : Type}

namespace Resolving

/-- What a computation comes to. -/
def value (x : Resolving α) : Except Failure α := x.run.value

/-- The session after a computation, with its readings. -/
def session (x : Resolving α) (s : Session) : Session :=
  { s with readings := s.readings ++ x.run.readings }

@[simp] theorem value_pure (a : α) : (pure a : Resolving α).value = .ok a := rfl

@[simp] theorem value_throw (e : Failure) : (throw e : Resolving α).value = .error e := rfl

@[simp] theorem value_noted (x : Noted α) : (liftM x : Resolving α).value = .ok x.value := rfl

@[simp] theorem value_except (x : Except Failure α) : (liftM x : Resolving α).value = x := by
  cases x <;> rfl

@[simp] theorem value_bind (x : Resolving α) (f : α → Resolving β) :
    (x >>= f).value = x.value >>= fun a => (f a).value := by
  obtain ⟨v, readings⟩ := x
  cases v <;> rfl

/-- A run through a list comes to what its steps come to. -/
theorem value_mapM (f : α → Resolving β) (l : List α) :
    (l.mapM f).value = l.mapM fun a => (f a).value := by
  induction l with
  | nil => rfl
  | cons a l ih =>
    rw [List.mapM_cons, List.mapM_cons, value_bind]
    congr 1
    funext b
    rw [value_bind, ih]
    rfl

end Resolving

/-- A property of runs that taking readings has, and that is kept when runs are put together. -/
structure Run.Composes (P : {α : Type} → Run α → Prop) : Prop where
  pure : ∀ {α : Type} (a : α), P (Pure.pure a : Run α)
  bind : ∀ {α β : Type} {x : Run α} {f : α → Run β}, P x → (∀ a, P (f a)) → P (x >>= f)
  noted : ∀ {α : Type} (x : Noted α), P (Session.noted x)

namespace Run.Composes

variable {P : {α : Type} → Run α → Prop}

theorem note (h : Run.Composes P) (r : Reading) : P (Session.note r) := h.noted (Noted.note r)

/-- A chain of pre-parsers has the property if each of them has it. -/
theorem chain (h : Run.Composes P) {ps : List PreParser}
    (hps : ∀ p ∈ ps, ∀ raw, P (Session.preParse p raw)) (raw : RawData) :
    P (Session.chain ps raw) := by
  induction ps generalizing raw with
  | nil => exact h.pure _
  | cons p rest ih =>
    have hrest := ih fun q hq => hps q (List.mem_cons_of_mem _ hq)
    rw [Session.chain]
    split
    · refine h.bind (hps p List.mem_cons_self raw) fun next => ?_
      cases next with
      | ok next => exact hrest next
      | error e =>
        simp only
        split
        · exact h.pure _
        · exact hrest raw
    · exact hrest raw

theorem preParsed (h : Run.Composes P) {ps : List PreParser}
    (hps : ∀ p ∈ ps, ∀ raw, P (Session.preParse p raw)) (raw : RawData) :
    P (Session.preParsed ps raw) := by
  unfold Session.preParsed
  refine h.bind (h.chain hps raw) fun next => ?_
  cases next with
  | ok next => exact h.pure _
  | error e => exact h.pure _

/-- The verdict of record filters has the property if that of each of them has it. -/
theorem excludes (h : Run.Composes P) {filters : List RecordFilter}
    (hfilters : ∀ f ∈ filters, ∀ r, P (Session.judge f r)) (parser : String) (r : Record) :
    P (Session.excludes parser filters r) := by
  induction filters with
  | nil => exact h.pure _
  | cons f rest ih =>
    have hrest := ih fun g hg => hfilters g (List.mem_cons_of_mem _ hg)
    rw [Session.excludes]
    refine h.bind (hfilters f List.mem_cons_self r) fun verdict => ?_
    cases verdict with
    | ok excluded =>
      cases excluded with
      | true => exact h.pure _
      | false => exact hrest
    | error e => exact h.bind (h.note _) fun _ => hrest

theorem judged (h : Run.Composes P) {filters : List RecordFilter}
    (hfilters : ∀ f ∈ filters, ∀ r, P (Session.judge f r)) (parser : String) (r : Record) :
    P (Parser.judged parser filters r) := by
  unfold Parser.judged
  refine h.bind (h.excludes hfilters _ _) fun filtered => ?_
  cases filtered with
  | true => exact h.bind (h.note _) fun _ => h.pure _
  | false => exact h.pure _

end Run.Composes

/-- A run leaves the values kept between activities alone. -/
def KeepsCache (x : Run α) : Prop :=
  ∀ s, (x s).2.cache = s.cache

namespace KeepsCache

theorem pure (a : α) : KeepsCache (Pure.pure a) := fun _ => rfl

theorem bind {x : Run α} {f : α → Run β} (hx : KeepsCache x) (hf : ∀ a, KeepsCache (f a)) :
    KeepsCache (x >>= f) :=
  fun s => (hf (x s).1 (x s).2).trans (hx s)

theorem ask (counter : Nat) : KeepsCache (Session.ask counter) := fun _ => rfl

theorem composes : Run.Composes @KeepsCache where
  pure := pure
  bind := bind
  noted _ _ := rfl

end KeepsCache

namespace Session

theorem preParse_keepsCache (p : PreParser) (raw : RawData) : KeepsCache (preParse p raw) := by
  unfold preParse
  split
  · exact (KeepsCache.ask _).bind fun _ => .pure _
  · exact .pure _

/-- Pre-parsers leave the values kept between activities alone. -/
theorem preParsed_keepsCache (ps : List PreParser) (raw : RawData) :
    KeepsCache (preParsed ps raw) :=
  KeepsCache.composes.preParsed (fun p _ raw => preParse_keepsCache p raw) raw

theorem judge_keepsCache (f : RecordFilter) (r : Record) : KeepsCache (judge f r) := by
  unfold judge
  split
  · exact (KeepsCache.ask _).bind fun _ => .pure _
  · exact .pure _

/-- Record filters leave the values kept between activities alone. -/
theorem excludes_keepsCache (parser : String) (filters : List RecordFilter) (r : Record) :
    KeepsCache (excludes parser filters r) :=
  KeepsCache.composes.excludes (fun f _ r => judge_keepsCache f r) parser r

end Session

theorem judged_keepsCache (parser : String) (filters : List RecordFilter) (r : Record) :
    KeepsCache (Parser.judged parser filters r) :=
  KeepsCache.composes.judged (fun f _ r => Session.judge_keepsCache f r) parser r

namespace Attempt

variable {s s' : Session} {e : Failure}

/-- What an attempt comes to in a session, and the session after it. -/
def on (x : Attempt α) (s : Session) : Except Failure α × Session := x.run.run s

@[simp] theorem on_pure (a : α) : (pure a : Attempt α).on s = (.ok a, s) := rfl

@[simp] theorem on_throw : (throw e : Attempt α).on s = (.error e, s) := rfl

@[simp] theorem on_run (x : Run α) : (liftM x : Attempt α).on s = (.ok (x s).1, (x s).2) := rfl

@[simp] theorem on_except (x : Except Failure α) : (liftM x : Attempt α).on s = (x, s) := by
  cases x <;> rfl

theorem on_except_eq_ok {x : Except Failure α} {a : α} :
    (liftM x : Attempt α).on s = (.ok a, s') ↔ x = .ok a ∧ s' = s := by
  rw [on_except, Prod.mk.injEq, eq_comm (a := s)]

@[simp] theorem on_resolving (x : Resolving α) :
    x.attempt.on s = (x.value, x.session s) := rfl

@[simp] theorem on_outcome (x : Attempt α) : x.outcome.on s = (.ok (x.on s).1, (x.on s).2) := rfl

theorem on_bind (x : Attempt α) (f : α → Attempt β) :
    (x >>= f).on s =
      match x.on s with
      | (.ok a, s') => (f a).on s'
      | (.error e, s') => (.error e, s') := by
  change (match x.on s with | (r, s') => (ExceptT.bindCont f r).run s') = _
  obtain ⟨a | e, s'⟩ := x.on s <;> rfl

theorem on_bind_of_ok {x : Attempt α} {f : α → Attempt β} {a : α} (h : x.on s = (.ok a, s')) :
    (x >>= f).on s = (f a).on s' := by
  rw [on_bind, h]

theorem on_bind_of_error {x : Attempt α} {f : α → Attempt β} (h : x.on s = (.error e, s')) :
    (x >>= f).on s = (.error e, s') := by
  rw [on_bind, h]

theorem ext {x y : Attempt α} (h : ∀ s, x.on s = y.on s) : x = y := funext h

theorem on_bind_eq_ok {x : Attempt α} {f : α → Attempt β} {b : β} :
    (x >>= f).on s = (.ok b, s') ↔
      ∃ a s₁, x.on s = (.ok a, s₁) ∧ (f a).on s₁ = (.ok b, s') := by
  rw [on_bind]
  rcases x.on s with ⟨e | a, s₁⟩
  · constructor
    · intro h
      cases h
    · rintro ⟨a, s₁, h, -⟩
      cases h
  · constructor
    · intro h
      exact ⟨a, s₁, rfl, h⟩
    · rintro ⟨_, _, ⟨⟩, h⟩
      exact h

/-- An attempt leaves the values kept between activities alone, and fails only in some ways. -/
def Mild (fails : Failure → Prop) (x : Attempt α) : Prop :=
  ∀ s, (x.on s).2.cache = s.cache ∧ ∀ e, (x.on s).1 = .error e → fails e

namespace Mild

variable {fails : Failure → Prop}

theorem pure (a : α) : Mild fails (Pure.pure a : Attempt α) := by
  intro s
  rw [on_pure]
  refine ⟨rfl, ?_⟩
  intro e he
  cases he

theorem throw (he : fails e) : Mild fails (MonadExcept.throw e : Attempt α) := by
  intro s
  rw [on_throw]
  refine ⟨rfl, ?_⟩
  rintro _ ⟨⟩
  exact he

theorem run {x : Run α} (h : KeepsCache x) : Mild fails (liftM x : Attempt α) := by
  intro s
  refine ⟨h s, ?_⟩
  rw [on_run]
  intro e he
  cases he

theorem except {x : Except Failure α} (h : ∀ e, x = .error e → fails e) :
    Mild fails (liftM x : Attempt α) := by
  intro s
  rw [on_except]
  exact ⟨rfl, h⟩

theorem resolving {x : Resolving α} (h : ∀ e, x.value = .error e → fails e) :
    Mild fails x.attempt := by
  intro s
  rw [on_resolving]
  exact ⟨rfl, h⟩

/-- Only what the first part can come to matters to the second. -/
theorem bind_reached {x : Attempt α} {f : α → Attempt β} (hx : Mild fails x)
    (hf : ∀ s a s', x.on s = (.ok a, s') → Mild fails (f a)) : Mild fails (x >>= f) := by
  intro s
  have hs := hx s
  -- what was kept is the same after the first part, and then after the second
  rcases hon : x.on s with ⟨e | a, s'⟩
  · rw [hon] at hs
    rw [on_bind_of_error hon]
    refine ⟨hs.1, ?_⟩
    rintro _ ⟨⟩
    exact hs.2 e rfl
  · rw [hon] at hs
    rw [on_bind_of_ok hon]
    have hf := hf s a s' hon
    exact ⟨(hf s').1.trans hs.1, (hf s').2⟩

theorem bind {x : Attempt α} {f : α → Attempt β} (hx : Mild fails x)
    (hf : ∀ a, Mild fails (f a)) : Mild fails (x >>= f) :=
  hx.bind_reached fun _ a _ _ => hf a

/-- An outcome as a value is no failure, whatever the attempt can come to. -/
theorem outcome {fails' : Failure → Prop} {x : Attempt α} (hx : Mild fails' x) :
    Mild fails x.outcome := by
  intro s
  rw [on_outcome]
  refine ⟨(hx s).1, ?_⟩
  intro e he
  cases he

theorem mono {fails' : Failure → Prop} {x : Attempt α} (hx : Mild fails x)
    (h : ∀ e, fails e → fails' e) : Mild fails' x :=
  fun s => ⟨(hx s).1, fun e he => h e ((hx s).2 e he)⟩

end Mild

end Attempt

end Intake
