import Intake.Proofs.Steady

/-!
# Runs side by side

Two runs are compared that start in sessions between which some relation holds.

* `SameOutcome`: two outcomes are the same failure, or results that are related.
* `Run.Parallel`, `Attempt.Parallel`: two runs, or attempts, come to the same in such sessions, but
  for a relation between their results, and leave such sessions behind. What is made of such ones is
  so too.
* `Session.Congruence`: a relation between sessions that all that happens to a record at its end
  preserves.
-/

namespace Intake

variable {α β γ δ : Type}

/-- Two outcomes are the same failure, or results that are related. -/
inductive SameOutcome (R : α → β → Prop) : Except Failure α → Except Failure β → Prop
  | error (e : Failure) : SameOutcome R (.error e) (.error e)
  | ok {a : α} {b : β} : R a b → SameOutcome R (.ok a) (.ok b)

namespace SameOutcome

variable {R : α → β → Prop} {x : Except Failure α} {y : Except Failure β}

theorem of_eq {R : α → α → Prop} (hR : ∀ a, R a a) (x : Except Failure α) : SameOutcome R x x := by
  cases x with
  | error e => exact .error e
  | ok a => exact .ok (hR a)

theorem mono {R' : α → β → Prop} (h : SameOutcome R x y) (hR : ∀ a b, R a b → R' a b) :
    SameOutcome R' x y := by
  cases h with
  | error e => exact .error e
  | ok hab => exact .ok (hR _ _ hab)

/-- A result is related to what a function makes of it. -/
theorem of_map {R : α → β → Prop} {f : α → β} (hR : ∀ a, R a (f a)) (x : Except Failure α) :
    SameOutcome R x (x.map f) := by
  cases x with
  | error e => exact .error e
  | ok a => exact .ok (hR a)

/-- Outcomes that become the same by a function are the same but for what it forgets. -/
theorem of_map_eq {x y : Except Failure α} {f : α → β} (h : x.map f = y.map f) :
    SameOutcome (fun a b => f a = f b) x y := by
  cases x with
  | error e =>
    cases y with
    | error e' =>
      obtain rfl : e = e' := Except.error.inj h
      exact .error e
    | ok b => cases h
  | ok a =>
    cases y with
    | error e' => cases h
    | ok b => exact .ok (Except.ok.inj h)

theorem eq {x y : Except Failure α} (h : SameOutcome Eq x y) : x = y := by
  cases h with
  | error e => rfl
  | ok hab => rw [hab]

theorem map {R' : γ → δ → Prop} {f : α → γ} {g : β → δ} (h : SameOutcome R x y)
    (hfg : ∀ a b, R a b → R' (f a) (g b)) : SameOutcome R' (x.map f) (y.map g) := by
  cases h with
  | error e => exact .error e
  | ok hab => exact .ok (hfg _ _ hab)

end SameOutcome

/-- Two runs come to the same in sessions that are related, but for a relation between their
results, and leave such sessions behind. -/
def Run.Parallel (S : Session → Session → Prop) (R : α → β → Prop) (x : Run α) (y : Run β) : Prop :=
  ∀ s s' : Session, S s s' → R (x s).1 (y s').1 ∧ S (x s).2 (y s').2

/-- Two attempts come to the same in sessions that are related, but for a relation between their
results, and leave such sessions behind. -/
def Attempt.Parallel (S : Session → Session → Prop) (R : α → β → Prop) (x : Attempt α)
    (y : Attempt β) : Prop :=
  ∀ s s' : Session, S s s' → SameOutcome R (x.on s).1 (y.on s').1 ∧ S (x.on s).2 (y.on s').2

variable {S : Session → Session → Prop} {R : α → β → Prop} {T : γ → δ → Prop}

namespace Run.Parallel

theorem pure {a : α} {b : β} (h : R a b) : Run.Parallel S R (Pure.pure a) (Pure.pure b) :=
  fun _ _ hs => ⟨h, hs⟩

theorem bind {x : Run α} {y : Run β} {f : α → Run γ} {g : β → Run δ} (h : Run.Parallel S R x y)
    (hfg : ∀ a b, R a b → Run.Parallel S T (f a) (g b)) :
    Run.Parallel S T (x >>= f) (y >>= g) := by
  intro s s' hs
  obtain ⟨hresult, hnext⟩ := h s s' hs
  exact hfg _ _ hresult _ _ hnext

theorem same (x : Run α) : Run.Parallel Eq Eq x x := by
  rintro s _ rfl
  exact ⟨rfl, rfl⟩

/-- Runs that come to the same go on with the same result. -/
theorem bind_same {x y : Run α} {f : α → Run γ} {g : α → Run δ} (h : Run.Parallel S Eq x y)
    (hfg : ∀ a, Run.Parallel S T (f a) (g a)) : Run.Parallel S T (x >>= f) (y >>= g) := by
  refine h.bind fun a b hab => ?_
  obtain rfl := hab
  exact hfg a

end Run.Parallel

/-- A relation between sessions that have the same values kept between activities. It is preserved
when readings are taken, when a record is identified, and when values are kept of one. -/
structure Session.Congruence (S : Session → Session → Prop) : Prop where
  cache : ∀ {s s'}, S s s' → s.cache = s'.cache
  noted : ∀ {α : Type} (x : Noted α), Run.Parallel S Eq (Session.noted x) (Session.noted x)
  identify : ∀ r, Run.Parallel S Eq (Session.identify r) (Session.identify r)
  keep : ∀ r parser, Run.Parallel S Eq (Session.keep r parser) (Session.keep r parser)

/-- A relation between sessions that does not depend on the readings that were taken. -/
def Session.OverlooksReadings (S : Session → Session → Prop) : Prop :=
  ∀ s s' readings readings', S s s' →
    S { s with readings := s.readings ++ readings } { s' with readings := s'.readings ++ readings' }

theorem Session.Alike.overlooksReadings : Session.OverlooksReadings Session.Alike :=
  fun _ _ _ _ h => ⟨h.cache, h.ids⟩

namespace Session.Congruence

/-- Sessions are related only if they are the same. -/
theorem eq : Session.Congruence Eq where
  cache := congrArg Session.cache
  noted x _ _ h :=
    ⟨congrArg (fun s => (Session.noted x s).1) h, congrArg (fun s => (Session.noted x s).2) h⟩
  identify r _ _ h :=
    ⟨congrArg (fun s => (Session.identify r s).1) h, congrArg (fun s => (Session.identify r s).2) h⟩
  keep r parser _ _ h := ⟨rfl, congrArg (fun s => (Session.keep r parser s).2) h⟩

theorem alike : Session.Congruence Session.Alike where
  cache := Session.Alike.cache
  noted x := Run.Steady.composes.noted x
  identify := Run.Steady.identify
  keep := Run.Steady.keep

/-- What is made of runs that come to the same is so too. -/
theorem composes (h : Session.Congruence S) : Run.Composes fun x => Run.Parallel S Eq x x where
  pure _ := .pure rfl
  bind := Run.Parallel.bind_same
  noted := h.noted

theorem note (h : Session.Congruence S) (r : Reading) :
    Run.Parallel S Eq (Session.note r) (Session.note r) :=
  h.noted (Noted.note r)

end Session.Congruence

namespace Attempt.Parallel

variable {x : Attempt α} {y : Attempt β}

theorem pure {a : α} {b : β} (h : R a b) :
    Parallel S R (Pure.pure a : Attempt α) (Pure.pure b) :=
  fun _ _ hs => ⟨.ok h, hs⟩

theorem throw (e : Failure) :
    Parallel S R (MonadExcept.throw e : Attempt α) (MonadExcept.throw e : Attempt β) :=
  fun _ _ hs => ⟨.error e, hs⟩

theorem bind {f : α → Attempt γ} {g : β → Attempt δ} (h : Parallel S R x y)
    (hfg : ∀ a b, R a b → Parallel S T (f a) (g b)) : Parallel S T (x >>= f) (y >>= g) := by
  intro s s' hs
  obtain ⟨hsame, hnext⟩ := h s s' hs
  rw [on_bind, on_bind]
  generalize x.on s = left at hsame hnext ⊢
  generalize y.on s' = right at hsame hnext ⊢
  obtain ⟨left, s₁⟩ := left
  obtain ⟨right, s₁'⟩ := right
  cases hsame with
  | error e => exact ⟨.error e, hnext⟩
  | ok hab => exact hfg _ _ hab s₁ s₁' hnext

/-- Attempts that come to the same go on with the same result. -/
theorem bind_same {x y : Attempt α} {f : α → Attempt γ} {g : α → Attempt δ}
    (h : Parallel S Eq x y) (hfg : ∀ a, Parallel S T (f a) (g a)) :
    Parallel S T (x >>= f) (y >>= g) := by
  refine h.bind fun a b hab => ?_
  obtain rfl := hab
  exact hfg a

theorem run {x : Run α} {y : Run β} (h : Run.Parallel S R x y) :
    Parallel S R (liftM x : Attempt α) (liftM y : Attempt β) := by
  intro s s' hs
  obtain ⟨hsame, hnext⟩ := h s s' hs
  exact ⟨.ok hsame, hnext⟩

theorem except {x : Except Failure α} {y : Except Failure β} (h : SameOutcome R x y) :
    Parallel S R (liftM x : Attempt α) (liftM y : Attempt β) := by
  intro s s' hs
  rw [on_except, on_except]
  exact ⟨h, hs⟩

/-- The same values are looked up in parallel. -/
theorem resolving_same (hS : Session.Congruence S) {x y : Resolving α} (h : x = y) :
    Parallel S Eq x.attempt y.attempt := by
  intro s s' hs
  rw [h]
  exact ⟨.of_eq (fun _ => rfl) _, (hS.noted y.run s s' hs).2⟩

/-- Related values are looked up in parallel, whatever readings are taken on the way. -/
theorem resolving (hS : Session.OverlooksReadings S) {x : Resolving α} {y : Resolving β}
    (h : SameOutcome R x.value y.value) : Parallel S R x.attempt y.attempt :=
  fun _ _ hs => ⟨h, hS _ _ _ _ hs⟩

/-- What is made of the kept values alone is so too if it is so for the same values. -/
theorem get (hS : Session.Congruence S) {f : Session → Attempt α} {g : Session → Attempt β}
    (h : ∀ s s', s.cache = s'.cache → Parallel S R (f s) (g s')) :
    Parallel S R (MonadState.get >>= f) (MonadState.get >>= g) :=
  fun s s' hs => h s s' (hS.cache hs) s s' hs

/-- Attempts that come to the same in every session are the same. -/
theorem eq {x y : Attempt α} (h : Parallel Eq Eq x y) : x = y := by
  refine ext fun s => ?_
  obtain ⟨hsame, hnext⟩ := h s s rfl
  exact Prod.ext hsame.eq hnext

theorem mono {R' : α → β → Prop} (h : Parallel S R x y) (hR : ∀ a b, R a b → R' a b) :
    Parallel S R' x y := by
  intro s s' hs
  obtain ⟨hsame, hnext⟩ := h s s' hs
  exact ⟨hsame.mono hR, hnext⟩

theorem outcome (h : Parallel S R x y) : Parallel S (SameOutcome R) x.outcome y.outcome := by
  intro s s' hs
  obtain ⟨hsame, hnext⟩ := h s s' hs
  exact ⟨.ok hsame, hnext⟩

end Attempt.Parallel

end Intake
