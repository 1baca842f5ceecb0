import Intake.Proofs.Required
import Intake.Proofs.Steady

/-!
# Items that leave no trace

* `IsRejected`: an item fails, has no record, or has one that a record filter excludes.
* `Parser.cache_parse`: a rejected item leaves the values kept between activities alone.
* `Thinned`: some rejected calls are taken out of a sequence of calls.
* `results_of_thinned`: **the other calls come to the same then**, and the same values are kept.
-/

namespace Intake

/-- An item has no record that counts: it fails, it is dropped, or a record filter excludes it. -/
def IsRejected : Except Failure (Option Record) → Prop
  | .error _ => True
  | .ok none => True
  | .ok (some r) => r.facts.filtered = true

instance : DecidablePred IsRejected
  | .error _ => .isTrue trivial
  | .ok none => .isTrue trivial
  | .ok (some r) => inferInstanceAs (Decidable (r.facts.filtered = true))

namespace Parser

open Attempt

variable {p : Parser} {host : Host} {source : Source} {metadata : Keyed Value} {input : RawData}
  {session s : Session} {ctx : Context}

/-- An identifier changes nothing about the verdict on a record. -/
theorem filtered_identify (r : Record) :
    (Session.identify r s).1.facts.filtered = r.facts.filtered := by
  obtain ⟨id, hfacts, -⟩ := Facts.identified_cases r.facts s.ids
  change (r.facts.identified s.ids).1.filtered = r.facts.filtered
  rw [hfacts]

/-- A record that is excluded leaves the values kept between activities alone. -/
theorem cache_finished {parser : String} {filters : List RecordFilter} {r : Record}
    (h : (finished parser filters r s).1.facts.filtered = true) :
    (finished parser filters r s).2.cache = s.cache := by
  have hkeeps := judged_keepsCache parser filters r s
  unfold finished at h ⊢
  rw [Run.apply_bind] at h ⊢
  generalize judged parser filters r s = next at h hkeeps ⊢
  obtain ⟨r₁, s₁⟩ := next
  by_cases hfiltered : r₁.facts.filtered = true
  · rw [if_pos hfiltered]
    exact hkeeps
  · -- a record that was not excluded is not by its identifier either
    rw [if_neg hfiltered] at h
    exact absurd ((filtered_identify r₁).symm.trans h) hfiltered

/-- An item that is rejected after its fields were filled leaves the values kept between activities
alone. -/
theorem cache_close (h : IsRejected ((p.close host source ctx).on s).1) :
    ((p.close host source ctx).on s).2.cache = s.cache := by
  have hlift := on_except (s := s)
    (withDefaultMessage p.profile p.profile.properties.dataAsMessage ctx)
  unfold close at h ⊢
  generalize withDefaultMessage p.profile p.profile.properties.dataAsMessage ctx = message
    at h hlift ⊢
  cases message with
  | error e => rfl
  | ok r =>
    have htimed := on_except (s := s) (r.determineTimes host.now)
    rw [on_bind_of_ok hlift] at h ⊢
    generalize r.determineTimes host.now = timed at h htimed ⊢
    cases timed with
    | error e => rfl
    | ok r =>
      rw [on_bind_of_ok htimed] at h ⊢
      exact cache_finished h

/-- An item can be read, or it has no record and leaves the values kept between activities alone. -/
theorem opens_or_unread (host : Host) (source : Source) (metadata : Keyed Value)
    (input : RawData) (session : Session) :
    (∃ ctx s, p.Opens host source metadata input session ctx s) ∨
      ((∀ r, (p.parse host source metadata input session).result ≠ .ok (some r)) ∧
        (p.parse host source metadata input session).session.cache = session.cache) := by
  -- an item is lost where it is taken, or where it is made ready; else its fields are filled
  rcases hnext : input.next p.profile.properties.portion with ⟨e | _ | item, rest⟩
  · right
    unfold parse
    rw [hnext]
    exact ⟨fun _ => nofun, rfl⟩
  · right
    unfold parse
    rw [hnext]
    exact ⟨fun _ => nofun, rfl⟩
  · have hraw := Session.preParsed_keepsCache p.preParsers item session
    have hread : (p.parse host source metadata input session).result =
          ((p.parseItem host source metadata item).on session).1 ∧
        (p.parse host source metadata input session).session =
          ((p.parseItem host source metadata item).on session).2 := by
      unfold parse
      rw [hnext]
      exact ⟨rfl, rfl⟩
    rw [hread.1, hread.2]
    unfold parseItem
    rw [on_bind_of_ok (on_run _), on_bind, on_except]
    rcases hprepare : p.profile.resolver.prepare
      (Session.preParsed p.preParsers item session).1 with e | _ | data
    · exact .inr ⟨fun _ => nofun, hraw⟩
    · exact .inr ⟨fun _ => nofun, hraw⟩
    · exact .inl ⟨_, _, item, rest, _, data, hnext, rfl, hprepare, rfl⟩

/-- **A rejected item leaves the values kept between activities alone**: neither pre-parsers nor
fields nor stacked parsers reach them, and what is kept is kept of a finished record. -/
theorem cache_parse (h : IsRejected (p.parse host source metadata input session).result) :
    (p.parse host source metadata input session).session.cache = session.cache := by
  rcases opens_or_unread (p := p) host source metadata input session with
    ⟨ctx, s, hopens⟩ | ⟨-, hcache⟩
  · -- up to here nothing is kept, whatever the fields come to
    have hkept := (fill_mild p.fields ctx s).1.trans hopens.cache
    rcases hfill : (fill p.fields ctx).on s with ⟨e | ctx', s₁⟩
    · rw [hfill] at hkept
      rw [parse_of_fill_error hopens hfill]
      exact hkept
    · rw [hfill] at hkept
      cases ctx' with
      | none =>
        rw [parse_of_fill_none hopens hfill]
        exact hkept
      | some ctx' =>
        rw [parse_of_fill_some hopens hfill] at h ⊢
        exact (cache_close h).trans hkept
  · exact hcache

end Parser

/-- An item that is given to a parser, with the world as it is then and the identifiers that are at
hand. -/
structure Call where
  parser : Parser
  host : Host
  source : Source
  metadata : Keyed Value := []
  item : RawData
  ids : IdSupply

/-- What becomes of the item of a call. -/
def Call.outcome (c : Call) (s : Session) : Parser.Outcome :=
  c.parser.parse c.host c.source c.metadata c.item { s with ids := c.ids }

/-- What calls come to, one after the other. -/
def results : List Call → Session → List (Except Failure (Option Record))
  | [], _ => []
  | c :: rest, s => (c.outcome s).result :: results rest (c.outcome s).session

/-- The session after calls. -/
def afterCalls : List Call → Session → Session
  | [], s => s
  | c :: rest, s => afterCalls rest (c.outcome s).session

namespace Call

variable {c : Call} {s s' : Session}

/-- A rejected call leaves the values kept between activities alone. -/
theorem cache_outcome (h : IsRejected (c.outcome s).result) :
    (c.outcome s).session.cache = s.cache :=
  Parser.cache_parse h

/-- A call sees nothing of what came before it but the values kept between activities. -/
theorem outcome_congr (hstateless : c.parser.Stateless) (hcache : s.cache = s'.cache) :
    (c.outcome s).result = (c.outcome s').result ∧
      (c.outcome s).session.cache = (c.outcome s').session.cache := by
  have halike : Session.Alike { s with ids := c.ids } { s' with ids := c.ids } := ⟨hcache, rfl⟩
  obtain ⟨hresult, hafter⟩ :=
    Parser.parse_alike hstateless c.host c.source c.metadata c.item halike
  exact ⟨hresult, hafter.cache⟩

end Call

/-- Of calls and what they come to, some that are rejected are taken out. -/
inductive Thinned : List Call → List (Except Failure (Option Record)) →
    List Call → List (Except Failure (Option Record)) → Prop
  | nil : Thinned [] [] [] []
  | keep {c : Call} {r : Except Failure (Option Record)} {calls kept : List Call}
      {rs rs' : List (Except Failure (Option Record))} :
    Thinned calls rs kept rs' → Thinned (c :: calls) (r :: rs) (c :: kept) (r :: rs')
  | takeOut {c : Call} {r : Except Failure (Option Record)} {calls kept : List Call}
      {rs rs' : List (Except Failure (Option Record))} :
    IsRejected r → Thinned calls rs kept rs' → Thinned (c :: calls) (r :: rs) kept rs'

variable {calls kept : List Call} {rs : List (Except Failure (Option Record))} {s s' : Session}

/-- **Rejected items leave no trace.** Let calls be made one after the other, and take out some that
fail, that are dropped, or whose record is excluded. If the parsers of the calls that are left are
stateless, these come to the same without the others, in any session with the same values kept
between activities, and the same values are kept in the end. -/
theorem results_of_thinned (hstateless : ∀ c ∈ kept, c.parser.Stateless)
    (h : Thinned calls (results calls s) kept rs) (hcache : s'.cache = s.cache) :
    results kept s' = rs ∧ (afterCalls kept s').cache = (afterCalls calls s).cache := by
  -- on the calls: the values kept between activities stay the same, with and without a call that is
  -- taken out as well as after one that is left
  induction calls generalizing s s' kept rs with
  | nil =>
    rw [results] at h
    cases h
    exact ⟨rfl, hcache⟩
  | cons c calls ih =>
    rw [results] at h
    cases h with
    | @keep _ _ _ kept _ rs hrest =>
      obtain ⟨hresult, hafter⟩ := Call.outcome_congr (hstateless c List.mem_cons_self) hcache
      obtain ⟨hresults, hlast⟩ :=
        ih (fun d hd => hstateless d (List.mem_cons_of_mem _ hd)) hrest hafter
      rw [results, hresult, hresults]
      exact ⟨rfl, hlast⟩
    | takeOut hrejected hrest =>
      exact ih hstateless hrest (hcache.trans (Call.cache_outcome hrejected).symm)

/-- A parser for visits, which have to say who came, and who came last before. -/
def visits : Parser :=
  .mk ⟨"visits", {}, .map⟩ [] []
    [⟨{ name := "UserName", locators := [{ location := "user", required := some true }] }, []⟩,
      ⟨{ name := "Before", locators := [{ kind := .cache, location := "last" }] }, []⟩]

theorem visits_stateless : visits.Stateless := by
  refine .intro ?_ ?_ ?_
  · intro q hq
    cases hq
  · intro f hf
    cases hf
  · intro pf hpf st hst
    simp only [Parser.fields, visits, List.mem_cons, List.not_mem_nil, or_false] at hpf
    rcases hpf with rfl | rfl
    · cases hst
    · cases hst

/-- A visit of someone. -/
def visit (user : String) : Call where
  parser := visits
  host := { now := ⟨0⟩, env := fun _ => none }
  source := { name := "test" }
  item := .map [("user", .str user)]
  ids := { id := toString }

/-- A session in which the last visitor is kept. -/
def reception : Session where
  cache := { (default : Cache) with
    entries := [{ id := "last", key := "last", value := "${UserName}" }] }
  ids := { id := toString }

/-- The visit that does not say who came can be taken out. -/
theorem blank_visit_leaves_no_trace :
    IsRejected ((visit " ").outcome ((visit "ann").outcome reception).session).result ∧
      results [visit "ann", visit "bob"] reception =
        [((visit "ann").outcome reception).result,
          ((visit "bob").outcome
            ((visit " ").outcome ((visit "ann").outcome reception).session).session).result] ∧
      (afterCalls [visit "ann", visit "bob"] reception).cache =
        (afterCalls [visit "ann", visit " ", visit "bob"] reception).cache := by
  have hrejected : IsRejected
      ((visit " ").outcome ((visit "ann").outcome reception).session).result := by
    decide +kernel
  have hstateless : ∀ c ∈ [visit "ann", visit "bob"], c.parser.Stateless := by
    intro c hc
    simp only [List.mem_cons, List.not_mem_nil, or_false] at hc
    rcases hc with rfl | rfl
    · exact visits_stateless
    · exact visits_stateless
  exact ⟨hrejected, results_of_thinned hstateless (.keep (.takeOut hrejected (.keep .nil))) rfl⟩

end Intake
