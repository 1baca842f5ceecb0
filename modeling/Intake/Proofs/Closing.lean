import Mathlib.Data.List.Basic
import Intake.Proofs.Isolation
import Intake.Proofs.Template

/-!
# The end of an item

Once its fields are filled, the record of an item is judged by the record filters, identified and
kept from. The group of its source becomes its parent after that, if it has none.

* `RecordFilter.verdict`: what filters that do not count say of a record.
* `RecordFilter.Overlooks`, `Cache.namesFor`: what filters and the store do not see.
* `Parser.settled_of_parse`: the record that an item has, by the one that was judged.
* `Parser.parse_frozen`: **a record is judged and kept from as it is but for its parent**, which is
  the one that its fields gave it.
* `Parser.group_comes_late`: what a filter or an entry of the store asks of the parent is asked too
  early.
-/

namespace Intake

/-- The record with another parent. -/
def Record.withParent (r : Record) (id : Option String) : Record :=
  r.withFacts { r.facts with parentId := id }

/-- The record as the record filters see it. -/
def Record.completed (r : Record) : Record :=
  r.withFacts { r.facts with complete := true }

/-- The record with this verdict on it. -/
def Record.flagged (r : Record) (filtered : Bool) : Record :=
  r.withFacts { r.facts with filtered }

namespace Facts

/-- A change touches no field but a slot. -/
structure Touches (change : Facts → Facts) (slot : Slot) : Prop where
  others : ∀ f other, other ≠ slot → (change f).slot? other = f.slot? other
  properties : ∀ f, (change f).properties = f.properties

/-- The fields of other names stay as they are. -/
theorem Touches.get? {change : Facts → Facts} {slot : Slot} (h : Touches change slot)
    {name : String} (hname : name ≠ slot.name) (f : Facts) :
    (change f).get? name = f.get? name := by
  unfold Facts.get?
  cases hslot : Slot.ofName? name with
  | none => exact congrArg (Keyed.get? name) (h.properties f)
  | some other =>
    refine h.others f other ?_
    rintro rfl
    exact hname (Slot.name_of_ofName? hslot).symm

theorem touches_trackingId (id : Option String) :
    Touches (fun f => { f with trackingId := id }) .trackingId :=
  ⟨fun f other hne => by cases other <;> first | rfl | exact absurd rfl hne, fun _ => rfl⟩

theorem touches_parentId (id : Option String) :
    Touches (fun f => { f with parentId := id }) .parentId :=
  ⟨fun f other hne => by cases other <;> first | rfl | exact absurd rfl hne, fun _ => rfl⟩

end Facts

namespace RecordFilter

/-- The filter excludes the record when it is asked for the first time; one that fails excludes
nothing. -/
def rejects (f : RecordFilter) (r : Record) : Bool :=
  match f.excludes 0 r with
  | .ok excluded => excluded
  | .error _ => false

/-- One of the filters excludes the record. -/
def verdict (filters : List RecordFilter) (r : Record) : Bool :=
  filters.any (·.rejects r)

/-- A change to a record makes no difference to a filter. -/
def Overlooks (f : RecordFilter) (change : Facts → Facts) : Prop :=
  ∀ asked r, f.excludes asked (r.withFacts (change r.facts)) = f.excludes asked r

/-- The mark of an earlier verdict makes no difference to a filter. -/
def OverlooksMark (f : RecordFilter) : Prop :=
  ∀ b, f.Overlooks fun facts => { facts with filtered := b }

variable {f : RecordFilter} {filters : List RecordFilter} {change : Facts → Facts}

theorem verdict_congr (h : ∀ f ∈ filters, f.Overlooks change) (r : Record) :
    verdict filters (r.withFacts (change r.facts)) = verdict filters r := by
  induction filters with
  | nil => rfl
  | cons f rest ih =>
    have hrest := ih fun g hg => h g (List.mem_cons_of_mem _ hg)
    have hfirst : f.rejects (r.withFacts (change r.facts)) = f.rejects r := by
      unfold rejects
      rw [h f List.mem_cons_self 0 r]
    unfold verdict at hrest ⊢
    rw [List.any_cons, List.any_cons, hrest, hfirst]

/-- Conditions overlook a slot that none of them names. -/
theorem overlooks_of_touches {slot : Slot} {name : String} {handling : Handling}
    {cs : List FieldCondition} (htouches : Facts.Touches change slot)
    (h : ∀ c ∈ cs, c.field ≠ slot.name) : (conditions name handling cs).Overlooks change := by
  intro asked r
  have hmatches : matchesAll cs (r.withFacts (change r.facts)) = matchesAll cs r := by
    unfold matchesAll
    rw [Bool.eq_iff_iff, List.all_eq_true, List.all_eq_true]
    refine forall₂_congr fun c hc => ?_
    have hget : (r.withFacts (change r.facts)).get? c.field = r.get? c.field :=
      htouches.get? (h c hc) r.facts
    rw [hget]
  exact congrArg (fun matched => Except.ok (handling.excludes matched)) hmatches

/-- Conditions overlook the mark, which is no field. -/
theorem conditions_overlookMark {name : String} {handling : Handling}
    {cs : List FieldCondition} : (conditions name handling cs).OverlooksMark := by
  intro b asked r
  rfl

end RecordFilter

namespace Cache

variable {c : Cache} {r r' : Record} {parser : String}

/-- The names in the templates of the entries that are for a parser, and the empty name, which a
template may ask for without naming it. -/
def namesFor (c : Cache) (parser : String) : List String :=
  "" :: (c.entries.filter (·.appliesTo parser)).flatMap fun e =>
    Template.vars e.key ++ Template.vars e.value

/-- What the store keeps of a record depends on the fields that its templates name. -/
theorem store_congr (h : ∀ name ∈ c.namesFor parser, r.get? name = r'.get? name) :
    c.store r parser = c.store r' parser := by
  have hempty : r.get? "" = r'.get? "" := h "" List.mem_cons_self
  have hfill : ∀ template, (∀ name ∈ Template.vars template, r.get? name = r'.get? name) →
      CacheEntry.fillFrom? template r = CacheEntry.fillFrom? template r' := by
    intro template hvars
    unfold CacheEntry.fillFrom?
    rw [Template.fill_congr (congrArg (Option.map Value.text) hempty) fun name hname =>
      congrArg (Option.map Value.text) (hvars name hname)]
  -- an entry sees the record only through its two templates
  have hentry : ∀ e ∈ c.entries.filter (·.appliesTo parser),
      e.keyFor? r = e.keyFor? r' ∧ e.valueFor? r = e.valueFor? r' := by
    intro e he
    have hkey : ∀ name ∈ Template.vars e.key, r.get? name = r'.get? name := fun name hname =>
      h name (List.mem_cons_of_mem _ (List.mem_flatMap.2 ⟨e, he, List.mem_append_left _ hname⟩))
    have hvalue : ∀ name ∈ Template.vars e.value, r.get? name = r'.get? name := fun name hname =>
      h name (List.mem_cons_of_mem _ (List.mem_flatMap.2 ⟨e, he, List.mem_append_right _ hname⟩))
    refine ⟨hfill _ hkey, ?_⟩
    unfold CacheEntry.valueFor?
    -- a template that is one name is not filled: the value itself is kept
    cases hsole : Template.soleVar? e.value with
    | none => exact congrArg (Option.map Value.str) (hfill _ hvalue)
    | some name =>
      refine hvalue name ?_
      rw [Template.vars_of_soleVar? hsole]
      exact List.mem_singleton_self name
  have htakings : c.takings r parser = c.takings r' parser := by
    unfold takings
    refine List.filterMap_congr fun e he => ?_
    obtain ⟨hkey, hvalue⟩ := hentry e he
    rw [hkey, hvalue]
  unfold store
  rw [htakings]

end Cache

namespace Session

variable {f : RecordFilter} {filters : List RecordFilter}

theorem judge_eq (h : f.Stateless) (r : Record) (s : Session) :
    (judge f r s).1 = f.excludes 0 r := by
  cases f with
  | conditions name handling cs => rfl
  | custom name counter run =>
    exact congrArg (fun run => (run r).mapError (Failure.filter name)) (h (s.tallies counter) 0)

theorem judge_ids (f : RecordFilter) (r : Record) (s : Session) : (judge f r s).2.ids = s.ids := by
  cases f <;> rfl

/-- Record filters leave the identifiers at hand alone. -/
theorem excludes_ids (parser : String) (filters : List RecordFilter) (r : Record) (s : Session) :
    (excludes parser filters r s).2.ids = s.ids := by
  induction filters generalizing s with
  | nil => rfl
  | cons f rest ih =>
    have hjudge := judge_ids f r s
    rw [excludes, Run.apply_bind]
    generalize judge f r s = judged at hjudge ⊢
    rcases judged with ⟨e | _ | _, s₁⟩
    · exact (ih _).trans hjudge
    · exact (ih _).trans hjudge
    · exact hjudge

/-- Filters that do not count say the same whenever they are asked. -/
theorem excludes_eq (h : ∀ f ∈ filters, f.Stateless) (parser : String) (r : Record) (s : Session) :
    (excludes parser filters r s).1 = RecordFilter.verdict filters r := by
  induction filters generalizing s with
  | nil => rfl
  | cons f rest ih =>
    have hrest := ih fun g hg => h g (List.mem_cons_of_mem _ hg)
    have hjudge := judge_eq (h f List.mem_cons_self) r s
    have hverdict : RecordFilter.verdict (f :: rest) r =
        (f.rejects r || RecordFilter.verdict rest r) := List.any_cons
    rw [excludes, Run.apply_bind, hverdict, RecordFilter.rejects]
    generalize judge f r s = judged at hjudge ⊢
    obtain ⟨said, s₁⟩ := judged
    obtain rfl : said = f.excludes 0 r := hjudge
    rcases f.excludes 0 r with e | _ | _
    · exact hrest _
    · exact hrest _
    · rfl

end Session

namespace Parser

open Attempt RecordFilter

variable {p : Parser} {host : Host} {source : Source} {metadata : Keyed Value} {input : RawData}
  {session s s' : Session} {ctx : Context} {filters : List RecordFilter} {r : Record}

/-- A record that was judged says what the filters said of it, and nothing else comes of it but what
was asked and noted. -/
theorem judged_value (parser : String) (filters : List RecordFilter) (r : Record) (s : Session) :
    (judged parser filters r s).1 =
        r.completed.flagged (Session.excludes parser filters r.completed s).1 ∧
      (judged parser filters r s).2.Alike s := by
  have hcache := Session.excludes_keepsCache parser filters r.completed s
  have hids := Session.excludes_ids parser filters r.completed s
  have hrun : judged parser filters r =
      Session.excludes parser filters r.completed >>= fun filtered => do
        if filtered then Session.note (Reading.ofParser .itemsFiltered parser)
        return r.completed.flagged filtered := rfl
  rw [hrun, Run.apply_bind]
  cases (Session.excludes parser filters r.completed s).1 with
  | true => exact ⟨rfl, hcache, hids⟩
  | false => exact ⟨rfl, hcache, hids⟩

theorem judged_eq (h : ∀ f ∈ filters, f.Stateless) (parser : String) (r : Record) (s : Session) :
    (judged parser filters r s).1 = r.completed.flagged (verdict filters r.completed) := by
  rw [(judged_value parser filters r s).1, Session.excludes_eq h]

/-- What has become of a record since the record filters saw it: it says what they say of it, and
unless they exclude it it has an identifier and the store has taken what it takes from it. -/
structure Settles (filters : List RecordFilter) (parser : String) (seen r : Record)
    (cache cache' : Cache) : Prop where
  facts : ∃ id, r = (seen.withFacts { seen.facts with trackingId := id }).flagged
    (verdict filters seen)
  identified : r.facts.filtered = false → r.facts.trackingId.isSome
  kept : cache' = if r.facts.filtered then cache else (cache.store r parser).value

theorem Settles.filtered {parser : String} {seen r : Record} {cache cache' : Cache}
    (h : Settles filters parser seen r cache cache') : r.facts.filtered = verdict filters seen := by
  obtain ⟨id, rfl⟩ := h.facts
  rfl

theorem finished_settles (h : ∀ f ∈ filters, f.Stateless) (parser : String) (r : Record)
    (s : Session) :
    Settles filters parser r.completed (finished parser filters r s).1 s.cache
      (finished parser filters r s).2.cache := by
  have hjudged := judged_eq h parser r s
  have hkeeps := judged_keepsCache parser filters r s
  unfold finished
  rw [Run.apply_bind]
  generalize judged parser filters r s = next at hjudged hkeeps ⊢
  obtain ⟨r₁, s₁⟩ := next
  generalize r.completed = seen at hjudged ⊢
  obtain rfl : r₁ = seen.flagged (verdict filters seen) := hjudged
  cases hverdict : verdict filters seen with
  | true =>
    refine ⟨⟨seen.facts.trackingId, ?_⟩, nofun, hkeeps⟩
    rw [hverdict]
    rfl
  | false =>
    -- what is kept is kept of the record with its identifier
    obtain ⟨id, hid, -⟩ := Facts.identified_cases (seen.flagged false).facts s₁.ids
    have hidentify : (Session.identify (seen.flagged false) s₁).1 =
        (seen.withFacts { seen.facts with trackingId := some id }).flagged false :=
      congrArg seen.withFacts hid
    change Settles filters parser seen (Session.identify (seen.flagged false) s₁).1 s.cache
      (s₁.cache.store (Session.identify (seen.flagged false) s₁).1 parser).value
    rw [hidentify]
    refine ⟨⟨some id, ?_⟩, fun _ => rfl, ?_⟩
    · rw [hverdict]
    · change s₁.cache = s.cache at hkeeps
      rw [hkeeps]
      rfl

/-- A context is closed with its record finished, once its times are derived; the group of the source
is the parent of the record, if it has none. -/
theorem finished_of_close (h : (p.close host source ctx).on s = (.ok (some r), s')) :
    ∃ filled timed kept s₁,
      withDefaultMessage p.profile p.profile.properties.dataAsMessage ctx = .ok filled ∧
      filled.determineTimes host.now = .ok timed ∧
      finished p.name p.filters timed s = (kept, s₁) ∧ s'.cache = s₁.cache ∧
      r = kept.withParent (kept.facts.parentId.or source.groupId) := by
  unfold close at h
  obtain ⟨filled, s₀, hmessage, hfilling⟩ := on_bind_eq_ok.1 h
  obtain ⟨hfilled, rfl⟩ := on_except_eq_ok.1 hmessage
  obtain ⟨timed, s₀', htimes, htiming⟩ := on_bind_eq_ok.1 hfilling
  obtain ⟨htimed, rfl⟩ := on_except_eq_ok.1 htimes
  obtain ⟨kept, s₁, hfinished, hrest⟩ := on_bind_eq_ok.1 htiming
  rw [on_run] at hfinished
  obtain ⟨hkept, hsession⟩ := Prod.mk.inj hfinished
  obtain ⟨_, s₂, hnote, hreturn⟩ := on_bind_eq_ok.1 hrest
  cases hnote
  cases hreturn
  exact ⟨filled, timed, kept, s₁, hfilled, htimed, Prod.ext (Except.ok.inj hkept) hsession, rfl,
    rfl⟩

/-- An item that has a record could be read, its fields were filled, and the context was closed
with this record. -/
theorem closed_of_parse (h : (p.parse host source metadata input session).result = .ok (some r)) :
    ∃ ctx s ctx' s₁, p.Opens host source metadata input session ctx s ∧
      (fill p.fields ctx).on s = (.ok (some ctx'), s₁) ∧
      (p.close host source ctx').on s₁ =
        (.ok (some r), (p.parse host source metadata input session).session) := by
  rcases opens_or_unread (p := p) host source metadata input session with
    ⟨ctx, s, hopens⟩ | ⟨hunread, -⟩
  · -- There is a record, so that no field failed and none gave the item up.
    rcases hfill : (fill p.fields ctx).on s with ⟨e | filled, s₁⟩
    · rw [parse_of_fill_error hopens hfill] at h
      cases h
    · cases filled with
      | none =>
        rw [parse_of_fill_none hopens hfill] at h
        cases h
      | some ctx' =>
        refine ⟨ctx, s, ctx', s₁, hopens, hfill, ?_⟩
        rw [parse_of_fill_some hopens hfill] at h ⊢
        exact Prod.ext h rfl
  · exact absurd h (hunread r)

/-- What becomes of a record after it was judged and kept from: the group of the source is its
parent, if it has none. -/
theorem settled_of_close (hstateless : ∀ f ∈ p.filters, f.Stateless)
    (h : (p.close host source ctx).on s = (.ok (some r), s')) :
    ∃ seen kept, Settles p.filters p.name seen kept s.cache s'.cache ∧
      r = kept.withParent (kept.facts.parentId.or source.groupId) := by
  obtain ⟨filled, timed, kept, s₁, -, -, hfinished, hcache, rfl⟩ := finished_of_close h
  have hsettles := finished_settles hstateless p.name timed s
  rw [hfinished] at hsettles
  rw [hcache]
  exact ⟨_, kept, hsettles, rfl⟩

/-- The record that an item has, by the one that was judged. -/
theorem settled_of_parse (hstateless : ∀ f ∈ p.filters, f.Stateless)
    (h : (p.parse host source metadata input session).result = .ok (some r)) :
    ∃ seen kept, Settles p.filters p.name seen kept session.cache
        (p.parse host source metadata input session).session.cache ∧
      r = kept.withParent (kept.facts.parentId.or source.groupId) := by
  obtain ⟨ctx, s, ctx', s₁, hopens, hfill, hclose⟩ := closed_of_parse h
  -- up to the end nothing is kept
  have hcache := (fill_mild p.fields ctx s).1.trans hopens.cache
  rw [hfill] at hcache
  rw [← hcache]
  exact settled_of_close hstateless hclose

/-- **A record is judged and kept from as it is but for its parent.** Let the filters of a parser
not count, and overlook identifiers. If an item has a record, then its verdict is the one on this
record with the parent that its fields gave it, and with the mark that merged records had left on
it; and the store has taken what it takes from this record with that parent. That is the record
itself if its fields gave it a parent or its source has no group. Else it makes no difference to
filters that overlook the parent, nor to a store whose templates do not name it. Nor does the mark
to filters that overlook it. -/
theorem parse_frozen (hstateless : ∀ f ∈ p.filters, f.Stateless)
    (hids : ∀ f ∈ p.filters, ∀ id, f.Overlooks fun facts => { facts with trackingId := id })
    (hr : (p.parse host source metadata input session).result = .ok (some r)) :
    ∃ own mark, r.facts.parentId = own.or source.groupId ∧
      r.facts.filtered = verdict p.filters ((r.withParent own).flagged mark) ∧
      (p.parse host source metadata input session).session.cache =
        (if r.facts.filtered then session.cache
          else (session.cache.store (r.withParent own) p.name).value) ∧
      ((∀ f ∈ p.filters, f.OverlooksMark) →
        own ≠ none ∨ source.groupId = none ∨
            (∀ f ∈ p.filters, ∀ id, f.Overlooks fun facts => { facts with parentId := id }) →
        r.facts.filtered = verdict p.filters r) ∧
      (r.facts.filtered = false →
        own ≠ none ∨ source.groupId = none ∨
            Slot.parentId.name ∉ session.cache.namesFor p.name →
        (p.parse host source metadata input session).session.cache =
          (session.cache.store r p.name).value) := by
  obtain ⟨seen, kept, hsettles, rfl⟩ := settled_of_parse hstateless hr
  have hback : ∀ id, (kept.withParent id).withParent kept.facts.parentId = kept := by
    intro id
    cases kept
    rfl
  have hverdict : kept.facts.filtered =
      verdict p.filters (kept.flagged seen.facts.filtered) := by
    obtain ⟨id, rfl⟩ := hsettles.facts
    exact (verdict_congr (fun f hf => hids f hf id) seen).symm
  -- the group makes no difference to a record that has a parent
  have hsame : kept.facts.parentId ≠ none ∨ source.groupId = none →
      kept.withParent (kept.facts.parentId.or source.groupId) = kept := by
    intro hown
    have hparent : kept.facts.parentId.or source.groupId = kept.facts.parentId := by
      cases hid : kept.facts.parentId with
      | some id => rfl
      | none => exact hown.resolve_left (fun hne => hne hid)
    rw [hparent]
    exact hback kept.facts.parentId
  refine ⟨kept.facts.parentId, seen.facts.filtered, rfl, ?_, ?_, ?_, ?_⟩
  · rw [hback]
    exact hverdict
  · rw [hback]
    exact hsettles.kept
  · intro hmarks hwhy
    have hkept : kept.facts.filtered = verdict p.filters kept :=
      hverdict.trans (verdict_congr (fun f hf => hmarks f hf _) kept)
    rcases hwhy with hown | hgroup | hparents
    · rw [hsame (.inl hown)]
      exact hkept
    · rw [hsame (.inr hgroup)]
      exact hkept
    · exact hkept.trans (verdict_congr (fun f hf => hparents f hf _) kept).symm
  · intro hpassed hwhy
    have hstored := hsettles.kept
    rw [show kept.facts.filtered = false from hpassed, if_neg Bool.false_ne_true] at hstored
    rw [hstored]
    rcases hwhy with hown | hgroup | hnames
    · rw [hsame (.inl hown)]
    · rw [hsame (.inr hgroup)]
    · refine congrArg Noted.value (Cache.store_congr fun name hname => ?_)
      have hother : name ≠ Slot.parentId.name := fun heq => hnames (heq ▸ hname)
      exact ((Facts.touches_parentId _).get? hother kept.facts).symm

/-- A parser for events that are no parts of a certain group. -/
def parts : Parser :=
  .mk ⟨"parts", {}, .map⟩ [] [.conditions "no parts" .exclude [⟨"ParentId", .exact "g1"⟩]]
    [⟨{ name := "EventName", locators := [{ location := "event" }] }, []⟩]

/-- A source whose items are parts of that group. -/
def gathering : Source where
  name := "test"
  groupId := some "g1"

/-- A session in which the group of the last event is kept. -/
def ledger : Session where
  cache := { (default : Cache) with
    entries := [{ id := "group", key := "group", value := "$\x7bParentId\x7d" }] }
  ids := { id := toString }

theorem parts_filters : (∀ f ∈ parts.filters, f.Stateless) ∧
    ∀ f ∈ parts.filters, ∀ id, f.Overlooks fun facts => { facts with trackingId := id } := by
  have hfilters : parts.filters = [.conditions "no parts" .exclude [⟨"ParentId", .exact "g1"⟩]] :=
    rfl
  rw [hfilters]
  refine ⟨?_, ?_⟩
  · intro f hf
    obtain rfl := List.mem_singleton.1 hf
    trivial
  · intro f hf id
    obtain rfl := List.mem_singleton.1 hf
    exact overlooks_of_touches (Facts.touches_trackingId id) (by decide)

/-- What becomes of an event of a source with a group. -/
def partOutcome : Outcome :=
  parts.parse { now := ⟨0⟩, env := fun _ => none } gathering [] (.map [("event", .str "login")])
    ledger

theorem part_frozen :
    ∃ r own mark, partOutcome.result = .ok (some r) ∧
      r.facts.parentId = own.or gathering.groupId ∧
      r.facts.filtered = verdict parts.filters ((r.withParent own).flagged mark) ∧
      partOutcome.session.cache =
        if r.facts.filtered then ledger.cache
        else (ledger.cache.store (r.withParent own) "parts").value := by
  obtain ⟨hstateless, hids⟩ := parts_filters
  obtain ⟨r, hr⟩ : ∃ r, partOutcome.result = .ok (some r) := ⟨_, rfl⟩
  obtain ⟨own, mark, hparent, hverdict, hcache, -, -⟩ := parse_frozen hstateless hids hr
  exact ⟨r, own, mark, hr, hparent, hverdict, hcache⟩

/-- **The group of the source comes too late**: the filter excludes records of this parent, and yet
does not exclude the one that the item has; and the store is to keep the parent, and yet keeps
nothing. -/
theorem group_comes_late :
    ((∀ f ∈ parts.filters, f.Stateless) ∧
      ∀ f ∈ parts.filters, ∀ id, f.Overlooks fun facts => { facts with trackingId := id }) ∧
    ∃ r, partOutcome.result = .ok (some r) ∧
      (r.facts.filtered = false ∧ verdict parts.filters r = true) ∧
      (partOutcome.session.cache.get? "group").map Value.text = none ∧
      (((ledger.cache.store r "parts").value).get? "group").map Value.text = some "g1" :=
  ⟨parts_filters, _, rfl, ⟨rfl, by decide +kernel⟩, by decide +kernel, by decide +kernel⟩

end Parser

end Intake
