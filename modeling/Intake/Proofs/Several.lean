import Intake.Proofs.Namesakes
import Intake.Proofs.Padding
import Intake.Proofs.Required

/-!
# Fields with several locators

A field with several locators comes to as many values as it has locators, and each value keeps its
place until it stands in the record. What a locator finds may be a list or a map itself: nothing is
taken apart on the way.

* `Context.resolveField_eq_ok_iff`: the value of the field is a list of what its locators find, with
  an empty text for each that finds nothing, or there is none.
* `Record.apply_list`: a record takes such a list place by place, each value with its own locator.
* `Record.apply_list_refuses`: what fails then is never the number of the values.
* `Parser.fillField_of_several`: **so it is for each field of a parser that was built**, unless it
  stands for one field per element of its value.
-/

namespace Intake

variable {ε α β : Type}

/-- A run through a list comes to something exactly if it does so at every element, in its place. -/
theorem mapM_eq_ok_iff {f : α → Except ε β} {l : List α} {bs : List β} :
    l.mapM f = .ok bs ↔ List.Forall₂ (fun a b => f a = .ok b) l bs := by
  induction l generalizing bs with
  | nil =>
    constructor
    · rintro ⟨⟩
      exact .nil
    · rintro ⟨⟩
      rfl
  | cons a l ih =>
    rw [List.mapM_cons, bind_eq_ok]
    constructor
    · rintro ⟨b, hb, h⟩
      obtain ⟨bs', hbs, hreturn⟩ := bind_eq_ok.1 h
      cases hreturn
      exact .cons hb (ih.1 hbs)
    · intro h
      cases h with
      | cons hb hbs => exact ⟨_, hb, bind_eq_ok.2 ⟨_, ih.2 hbs, rfl⟩⟩

/-- Findings as values, with an empty text for each that is none. -/
def Value.filledIn (found : List (Option Value)) : List Value :=
  found.map fun v => v.getD (.str "")

/-- Several findings are a list of as many values, whatever they are, or nothing. -/
theorem Value.simplify_of_several {found : List (Option Value)} (h : 2 ≤ found.length) :
    simplify found =
      if found.all Option.isNone then none else some (.list (filledIn found)) := by
  match found, h with
  | _ :: _ :: _, _ => rfl

namespace Context

variable {ctx : Context} {f : Field}

/-- What the locators of a field find, each in its place. -/
def Finds (ctx : Context) (f : Field) (found : List (Option Value)) : Prop :=
  List.Forall₂ (fun l v => (ctx.resolveFor f l).value = .ok v) f.locators found

/-- **A field with several locators comes to the list of what they find**, if none of them fails. -/
theorem resolveField_eq_ok_iff (hseveral : 2 ≤ f.locators.length) {v : Option Value} :
    (ctx.resolveField f).value = .ok v ↔ ∃ found, ctx.Finds f found ∧
      v = if found.all Option.isNone then none else some (.list (Value.filledIn found)) := by
  have hsimplify : ∀ {found}, ctx.Finds f found → Value.simplify found =
      if found.all Option.isNone then none else some (.list (Value.filledIn found)) :=
    fun hfound => Value.simplify_of_several (hfound.length_eq ▸ hseveral)
  rw [value_resolveField, map_eq_ok]
  constructor
  · rintro ⟨found, hfound, rfl⟩
    have hfinds : ctx.Finds f found := mapM_eq_ok_iff.1 hfound
    exact ⟨found, hfinds, hsimplify hfinds⟩
  · rintro ⟨found, hfinds, rfl⟩
    exact ⟨found, mapM_eq_ok_iff.2 hfinds, hsimplify hfinds⟩

/-- What a field with several locators comes to, if anything, has one value for each of them. -/
theorem list_of_resolveField (hseveral : 2 ≤ f.locators.length) {v : Value}
    (h : (ctx.resolveField f).value = .ok (some v)) :
    ∃ items, v = .list items ∧ items.length = f.locators.length := by
  obtain ⟨found, hfinds, hv⟩ := (resolveField_eq_ok_iff hseveral).1 h
  split at hv
  · cases hv
  · cases hv
    exact ⟨Value.filledIn found, rfl, (List.length_map _).trans hfinds.length_eq.symm⟩

end Context

namespace Field

variable {f : Field} {items : List Value}

/-- Values in the forms in which the field keeps them, each with the locator of its place. -/
def paired (f : Field) (items : List Value) : Except Failure (List (Locator × Value)) :=
  (f.locators.zip items).mapM fun e => (f.normalize e.1 e.2).map fun v => (e.1, v)

/-- Values that are gathered can fail only to be written. -/
theorem gathered_fails (f : Field) (parts : List (Locator × Value)) :
    FailsOnly Failure.IsUnprintable (f.gathered parts) := by
  unfold gathered
  split
  · exact .ok _
  · exact (FailsOnly.mapM fun part _ => partText_fails part.1 part.2).map

/-- If there are as many values as locators, no value is left to the first locator. -/
theorem placed_eq_paired (first : Locator) (h : items.length = f.locators.length) :
    f.placed first items = f.paired items := by
  have hzip : f.locators.zip items = items.zipIdx.map fun e => (f.located first e.2, e.1) := by
    refine List.ext_getElem (by simp [h]) fun i hi _ => ?_
    have hlocator : i < f.locators.length := by
      rw [List.length_zip] at hi
      omega
    simp [located, hlocator]
  unfold placed paired
  rw [hzip, List.mapM_map]
  rfl

/-- Each value is kept in the form that the locator at its place asks for. -/
theorem pairs_of_paired (h : items.length = f.locators.length) {parts : List (Locator × Value)}
    (hparts : f.paired items = .ok parts) :
    parts.map (·.1) = f.locators ∧
      List.Forall₂ (fun v part => f.normalize part.1 v = .ok part.2) items parts := by
  have hpairs : List.Forall₂ (fun e part => part.1 = e.1 ∧ f.normalize part.1 e.2 = .ok part.2)
      (f.locators.zip items) parts := by
    refine (mapM_eq_ok_iff.1 hparts).imp fun e part hpart => ?_
    obtain ⟨w, hw, rfl⟩ := map_eq_ok.1 hpart
    exact ⟨rfl, hw⟩
  constructor
  · rw [map_eq_of_pairs hpairs fun _ _ hpart => hpart.1]
    exact List.map_fst_zip (Nat.le_of_eq h.symm)
  · have hvalues : List.Forall₂ (fun v part => f.normalize part.1 v = .ok part.2)
        ((f.locators.zip items).map (·.2)) parts :=
      List.forall₂_map_left_iff.2 (hpairs.imp fun _ _ hpart => hpart.2)
    rwa [List.map_snd_zip (Nat.le_of_eq h)] at hvalues

/-- As many values as locators are settled place by place. -/
theorem settled_list (hsingle : f.isEnumeration = false) (hseveral : 2 ≤ f.locators.length)
    (h : items.length = f.locators.length) :
    f.settled (.list items) = f.paired items >>= f.gathered := by
  have hfirst : ∃ first, f.settled (.list items) = f.joined first items := by
    unfold settled
    cases hlocators : f.locators with
    | nil => exact absurd hseveral (by simp [hlocators])
    | cons first rest => exact ⟨first, rfl⟩
  obtain ⟨first, hjoined⟩ := hfirst
  have hcount : ¬ (1 < f.locators.length && f.locators.length != items.length) = true := by
    simp [h]
  rw [hjoined, joined_eq, placed_eq_paired first h, hsingle, if_neg hcount]
  cases f.paired items <;> rfl

theorem unwrapped_list (h : 2 ≤ items.length) : unwrapped (.list items) = .list items := by
  match items, h with
  | _ :: _ :: _, _ => rfl

end Field

namespace Record

variable {f : Field} {items : List Value}

/-- **A record takes as many values as locators place by place**: each value in the form and the
spelling that its own locator gives it. -/
theorem apply_list (r : Record) (hsingle : f.isEnumeration = false)
    (hseveral : 2 ≤ f.locators.length) (h : items.length = f.locators.length) :
    r.apply f (.list items) = (do
      let parts ← f.paired items
      let v ← f.gathered parts
      let facts ← (r.facts.setAs f.name (f.locators.head?.map Locator.timeFormat) v).mapError
        (Failure.inField f.name)
      return r.withFacts facts) := by
  unfold apply
  rw [Field.unwrapped_list (h ▸ hseveral), Field.settled_list hsingle hseveral h]
  cases f.paired items <;> rfl

/-- A record that does not take as many values as locators refuses one for what it is, or cannot
write one. -/
theorem apply_list_refuses (r : Record) (hsingle : f.isEnumeration = false)
    (hseveral : 2 ≤ f.locators.length) (h : items.length = f.locators.length) :
    FailsOnly (fun e => e.IsRefusal ∨ e.IsUnprintable) (r.apply f (.list items)) := by
  rw [apply_list r hsingle hseveral h]
  have hpaired : FailsOnly Failure.IsRefusal (f.paired items) :=
    .mapM fun e _ => (f.normalize_refuses e.1 e.2).map
  refine (hpaired.mono fun _ => .inl).bind fun parts => ?_
  refine ((f.gathered_fails parts).mono fun _ => .inr).bind fun v => ?_
  refine FailsOnly.bind (.mapError fun e he => ?_) fun _ => .ok _
  have hrefusal := r.facts.setAs_refuses _ _ _ e he
  rw [Failure.IsFinal.inField_eq (.inl hrefusal.1)]
  exact .inl hrefusal

end Record

namespace Parser

variable {b : Blueprint} {p : Parser} {pf : ParserField Parser}

/-- An enumeration that was accepted has one locator at most. -/
theorem not_isEnumeration_of_build (hb : b.build = .ok p) (hpf : pf ∈ p.fields)
    (hseveral : 2 ≤ pf.field.locators.length) : pf.field.isEnumeration = false := by
  obtain ⟨_, resolver, _, -, hr, -, -⟩ := Blueprint.build_ok hb
  obtain ⟨-, -, hperm, -⟩ := Blueprint.fields_of_build hb
  have hown : pf.field ∈ Blueprint.own b.fields := (hperm.map _).subset (List.mem_map_of_mem hpf)
  have hacceptable := (Blueprint.checkFields_ok_iff.1 ⟨resolver, hr⟩).1 pf.field hown
  refine (Bool.not_eq_true _).mp fun henumeration => ?_
  have hsingle := hacceptable.single henumeration
  omega

/-- **Several locators.** Let a field of a parser that was built have several locators, and not
stand for one field per element of its value. In every context it fails with the first of its
locators that does, or it comes to nothing, or to a list that has for each locator what it finds
there, whatever that is, or an empty text. A list is offered to the stacked parsers and taken into
the record as a whole: each of its values in the form and the spelling of the locator at its own
place. So the record never refuses the list for the number of its values. -/
theorem fillField_of_several (hb : b.build = .ok p) (hpf : pf ∈ p.fields)
    (hdynamic : pf.field.isDynamic = false) (hsplit : pf.field.isSplit = false)
    (hseveral : 2 ≤ pf.field.locators.length) (ctx : Context) :
    (∀ v, (ctx.resolveField pf.field).value = .ok v ↔ ∃ found, ctx.Finds pf.field found ∧
      v = if found.all Option.isNone then none else some (.list (Value.filledIn found))) ∧
    (∀ e, (ctx.resolveField pf.field).value = .error e ↔
      ∃ before l after, pf.field.locators = before ++ l :: after ∧
        (∀ l' ∈ before, ∃ v, (ctx.resolveFor pf.field l').value = .ok v) ∧
        (ctx.resolveFor pf.field l).value = .error e) ∧
    ∀ v, (ctx.resolveField pf.field).value = .ok (some v) →
      ∃ items, v = .list items ∧ items.length = pf.field.locators.length ∧
        (∀ s, (fillField pf ctx).on s = (do
          let (next, accepted) ← offer pf.stacked v ctx
          if accepted then return next
          else return { next with record := ← next.record.apply pf.field v } : Attempt Context).on
            ((ctx.resolveField pf.field).session s)) ∧
        ∀ r : Record,
          (r.apply pf.field v = do
            let parts ← pf.field.paired items
            let v ← pf.field.gathered parts
            let facts ← (r.facts.setAs pf.field.name
              (pf.field.locators.head?.map Locator.timeFormat) v).mapError
              (Failure.inField pf.field.name)
            return r.withFacts facts) ∧
          (∀ parts, pf.field.paired items = .ok parts → parts.map (·.1) = pf.field.locators ∧
            List.Forall₂ (fun v part => pf.field.normalize part.1 v = .ok part.2) items parts) ∧
          ∀ e, r.apply pf.field v = .error e → e.IsUnfit ∧ ¬ e.IsMismatch := by
  have hsingle := not_isEnumeration_of_build hb hpf hseveral
  refine ⟨fun v => Context.resolveField_eq_ok_iff hseveral,
    fun e => Context.resolveField_eq_error_iff, fun v hv => ?_⟩
  obtain ⟨items, rfl, hlength⟩ := Context.list_of_resolveField hseveral hv
  -- a field of several locators is not spread, so stacked parsers get the list as a whole
  have hspread : ¬ isSpread pf.field (.list items) = true := by
    simp [isSpread, hdynamic, hsplit]
  refine ⟨items, rfl, hlength, ?_, fun r => ⟨r.apply_list hsingle hseveral hlength, ?_, ?_⟩⟩
  · intro s
    rw [fillField_of_some hv]
    unfold take
    rw [if_neg hspread]
  · intro parts hparts
    exact Field.pairs_of_paired hlength hparts
  · intro e he
    rcases r.apply_list_refuses hsingle hseveral hlength e he with
      ⟨hfield, hmismatch⟩ | ⟨x, rfl⟩
    · exact ⟨.inl hfield, hmismatch⟩
    · exact ⟨.inr ⟨x, rfl⟩, by rintro ⟨_, _, _, ⟨⟩⟩⟩

/-- A field for a host, the times at which it came up and went down, and a port. -/
def endpoint : ParserField Parser :=
  ⟨{ name := "Location"
     locators :=
      [{ location := "host" },
       { location := "up", dataType := .asInput, pattern := some "%H:%M" },
       { location := "down", dataType := .asInput, pattern := some "%d.%m.%Y" },
       { location := "port" }]
     separator := "|" }, []⟩

/-- A blueprint with this field. -/
def endpoints : Blueprint where
  name := "endpoints"
  resolver := .map
  fields := [endpoint]

theorem build_endpoints : endpoints.build = .ok (.mk ⟨"endpoints", {}, .map⟩ [] [] [endpoint]) := by
  have hp : endpoints.base.setAll endpoints.properties = .ok {} := rfl
  have hr : Blueprint.checkFields endpoints.resolver [] (Blueprint.own endpoints.fields) =
      .ok .map := rfl
  rw [Blueprint.build_eq hp hr, Blueprint.arranged_of_no_edges
    (Blueprint.unknownReference?_eq_none_iff.1 (by decide)) (by decide)]
  rfl

/-- A context in which there are two hosts, two times and no port. -/
def twins : Context where
  host := { now := ⟨0⟩, env := fun _ => none }
  cache := default
  profile := ⟨"endpoints", {}, .map⟩
  source := { name := "test" }
  raw := .text ""
  data := .map
    [("host", .list [.str "a", .str "b"]), ("up", .instant ⟨60000000⟩),
      ("down", .instant ⟨90000000000⟩)]
  metadata := []
  record := .blank
  field := some "Location"
  outer := []

/-- What the locators find there: two hosts stand in the place of one, and the port leaves its place
empty. -/
def twinValues : List Value :=
  [.list [.str "a", .str "b"], .instant ⟨60000000⟩, .instant ⟨90000000000⟩, .str ""]

/-- Each time is written as the locator at its place says. -/
theorem twins_located :
    endpoints.build = .ok (.mk ⟨"endpoints", {}, .map⟩ [] [] [endpoint]) ∧
      endpoint.field.isDynamic = false ∧ endpoint.field.isSplit = false ∧
      endpoint.field.locators.length = 4 ∧
      (twins.resolveField endpoint.field).value = .ok (some (.list twinValues)) ∧
      ((twins.record.apply endpoint.field (.list twinValues)).toOption.bind
        fun r => r.facts.location) = some "[a, b]|00:01|02.01.1970|" := by
  have hdynamic : endpoint.field.isDynamic = false := by decide
  obtain ⟨hok, -, -⟩ :=
    fillField_of_several build_endpoints List.mem_cons_self hdynamic rfl (by decide) twins
  refine ⟨build_endpoints, hdynamic, rfl, rfl, ?_, by decide +kernel⟩
  exact (hok _).2 ⟨[some (.list [.str "a", .str "b"]), some (.instant ⟨60000000⟩),
    some (.instant ⟨90000000000⟩), none], .cons rfl (.cons rfl (.cons rfl (.cons rfl .nil))), rfl⟩

end Parser

end Intake
