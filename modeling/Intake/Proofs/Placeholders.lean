import Intake.Proofs.Elements
import Intake.Proofs.Naming
import Intake.Proofs.Pointing
import Intake.Proofs.Simulation
import Intake.Proofs.Template

/-!
# Locators for placeholders

A dynamic field has locators for the placeholders of its name. That one of them has to find a value
is not enforced.

* `Context.placeholder_stands`: a placeholder without a value stands in the names of all elements.
* `Parser.relaxed`: a parser whose locators for placeholders need not find anything, nor those of
  the parsers stacked on it.
* `Parser.parse_without_placeholder`: **an item is not dropped for want of a placeholder**: it comes
  to the same as if the locators for placeholders need not find anything.
* `Parser.nameless_kept`: an item that has a record though the name of its element is missing.
-/

namespace Intake

namespace Template

/-- What follows a placeholder follows its value, or the placeholder itself if it has none. -/
theorem fillOf_placeholder_suffix {f : String → Option String} {rest name after : List Char}
    (h : cutAtBrace rest = some (name, after)) :
    (fillOf f after).1 <:+ (fillOf f ('$' :: '{' :: rest)).1 := by
  rw [fillOf_placeholder h]
  cases f (String.ofList name) with
  | some text => exact List.suffix_append _ _
  | none => exact ⟨'$' :: '{' :: name ++ ['}'], by simp⟩

/-- A placeholder without a value stays where it is. -/
theorem fillOf_keeps {f : String → Option String} {name : String} (hf : f name = none)
    {cs : List Char} (h : name ∈ varsOf cs) : written name <:+: (fillOf f cs).1 := by
  fun_induction varsOf cs with
  | case1 rest name' after hcut _ hname ih =>
    exact (ih h).trans (fillOf_placeholder_suffix hcut).isInfix
  | case2 rest name' after hcut _ hname ih =>
    rcases List.mem_cons.1 h with rfl | h
    · rw [fillOf_placeholder hcut, hf]
      exact ⟨[], (fillOf f after).1, by simp [written]⟩
    · exact (ih h).trans (fillOf_placeholder_suffix hcut).isInfix
  | case3 rest hcut => exact absurd h List.not_mem_nil
  | case4 c rest hc ih =>
    rw [fillOf_of_text hc]
    exact (ih h).trans (List.suffix_cons _ _).isInfix
  | case5 => exact absurd h List.not_mem_nil

end Template

/-- The locator, which need not find a value. -/
def Locator.optional (l : Locator) : Locator :=
  { l with required := some false }

/-- The field, whose locators for placeholders need not find anything. -/
def Field.relaxed (f : Field) : Field :=
  { f with nameLocators := f.nameLocators.map fun e => (e.1, e.2.optional) }

namespace Parser

mutual

/-- The parser, whose locators for placeholders need not find anything. -/
def relaxed : Parser → Parser
  | mk profile preParsers filters fields => mk profile preParsers filters (relaxedFields fields)

/-- The fields, whose locators for placeholders need not find anything. -/
def relaxedFields : List (ParserField Parser) → List (ParserField Parser)
  | [] => []
  | ⟨f, stacked⟩ :: rest => ⟨f.relaxed, relaxedStacked stacked⟩ :: relaxedFields rest

/-- The stacked parsers, whose locators for placeholders need not find anything. -/
def relaxedStacked : List (Stacked Parser) → List (Stacked Parser)
  | [] => []
  | ⟨p, how, flatten⟩ :: rest => ⟨relaxed p, how, flatten⟩ :: relaxedStacked rest

end

end Parser

namespace Context

variable {ctx : Context} {f : Field}

/-- What a locator finds does not depend on whether it has to find something. -/
theorem resolve_optional (ctx : Context) (l : Locator) :
    ctx.resolve l.optional = ctx.resolve l := by
  have halike : l.PointsAlike l.optional := ⟨rfl, rfl, rfl, rfl, rfl, rfl, rfl⟩
  unfold resolve
  simp only [halike.lookup_eq, halike.formatted_eq]
  rfl

theorem placeholderValues_relaxed (ctx : Context) (f : Field) :
    ctx.placeholderValues f.relaxed = ctx.placeholderValues f := by
  unfold placeholderValues Field.relaxed
  rw [List.foldlM_map]
  simp only [resolve_optional]

/-- A placeholder for which no locator finds anything has no value. -/
theorem get?_placeholderValues {values : Keyed Value} {id : String}
    (hnone : ∀ l, (id, l) ∈ f.nameLocators → (ctx.resolve l).value = .ok none)
    (h : (ctx.placeholderValues f).value = .ok values) : Keyed.get? id values = none := by
  unfold placeholderValues at h
  have hstart : Keyed.get? id ([] : Keyed Value) = none := rfl
  generalize ([] : Keyed Value) = acc at h hstart
  generalize f.nameLocators = locators at h hnone
  induction locators generalizing acc with
  | nil =>
    cases h
    exact hstart
  | cons entry rest ih =>
    obtain ⟨id', l⟩ := entry
    rw [List.foldlM_cons, Resolving.value_bind, bind_eq_ok] at h
    obtain ⟨next, hnext, hrest⟩ := h
    refine ih _ ?_ hrest fun l' hl' => hnone l' (List.mem_cons_of_mem _ hl')
    rw [Resolving.value_bind, bind_eq_ok] at hnext
    obtain ⟨v, hv, hnext⟩ := hnext
    cases v with
    | none =>
      cases hnext
      exact hstart
    | some v =>
      cases hnext
      -- the locator that found something is one for another placeholder
      have hother : id' ≠ id := by
        rintro rfl
        rw [hnone l List.mem_cons_self] at hv
        cases hv
      rw [Keyed.get?_insert, if_neg hother, hstart]

/-- A placeholder without a value stands in the names of all elements. -/
theorem placeholder_stands {values : Keyed Value} {id : String} (hid : id ≠ Field.elementName)
    (hnone : Keyed.get? id values = none) (hname : id ∈ Template.vars f.name) {index : Nat}
    {naming : Naming} {entries : List (String × Value)} {e : Field × Value}
    (he : e ∈ elementFields f values index naming entries) :
    Template.written id <:+: e.1.name.toList := by
  induction entries generalizing index naming with
  | nil => exact absurd he List.not_mem_nil
  | cons entry rest ih =>
    obtain ⟨key, v⟩ := entry
    rw [elementFields] at he
    rcases List.mem_cons.1 he with rfl | he
    · have hlookup : Field.placeholder values index key id = none := by
        rw [Field.placeholder, if_neg hid, hnone]
        rfl
      have hown : Template.written id <:+: (f.forElement values index key).name.toList := by
        change _ <:+: (String.ofList _).toList
        rw [String.toList_ofList]
        exact Template.fillOf_keeps hlookup hname
      -- a number at the end of the name leaves the placeholder in it
      have hgiven : Template.written id <:+:
          (naming.give (f.forElement values index key).name).1.toList := by
        rcases naming.give_cases (f.forElement values index key).name with
          ⟨-, hgive⟩ | ⟨-, hgive⟩
        · rw [hgive]
          exact hown
        · rw [hgive, String.toList_append]
          exact hown.trans (List.prefix_append _ _).isInfix
      exact hgiven
    · exact ih he

theorem elementFields_relaxed (f : Field) (values : Keyed Value) (index : Nat) (naming : Naming)
    (entries : List (String × Value)) :
    elementFields f.relaxed values index naming entries =
      elementFields f values index naming entries := by
  induction entries generalizing index naming with
  | nil => rfl
  | cons entry rest ih =>
    simp only [elementFields]
    rw [ih]
    rfl

theorem spread_relaxed (ctx : Context) (f : Field) (v : Value) :
    ctx.spread f.relaxed v = ctx.spread f v := by
  unfold spread
  simp only [placeholderValues_relaxed, elementFields_relaxed]

end Context

namespace Parser

open Attempt

variable {ctx : Context}

theorem isSpread_relaxed (f : Field) (v : Value) : isSpread f.relaxed v = isSpread f v := by
  unfold isSpread Field.isDynamic Field.relaxed
  rw [List.isEmpty_map]

/-- A field comes to the same, whether or not its placeholders need a value. -/
theorem simulates_relaxed (f : Field) : f.Simulates Eq Eq f.relaxed := by
  refine ⟨rfl, isSpread_relaxed f, ?_, ?_, ?_⟩
  · rintro a _ rfl
    exact .resolving_same .eq rfl
  · rintro a _ rfl v
    exact (Parallel.resolving_same .eq (a.spread_relaxed f v).symm).mono fun r r' => .of_eq a
  · rintro a _ rfl v
    exact .of_eq (fun r => .of_eq a rfl) (a.record.apply f v)

mutual

theorem relaxed_simulates : (p : Parser) → Simulates Eq Eq Eq p p.relaxed
  | mk _ _ _ fields =>
    .of_profile_eq rfl (fun _ => .same _) (relaxedFields_simulate fields) fun _ => .same _

theorem relaxedFields_simulate : (fields : List (ParserField Parser)) →
    FieldsSimulate Eq Eq fields (relaxedFields fields)
  | [] => .nil
  | ⟨f, stacked⟩ :: rest =>
    .cons (simulates_relaxed f) (relaxedStacked_simulate stacked) (relaxedFields_simulate rest)

theorem relaxedStacked_simulate : (stacked : List (Stacked Parser)) →
    StackedSimulate Eq Eq stacked (relaxedStacked stacked)
  | [] => .nil
  | ⟨mk profile preParsers filters fields, _, _⟩ :: rest =>
    .cons_same (relaxed_simulates (mk profile preParsers filters fields)) rfl
      (relaxedStacked_simulate rest)

end

variable {p : Parser} {host : Host} {source : Source} {metadata : Keyed Value} {input : RawData}
  {session s s₁ : Session} {ctx₁ : Context} {pf : ParserField Parser}
  {before after : List (ParserField Parser)} {v : Value} {values : Keyed Value} {id : String}

/-- A field whose value is there is never what an item is dropped for. -/
theorem filled_of_parse_eq_none (h : p.Opens host source metadata input session ctx s)
    (hfields : p.fields = before ++ pf :: after) (hbefore : Filled before ctx s ctx₁ s₁)
    (hvalue : ((ctx₁.atField pf.field.name).resolveField pf.field).value = .ok (some v))
    (hnone : (p.parse host source metadata input session).result = .ok none) :
    ∃ ctx₂ s₂, (fillField pf (ctx₁.atField pf.field.name)).on s₁ = (.ok ctx₂, s₂) := by
  rw [parse_eq_none_iff h, hfields] at hnone
  rcases hfield : (fillField pf (ctx₁.atField pf.field.name)).on s₁ with ⟨e | ctx₂, s₂⟩
  · -- with its value there, the field fails for another reason, and the item with it
    have he : ¬ e.IsMissing := by
      intro he
      obtain ⟨e', hmissing, -⟩ :=
        Context.missing_iff_stopsAt.2 (fillField_isMissing_iff.1 ⟨e, s₂, hfield, he⟩)
      rw [hvalue] at hmissing
      cases hmissing
    obtain ⟨s₃, hgive, -⟩ := giveUp_of_not_isMissing he
    rw [fill_of_stuck hbefore hfield, hgive] at hnone
    cases hnone
  · exact ⟨ctx₂, s₂, rfl⟩

/-- **An item is not dropped for want of a placeholder.** Let the value of a dynamic field be there
when its turn comes, and let no locator find a value for one of its placeholders, be it that one has
to. Then the item comes to the same as if none had to; if it is dropped, then not for this field;
and all elements of the value are applied, under names in which the placeholder stands as it is
written. -/
theorem parse_without_placeholder (h : p.Opens host source metadata input session ctx s)
    (hfields : p.fields = before ++ pf :: after) (hbefore : Filled before ctx s ctx₁ s₁)
    (hdynamic : pf.field.isDynamic = true)
    (hvalue : ((ctx₁.atField pf.field.name).resolveField pf.field).value = .ok (some v))
    (hid : id ≠ Field.elementName)
    (hnone : ∀ l, (id, l) ∈ pf.field.nameLocators →
      ((ctx₁.atField pf.field.name).resolve l).value = .ok none)
    (hvalues : ((ctx₁.atField pf.field.name).placeholderValues pf.field).value = .ok values) :
    p.relaxed.parse host source metadata input session =
        p.parse host source metadata input session ∧
      ((p.parse host source metadata input session).result = .ok none →
        ∃ ctx₂ s₂, (fillField pf (ctx₁.atField pf.field.name)).on s₁ = (.ok ctx₂, s₂)) ∧
      ((fillField pf (ctx₁.atField pf.field.name)).on s₁).1 =
        ((ctx₁.atField pf.field.name).applyElements
          (Context.elementFields pf.field values 0 {} v.elements)).value.map
            (fun record => { ctx₁.atField pf.field.name with record }) ∧
      (id ∈ Template.vars pf.field.name →
        ∀ e ∈ Context.elementFields pf.field values 0 {} v.elements,
          Template.written id <:+: e.1.name.toList) := by
  -- dynamic locators are resolved without asking whether they have to find something
  refine ⟨(relaxed_simulates p).parse_eq .., filled_of_parse_eq_none h hfields hbefore hvalue, ?_, ?_⟩
  · have hspread : isSpread pf.field v = true := by simp [isSpread, hdynamic]
    rw [fillField_of_some hvalue, take_of_isSpread hspread]
    unfold Context.spread
    rw [Resolving.value_bind, hvalues]
    rfl
  · intro hname e he
    exact Context.placeholder_stands hid (Context.get?_placeholderValues hnone hvalues) hname he

/-- A field for readings, each under the name that stands at the same place in a list of names,
which has to be there. -/
def gauge : Field where
  name := "${Name}"
  locators := [{ location := "readings" }]
  nameLocators := [("Name", { location := "names", required := some true })]

/-- A parser for readings with names. -/
def gauges : Parser :=
  .mk ⟨"gauges", {}, .map⟩ [] [] [⟨gauge, []⟩]

/-- Two readings without names. -/
def unnamed : RawData := .map [("readings", .list [.str "1", .str "2"])]

/-- The context in which `gauges` fills its fields from `unnamed`. -/
def gaugesOpening : Context :=
  gauges.opening { now := ⟨0⟩, env := fun _ => none } { name := "test" } [] unnamed
    (.map [("readings", .list [.str "1", .str "2"])]) default

theorem gauges_relaxed :
    gauges.Opens gaugesOpening.host gaugesOpening.source [] unnamed untouched gaugesOpening
        untouched ∧
      gauges.relaxed.parse gaugesOpening.host gaugesOpening.source [] unnamed untouched =
        gauges.parse gaugesOpening.host gaugesOpening.source [] unnamed untouched ∧
      ∀ e ∈ Context.elementFields gauge [] 0 {} (Value.list [.str "1", .str "2"]).elements,
        Template.written "Name" <:+: e.1.name.toList := by
  have hopens : gauges.Opens gaugesOpening.host gaugesOpening.source [] unnamed untouched
      gaugesOpening untouched := ⟨unnamed, unnamed, unnamed, _, rfl, rfl, rfl, rfl⟩
  have hfields : gauges.fields = [] ++ (⟨gauge, []⟩ : ParserField Parser) :: [] := rfl
  have hvalue : ((gaugesOpening.atField gauge.name).resolveField gauge).value =
      .ok (some (.list [.str "1", .str "2"])) := rfl
  have hnone : ∀ l, ("Name", l) ∈ gauge.nameLocators →
      ((gaugesOpening.atField gauge.name).resolve l).value = .ok none := by
    intro l hl
    obtain ⟨-, rfl⟩ := Prod.mk.inj (List.mem_singleton.1 hl)
    rfl
  have hvalues : ((gaugesOpening.atField gauge.name).placeholderValues gauge).value = .ok [] := rfl
  obtain ⟨hsame, -, -, hnames⟩ := parse_without_placeholder hopens hfields .nil rfl hvalue
    (by decide) hnone hvalues
  exact ⟨hopens, hsame, hnames (by decide +kernel)⟩

/-- **An item has a record though a name that has to be there is missing**: its locator finds
nothing, and both elements are properties under the placeholder itself. -/
theorem nameless_kept :
    (gaugesOpening.atField gauge.name).Demands gauge
        { location := "names", required := some true } ∧
      ((gaugesOpening.atField gauge.name).resolve
        { location := "names", required := some true }).value = .ok none ∧
      ((gauges.parse gaugesOpening.host gaugesOpening.source [] unnamed untouched).result.map
          fun r => r.map fun r => r.facts.properties.map fun e => (e.1, e.2.text)).toOption =
        some (some [("${Name}", "1"), ("${Name}1", "2")]) :=
  ⟨rfl, rfl, by decide +kernel⟩

end Parser

end Intake
