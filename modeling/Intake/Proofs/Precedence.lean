import Mathlib.Data.List.Basic
import Intake.Proofs.Arrangement
import Intake.Proofs.Registration

/-!
# What fixes the place of a field

* `arranged_prefix`: fields that are declared first and need none of the others are filled first.
* `stands_before_iff`: **one field stands before another in every order of declaration exactly if
  the other one needs it**, directly or through declared fields in between.
* `borrower_stands_first`: a field that reads what a stacked parser brings into the record is not
  held back until that has happened.
-/

namespace Intake

open Relation

/-- Wherever both stand in the list, the first stands before the second. -/
def Before {α : Type} (l : List α) (s f : α) : Prop :=
  ∀ ⦃m n : Nat⦄, l[m]? = some s → l[n]? = some f → m < n

namespace Blueprint

/-- The field brings the name into the record: a parser stacked on it, whose record is merged, has
a field of this name. -/
def Lends (s : ParserField Parser) (name : String) : Prop :=
  ∃ t ∈ s.stacked, t.aggregation = .merge ∧
    ∃ g ∈ t.parser.fields, g.field.name = name ∧ g.field.isDynamic = false

variable {fields front back out : List (ParserField Parser)}

/-- Fields that could be arranged stand in an order of their places, or as they were declared. -/
theorem arranged_ok {arrange : Bool} (h : arranged arrange fields = .ok out) :
    ∃ order, (references (own fields)).order = .ok order ∧
      (out = order.filterMap (fun i => fields[i]?) ∨ out = fields) := by
  cases hunknown : unknownReference? (Parser.fieldsOfAll fields) (own fields) with
  | some e =>
    rw [arranged_of_unknown hunknown] at h
    cases h
  | none =>
    rcases shows_references.order_cases size_references with
      ⟨place, f, horder, hplace, -⟩ | ⟨-, order, horder⟩
    · rw [arranged_of_error hunknown horder hplace] at h
      cases h
    · rw [arranged_of_ok hunknown horder, Except.ok.injEq] at h
      refine ⟨order, horder, ?_⟩
      split at h
      · exact .inl h.symm
      · exact .inr h.symm

/-- **Fields that are declared first and need none of the others are filled first.** -/
theorem arranged_prefix {arrange : Bool}
    (hclosed : ∀ g ∈ back, ∀ f ∈ front, ¬ f.field.Needs g.field.name)
    (h : arranged arrange (front ++ back) = .ok out) :
    ∃ first rest, out = first ++ rest ∧ first.Perm front ∧ rest.Perm back := by
  obtain ⟨order, horder, rfl | rfl⟩ := arranged_ok h
  · rw [Graph.order_eq_orderOf among_references] at horder
    rw [size_references, List.length_map, List.length_append, List.range_add] at horder
    -- no edge leads from a field behind to one in front
    have hplaces : ∀ j i, Graph.Edge (references (own (front ++ back))).edges j i →
        i ∈ List.range front.length → j ∈ List.range front.length := by
      intro j i hedge hi
      obtain ⟨g, f, hg, hf, hneeds⟩ := edge_references.1 hedge
      rw [List.mem_range] at hi ⊢
      rcases Nat.lt_or_ge j front.length with hj | hj
      · exact hj
      exfalso
      unfold own at hg hf
      rw [List.map_append, List.getElem?_append_right (by simpa using hj)] at hg
      rw [List.map_append, List.getElem?_append_left (by simpa using hi)] at hf
      obtain ⟨g', hg', rfl⟩ := List.mem_map.1 (List.mem_of_getElem? hg)
      obtain ⟨f', hf', rfl⟩ := List.mem_map.1 (List.mem_of_getElem? hf)
      exact hclosed g' hg' f' hf' hneeds
    have hnodup : (List.range front.length ++
        (List.range back.length).map (front.length + ·)).Nodup := by
      rw [← List.range_add]
      exact List.nodup_range
    obtain ⟨first, rest, rfl, hfirst, hrest⟩ := Graph.orderOf_prefix hnodup hplaces horder
    refine ⟨_, _, List.filterMap_append, ?_, ?_⟩
    · -- places are turned back into fields, in front and behind
      calc (first.filterMap fun i => (front ++ back)[i]?).Perm
            ((List.range front.length).filterMap fun i => (front ++ back)[i]?) :=
          hfirst.filterMap _
        _ = (List.range front.length).filterMap fun i => front[i]? := by
          apply List.filterMap_congr
          intro i hi
          exact List.getElem?_append_left (List.mem_range.1 hi)
        _ = front := filterMap_getElem?_range front
    · calc (rest.filterMap fun i => (front ++ back)[i]?).Perm
            (((List.range back.length).map (front.length + ·)).filterMap
              fun i => (front ++ back)[i]?) := hrest.filterMap _
        _ = (List.range back.length).filterMap fun i => back[i]? := by
          rw [List.filterMap_map]
          apply List.filterMap_congr
          intro i _
          change (front ++ back)[front.length + i]? = back[i]?
          rw [List.getElem?_append_right (Nat.le_add_right _ _), Nat.add_sub_cancel_left]
        _ = back := filterMap_getElem?_range back
  · exact ⟨front, back, rfl, List.Perm.refl _, List.Perm.refl _⟩

/-- What fields need is not changed by the order in which they are declared. -/
theorem precedes_of_perm {own own' : List Field} (h : own'.Perm own) :
    Precedes own' = Precedes own := by
  funext g f
  simp only [Precedes, h.mem_iff]

theorem unresolved_of_perm {fields' : List (ParserField Parser)} (h : fields'.Perm fields)
    (hunresolved : Unresolved fields') : Unresolved fields := by
  obtain ⟨⟨f, name, hf, hneeds, hunknown⟩, hstatic⟩ := hunresolved
  refine ⟨⟨f, name, (h.map _).mem_iff.1 hf, hneeds, ?_⟩, ?_⟩
  · intro g hg
    exact hunknown g (hg.mono h.symm.subset)
  · intro g hg
    exact hstatic g (hg.mono h.symm.subset)

/-- A field stands after all that it needs, directly or through declared fields in between. -/
theorem InOrder.before (h : InOrder fields) {s f : ParserField Parser}
    (hneeds : TransGen (Precedes (own fields)) s.field f.field) : Before fields s f := by
  intro m n hm hn
  have hfollows : Follows (Precedes (own fields)) (own fields) := by
    intro j i a b hj hi hab
    rw [List.getElem?_map, Option.map_eq_some_iff] at hj hi
    obtain ⟨g, hg, rfl⟩ := hj
    obtain ⟨f, hf, rfl⟩ := hi
    exact h hg hf hab.2.2
  exact hfollows.lt_of_transGen (fun a b hab => hab.1) hneeds (by simp [hm]) (by simp [hn])

/-- What is known of the fields of a parser that was built. -/
theorem fields_of_build {b : Blueprint} {p : Parser} (hb : b.build = .ok p) :
    ¬ Unresolved b.fields ∧ (∀ f, ¬ TransGen (Precedes (own b.fields)) f f) ∧
      p.fields.Perm b.fields ∧
      (p.profile.properties.arrangeFields = true → InOrder p.fields) := by
  obtain ⟨properties, resolver, fields, -, -, hfields, rfl⟩ := build_ok hb
  rcases arranged_cases properties.arrangeFields b.fields with
    ⟨-, f, name, -, heq⟩ | ⟨-, f, -, heq⟩ | ⟨hresolved, hacyclic, out, heq, hperm, -, hon⟩
  · cases heq.symm.trans hfields
  · cases heq.symm.trans hfields
  · obtain rfl : out = fields := Except.ok.inj (heq.symm.trans hfields)
    exact ⟨hresolved, hacyclic, hperm, hon⟩

/-- The properties of a parser do not depend on its fields. -/
theorem properties_of_build {b : Blueprint} {p p' : Parser} (hb : b.build = .ok p)
    (hb' : { b with fields }.build = .ok p') : p'.profile.properties = p.profile.properties := by
  obtain ⟨properties, _, _, hp, -, -, rfl⟩ := build_ok hb
  obtain ⟨properties', _, _, hp', -, -, rfl⟩ := build_ok hb'
  exact Except.ok.inj (hp'.symm.trans hp)

/-- A field that another one needs stands before it, in whatever order the fields are declared. -/
theorem before_of_needs {b : Blueprint} {p p' : Parser} (hb : b.build = .ok p)
    (harrange : p.profile.properties.arrangeFields = true) {s f : ParserField Parser}
    (hneeds : TransGen (Precedes (own b.fields)) s.field f.field) (hperm : fields.Perm b.fields)
    (hb' : { b with fields }.build = .ok p') : Before p'.fields s f := by
  obtain ⟨-, -, hperm', hinorder⟩ := fields_of_build hb'
  rw [properties_of_build hb hb'] at hinorder
  apply (hinorder harrange).before
  rw [precedes_of_perm ((hperm'.trans hperm).map _)]
  exact hneeds

/-- A parser can be built from the fields in another order, if that order is accepted. -/
theorem build_of_perm {b : Blueprint} {p : Parser} (hb : b.build = .ok p)
    (hperm : fields.Perm b.fields) (hpair : (own fields).Pairwise MayFollow) :
    ∃ p', { b with fields }.build = .ok p' ∧
      arranged p.profile.properties.arrangeFields fields = .ok p'.fields := by
  obtain ⟨hresolved, hacyclic, -, -⟩ := fields_of_build hb
  obtain ⟨properties, resolver, _, hp, hr, -, rfl⟩ := build_ok hb
  obtain ⟨resolver', hr'⟩ := checkFields_of_perm (hperm.map _) hpair hr
  have hbuild := build_eq (b := { b with fields }) hp hr'
  rcases arranged_cases properties.arrangeFields fields with
    ⟨hunresolved, -⟩ | ⟨-, f, hcycle, -⟩ | ⟨-, -, out, heq, -⟩
  · exact absurd (unresolved_of_perm hperm hunresolved) hresolved
  · rw [precedes_of_perm (hperm.map _)] at hcycle
    exact absurd hcycle (hacyclic f)
  · dsimp only at hbuild
    rw [heq] at hbuild
    exact ⟨_, hbuild, heq⟩

/-- The field is this one, or this one needs it, directly or through fields in between. -/
def UpTo (fields : List (ParserField Parser)) (f g : ParserField Parser) : Prop :=
  g = f ∨ TransGen (Precedes (own fields)) g.field f.field

/-- What a field needs that is needed for another one is needed for that one too. -/
theorem UpTo.of_needs {f g h : ParserField Parser} (hg : UpTo fields f g) (hgm : g ∈ fields)
    (hhm : h ∈ fields) (hneeds : g.field.Needs h.field.name) : UpTo fields f h := by
  have hstep : Precedes (own fields) h.field g.field :=
    ⟨List.mem_map_of_mem hhm, List.mem_map_of_mem hgm, hneeds⟩
  rcases hg with rfl | hg
  · exact .inr (.single hstep)
  · exact .inr (.head hstep hg)

/-- If no other field has the name of a field, all fields of one name are needed for it or none. -/
theorem UpTo.of_name {f g h : ParserField Parser}
    (hname : ∀ g ∈ fields, g.field.name = f.field.name → g = f) (hg : UpTo fields f g)
    (hhm : h ∈ fields) (heq : h.field.name = g.field.name) : UpTo fields f h := by
  rcases hg with rfl | hg
  · exact .inl (hname h hhm heq)
  · obtain ⟨x, hx, hrest⟩ := TransGen.head'_iff.1 hg
    have hstep : Precedes (own fields) h.field x :=
      ⟨List.mem_map_of_mem hhm, hx.2.1, heq ▸ hx.2.2⟩
    exact .inr (TransGen.head' hstep hrest)

/-- Fields can be declared so that one of them is filled after those that it needs, and before all
others. If no other field has its name, what was accepted before is accepted then. -/
theorem exists_order_first {b : Blueprint} {p : Parser} (hb : b.build = .ok p)
    {f : ParserField Parser} (hf : f ∈ b.fields)
    (hname : ∀ g ∈ b.fields, g.field.name = f.field.name → g = f) :
    ∃ fields, fields.Perm b.fields ∧ ∃ p', { b with fields }.build = .ok p' ∧
      ∃ first rest, p'.fields = first ++ rest ∧ f ∈ first ∧ ∀ g ∈ first, UpTo b.fields f g := by
  classical
  -- what the field needs, at any remove, is declared in front of all the rest
  let front := b.fields.filter fun g => decide (UpTo b.fields f g)
  let back := b.fields.filter fun g => !decide (UpTo b.fields f g)
  have hfront : ∀ g ∈ front, g ∈ b.fields ∧ UpTo b.fields f g := by
    intro g hg
    simpa [front] using hg
  have hback : ∀ g ∈ back, g ∈ b.fields ∧ ¬ UpTo b.fields f g := by
    intro g hg
    simpa [back] using hg
  have hperm : (front ++ back).Perm b.fields := List.filter_append_perm _ _
  -- only fields of one name may not be moved past each other, and none of them is
  have hpair : (own (front ++ back)).Pairwise MayFollow := by
    obtain ⟨_, resolver, _, -, hr, -⟩ := build_ok hb
    obtain ⟨-, -, hdeclared⟩ := checkFields_ok_iff.1 ⟨resolver, hr⟩
    rw [List.pairwise_map] at hdeclared ⊢
    refine List.pairwise_append.2 ⟨hdeclared.sublist List.filter_sublist,
      hdeclared.sublist List.filter_sublist, ?_⟩
    intro g hg h hh _ heq
    exact (hback h hh).2 ((hfront g hg).2.of_name hname (hback h hh).1 heq.symm)
  have hclosed : ∀ g ∈ back, ∀ h ∈ front, ¬ h.field.Needs g.field.name := by
    intro g hg h hh hneeds
    exact (hback g hg).2 ((hfront h hh).2.of_needs (hfront h hh).1 (hback g hg).1 hneeds)
  obtain ⟨p', hb', harranged⟩ := build_of_perm hb hperm hpair
  obtain ⟨first, rest, heq, hfirst, -⟩ := arranged_prefix hclosed harranged
  refine ⟨_, hperm, p', hb', first, rest, heq, ?_, ?_⟩
  · exact hfirst.mem_iff.2 (List.mem_filter.2 ⟨hf, by simp [UpTo]⟩)
  · intro g hg
    exact (hfront g (hfirst.mem_iff.1 hg)).2

/-- Fields of which none needs another one stay as they were declared. -/
theorem arranged_of_no_edges {arrange : Bool} (hresolved : ¬ Unresolved fields)
    (hedges : (references (own fields)).edges = []) : arranged arrange fields = .ok fields := by
  have hacyclic : ∀ i, ¬ TransGen (Graph.Edge (references (own fields)).edges) i i := by
    intro i hi
    obtain ⟨j, hj, -⟩ := TransGen.head'_iff.1 hi
    rw [hedges] at hj
    exact absurd hj List.not_mem_nil
  obtain ⟨order, horder⟩ := (Graph.order_ok_iff among_references).2 hacyclic
  rw [arranged_of_ok (unknownReference?_eq_none_iff.2 hresolved) horder,
    if_neg (by simp [hedges])]

/-- **One field stands before another in every order of declaration exactly if the other one needs
it**, directly or through declared fields in between. What the parsers stacked on the first one
bring into the record makes no difference. For a field that shares its name, the need is still
enough. -/
theorem stands_before_iff {b : Blueprint} {p : Parser} (hb : b.build = .ok p)
    (harrange : p.profile.properties.arrangeFields = true) {s f : ParserField Parser}
    (hs : s ∈ b.fields) (hf : f ∈ b.fields) :
    (TransGen (Precedes (own b.fields)) s.field f.field →
      ∀ fields, fields.Perm b.fields → ∀ p', { b with fields }.build = .ok p' →
        Before p'.fields s f) ∧
    ((∀ g ∈ b.fields, g.field.name = f.field.name → g = f) →
      (∀ fields, fields.Perm b.fields → ∀ p', { b with fields }.build = .ok p' →
        Before p'.fields s f) →
      TransGen (Precedes (own b.fields)) s.field f.field) := by
  constructor
  · intro hneeds fields hperm p' hb'
    exact before_of_needs hb harrange hneeds hperm hb'
  · -- in an order with the needs of `f` in front, whatever stands before `f` is one of them
    intro hname hbefore
    obtain ⟨fields, hperm, p', hb', first, rest, heq, hfirst, hupTo⟩ :=
      exists_order_first hb hf hname
    obtain ⟨-, -, hperm', -⟩ := fields_of_build hb'
    have hbefore := hbefore fields hperm p' hb'
    obtain ⟨n, hn⟩ := List.mem_iff_getElem?.1 hfirst
    have hlt : n < first.length := (List.getElem?_eq_some_iff.1 hn).1
    have hsf : s ∈ first := by
      obtain ⟨m, hm⟩ := List.mem_iff_getElem?.1 ((hperm'.trans hperm).mem_iff.2 hs)
      have hmn : m < n := hbefore hm (by rw [heq, List.getElem?_append_left hlt, hn])
      rw [heq, List.getElem?_append_left (Nat.lt_trans hmn hlt)] at hm
      exact List.mem_of_getElem? hm
    rcases hupTo s hsf with rfl | hneeds
    · exact absurd (hbefore (heq ▸ by rw [List.getElem?_append_left hlt, hn])
        (heq ▸ by rw [List.getElem?_append_left hlt, hn])) (Nat.lt_irrefl n)
    · exact hneeds

/-- A parser with one field, for a member of its items. -/
def innerBlueprint : Blueprint where
  name := "inner"
  resolver := .json
  fields := [⟨{ name := "Inner", locators := [{ location := "x" }] }, []⟩]

/-- The parser of this blueprint. -/
def inner : Parser := .mk ⟨"inner", {}, .json⟩ [] [] innerBlueprint.fields

/-- A field that the parser is stacked on. -/
def lender : ParserField Parser :=
  ⟨{ name := "Payload", locators := [{ location := "payload" }] }, [{ parser := inner }]⟩

/-- A field that is filled from the field of the stacked parser. -/
def borrower : ParserField Parser := ⟨copyOf "Message" "Inner", []⟩

/-- A blueprint with both, the borrower first. -/
def borrowing : Blueprint where
  name := "outer"
  resolver := .json
  fields := [borrower, lender]

theorem build_inner : innerBlueprint.build = .ok inner := by
  have hp : innerBlueprint.base.setAll innerBlueprint.properties = .ok {} := rfl
  have hr : checkFields innerBlueprint.resolver [] (own innerBlueprint.fields) = .ok .json := rfl
  rw [build_eq hp hr,
    arranged_of_no_edges (unknownReference?_eq_none_iff.1 (by decide)) (by decide)]
  rfl

theorem build_borrowing :
    borrowing.build = .ok (.mk ⟨"outer", {}, .json⟩ [] [] [borrower, lender]) := by
  have hp : borrowing.base.setAll borrowing.properties = .ok {} := rfl
  have hr : checkFields borrowing.resolver [] (own borrowing.fields) = .ok .json := rfl
  rw [build_eq hp hr,
    arranged_of_no_edges (unknownReference?_eq_none_iff.1 (by decide)) (by decide)]
  rfl

/-- A field whose references name none of the declared fields needs none of them. -/
theorem not_transGen_of_no_reference {own : List Field} {f : Field} (h : f.references = [])
    (g : Field) : ¬ TransGen (Precedes own) g f := by
  intro hg
  obtain ⟨x, -, hx⟩ := TransGen.tail'_iff.1 hg
  have := hx.2.2.refers
  rw [h] at this
  exact absurd this List.not_mem_nil

theorem not_transGen_lender_borrower :
    ¬ TransGen (Precedes (own borrowing.fields)) lender.field borrower.field := by
  intro h
  obtain ⟨x, -, hmem, -, hneeds⟩ := TransGen.tail'_iff.1 h
  have hname : x.name = "Inner" := by
    have hrefs : borrower.field.references = ["Inner"] := by decide
    have := hneeds.refers
    rw [hrefs] at this
    exact List.mem_singleton.1 this
  have hother : ∀ g ∈ own borrowing.fields, g.name ≠ "Inner" := by decide
  exact hother x hmem hname

theorem borrower_may_stand_first :
    borrowing.build = .ok (.mk ⟨"outer", {}, .json⟩ [] [] [borrower, lender]) ∧
      ({} : Properties).arrangeFields = true ∧ lender ∈ borrowing.fields ∧
      borrower ∈ borrowing.fields ∧
      ¬ ∀ fields, fields.Perm borrowing.fields → ∀ p', { borrowing with fields }.build = .ok p' →
        Before p'.fields lender borrower := by
  have hlender : lender ∈ borrowing.fields := List.mem_cons_of_mem _ List.mem_cons_self
  have hborrower : borrower ∈ borrowing.fields := List.mem_cons_self
  refine ⟨build_borrowing, rfl, hlender, hborrower, ?_⟩
  intro h
  refine not_transGen_lender_borrower
    ((stands_before_iff build_borrowing rfl hlender hborrower).2 ?_ h)
  intro g hg hname
  rcases List.mem_cons.1 hg with rfl | hg
  · rfl
  · obtain rfl := List.mem_singleton.1 hg
    exact absurd hname (by decide)

/-- **What a stacked parser brings into the record does not hold back the field that reads it**: the
name is known, so the parser is built, but the reader may be filled before its lender. -/
theorem borrower_stands_first :
    innerBlueprint.build = .ok inner ∧ ∃ p, borrowing.build = .ok p ∧
      p.profile.properties.arrangeFields = true ∧ p.fields = [borrower, lender] ∧
      borrower.field.Needs "Inner" ∧ (∀ g ∈ own p.fields, g.name ≠ "Inner") ∧
      Lends lender "Inner" ∧ ¬ TransGen (Precedes (own p.fields)) borrower.field lender.field ∧
      ¬ Before p.fields lender borrower := by
  refine ⟨build_inner, _, build_borrowing, rfl, rfl, mem_needs.1 (by decide), by decide, ?_, ?_, ?_⟩
  · exact ⟨_, List.mem_cons_self, rfl, _, List.mem_cons_self, rfl, by decide⟩
  · exact not_transGen_of_no_reference (by decide) _
  · intro h
    exact absurd (h (m := 1) (n := 0) rfl rfl) (by decide)

end Blueprint

end Intake
