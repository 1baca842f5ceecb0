import Intake.Parser.Build
import Intake.Proofs.Order

/-!
# References between fields

Which fields a field needs, which fields there are for it, and how the places in the graph of
references stand for fields.

* `mem_fieldsOfAll`: the fields collected for a check are those of the parser and of all parsers
  stacked on them, however deep.
* `edge_references`, `shows_references`: there is an edge exactly where a field needs the name of
  another one.
-/

namespace Intake

/-- The name stands among the references of the field, and some field has to have it: it is no
name of an outer record, no placeholder for a whole input, and no slot that is filled by itself. -/
structure Field.Needs (f : Field) (name : String) : Prop where
  refers : name ∈ f.references
  not_parent : Template.isParentRef name = false
  not_context : Template.isContextName name = false
  not_auto : ∀ s, Slot.ofName? name = some s → s.isAutoAssigned = false

/-- A field of these fields, or of a parser stacked on one of them, and so on. -/
inductive Within : List (ParserField Parser) → Field → Prop
  | own {fields : List (ParserField Parser)} {pf : ParserField Parser} :
    pf ∈ fields → Within fields pf.field
  | stacked {fields : List (ParserField Parser)} {pf : ParserField Parser} {s : Stacked Parser}
      {f : Field} : pf ∈ fields → s ∈ pf.stacked → Within s.parser.fields f → Within fields f

theorem Within.mono {fields more : List (ParserField Parser)} {f : Field} (h : Within fields f)
    (hsub : fields ⊆ more) : Within more f := by
  cases h with
  | own hmem => exact .own (hsub hmem)
  | stacked hmem hs hf => exact .stacked (hsub hmem) hs hf

namespace Parser

mutual

theorem within_of_mem_allFields : ∀ (p : Parser) {f : Field}, f ∈ allFields p → Within p.fields f
  | .mk _ _ _ fields, _, h => by
    rw [allFields] at h
    exact within_of_mem_fieldsOfAll fields h

theorem within_of_mem_fieldsOfAll :
    ∀ (fields : List (ParserField Parser)) {f : Field}, f ∈ fieldsOfAll fields → Within fields f
  | [], _, h => by
    rw [fieldsOfAll] at h
    exact absurd h List.not_mem_nil
  | ⟨g, stacked⟩ :: rest, f, h => by
    rw [fieldsOfAll, List.cons_append, List.mem_cons, List.mem_append] at h
    rcases h with rfl | h | h
    · exact @Within.own _ ⟨f, stacked⟩ List.mem_cons_self
    · obtain ⟨s, hs, hf⟩ := within_of_mem_fieldsOfStacked stacked h
      exact .stacked List.mem_cons_self hs hf
    · exact (within_of_mem_fieldsOfAll rest h).mono (List.subset_cons_self _ _)

theorem within_of_mem_fieldsOfStacked :
    ∀ (stacked : List (Stacked Parser)) {f : Field}, f ∈ fieldsOfStacked stacked →
      ∃ s ∈ stacked, Within s.parser.fields f
  | [], _, h => by
    rw [fieldsOfStacked] at h
    exact absurd h List.not_mem_nil
  | ⟨p, how, flatten⟩ :: rest, _, h => by
    rw [fieldsOfStacked, List.mem_append] at h
    rcases h with h | h
    · exact ⟨⟨p, how, flatten⟩, List.mem_cons_self, within_of_mem_allFields p h⟩
    · obtain ⟨s, hs, hf⟩ := within_of_mem_fieldsOfStacked rest h
      exact ⟨s, List.mem_cons_of_mem _ hs, hf⟩

end

theorem fieldsOfStacked_subset {s : Stacked Parser} {stacked : List (Stacked Parser)}
    (h : s ∈ stacked) : fieldsOfAll s.parser.fields ⊆ fieldsOfStacked stacked := by
  induction stacked with
  | nil => exact absurd h List.not_mem_nil
  | cons t rest ih =>
    obtain ⟨p, how, flatten⟩ := t
    rw [fieldsOfStacked]
    rcases List.mem_cons.1 h with rfl | h
    · cases p with
      | mk profile preParsers filters fields =>
        rw [allFields]
        exact List.subset_append_left _ _
    · exact List.Subset.trans (ih h) (List.subset_append_right _ _)

theorem subset_fieldsOfAll {pf : ParserField Parser} {fields : List (ParserField Parser)}
    (h : pf ∈ fields) : pf.field :: fieldsOfStacked pf.stacked ⊆ fieldsOfAll fields := by
  induction fields with
  | nil => exact absurd h List.not_mem_nil
  | cons g rest ih =>
    rw [fieldsOfAll]
    rcases List.mem_cons.1 h with rfl | h
    · exact List.subset_append_left _ _
    · exact List.Subset.trans (ih h) (List.subset_append_right _ _)

/-- **The fields that are collected** are those of the parser and of all parsers stacked on them,
however deep. -/
theorem mem_fieldsOfAll {fields : List (ParserField Parser)} {f : Field} :
    f ∈ fieldsOfAll fields ↔ Within fields f := by
  constructor
  · exact within_of_mem_fieldsOfAll fields
  · intro h
    induction h with
    | own hmem => exact subset_fieldsOfAll hmem List.mem_cons_self
    | stacked hmem hs _ ih =>
      exact subset_fieldsOfAll hmem (List.mem_cons_of_mem _ (fieldsOfStacked_subset hs ih))

end Parser

namespace Blueprint

/-- The fields that are declared, without the parsers stacked on them. -/
abbrev own (fields : List (ParserField Parser)) : List Field := fields.map (·.field)

/-- The second of two declared fields needs the name of the first. -/
def Precedes (fields : List Field) (g f : Field) : Prop :=
  g ∈ fields ∧ f ∈ fields ∧ f.Needs g.name

theorem isExempt_eq_false_iff {name : String} :
    isExempt name = false ↔ Template.isParentRef name = false ∧
      Template.isContextName name = false ∧
        ∀ s, Slot.ofName? name = some s → s.isAutoAssigned = false := by
  unfold isExempt
  cases Slot.ofName? name <;> simp [and_assoc]

theorem mem_needs {f : Field} {name : String} : name ∈ needs f ↔ f.Needs name := by
  rw [needs, List.mem_filter, Bool.not_eq_true', isExempt_eq_false_iff]
  constructor
  · rintro ⟨h, hp, hc, ha⟩
    exact ⟨h, hp, hc, ha⟩
  · intro h
    exact ⟨h.refers, h.not_parent, h.not_context, h.not_auto⟩

variable {fields : List Field}

theorem mem_placesOf {name : String} {i : Nat} :
    i ∈ placesOf fields name ↔ ∃ f, fields[i]? = some f ∧ f.name = name := by
  simp only [placesOf, List.mem_map, List.mem_filter, Prod.exists, List.mem_zipIdx_iff_getElem?,
    beq_iff_eq]
  constructor
  · rintro ⟨f, j, ⟨hj, hname⟩, rfl⟩
    exact ⟨f, hj, hname⟩
  · rintro ⟨f, hi, hname⟩
    exact ⟨f, i, ⟨hi, hname⟩, rfl⟩

@[simp] theorem size_references : (references fields).size = fields.length :=
  Graph.size_ofEdges _ _

/-- **There is an edge exactly where a field needs the name of another one.** -/
theorem edge_references {i j : Nat} :
    Graph.Edge (references fields).edges j i ↔
      ∃ g f, fields[j]? = some g ∧ fields[i]? = some f ∧ f.Needs g.name := by
  simp only [references, Graph.edge_ofEdges, List.mem_flatMap, List.mem_map, Prod.exists,
    List.mem_zipIdx_iff_getElem?, mem_needs, mem_placesOf]
  constructor
  · rintro ⟨f, k, hf, name, hneeds, l, ⟨g, hg, rfl⟩, heq⟩
    obtain ⟨rfl, rfl⟩ := Prod.mk.inj heq
    exact ⟨g, f, hg, hf, hneeds⟩
  · rintro ⟨g, f, hg, hf, hneeds⟩
    exact ⟨f, i, hf, g.name, hneeds, j, ⟨g, hg, rfl⟩, rfl⟩

/-- The graph of references shows which field needs which. -/
theorem shows_references :
    Graph.Shows (references fields).edges fields fun g f => f.Needs g.name :=
  fun _ _ => edge_references

theorem among_references :
    Graph.Among (references fields).edges (List.range (references fields).size) := by
  rw [size_references]
  exact shows_references.among rfl

end Blueprint

end Intake
