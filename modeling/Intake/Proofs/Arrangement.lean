import Intake.Proofs.References

/-!
# The order in which fields are filled

* `arranged_cases`: all that can come of arranging fields. A name that nothing stands for is
  reported first, then a circle; else the fields are rearranged, none lost and none twice.
* `build_outcome`: **what building comes to**, for every list of fields that the resolver accepts.
-/

namespace Intake

open Relation

namespace Blueprint

/-- A declared field needs a name, and no field has it. -/
def Unknown (fields : List (ParserField Parser)) (f : Field) (name : String) : Prop :=
  f ∈ own fields ∧ f.Needs name ∧ ∀ g, Within fields g → g.name ≠ name

/-- The names of all fields are known beforehand. -/
def Static (fields : List (ParserField Parser)) : Prop :=
  ∀ g, Within fields g → g.isDynamic = false

/-- There is something wrong with the names that fields need. -/
def Unresolved (fields : List (ParserField Parser)) : Prop :=
  (∃ f name, Unknown fields f name) ∧ Static fields

/-- A field that another one needs stands before it. -/
abbrev InOrder (fields : List (ParserField Parser)) : Prop :=
  Follows (fun g f => f.field.Needs g.field.name) fields

variable {fields : List (ParserField Parser)}

theorem any_isDynamic_eq_false_iff :
    (Parser.fieldsOfAll fields).any Field.isDynamic = false ↔ Static fields := by
  rw [List.any_eq_false]
  constructor
  · intro h g hg
    simpa using h g (Parser.mem_fieldsOfAll.2 hg)
  · intro h g hg
    simpa using h g (Parser.mem_fieldsOfAll.1 hg)

/-- A need that is among no known names is one that no field stands for. -/
theorem not_any_name_iff {name : String} :
    (!(Parser.fieldsOfAll fields).any (·.name == name)) = true ↔
      ∀ g, Within fields g → g.name ≠ name := by
  rw [Bool.not_eq_true', List.any_eq_false]
  constructor
  · intro h g hg
    simpa using h g (Parser.mem_fieldsOfAll.2 hg)
  · intro h g hg
    simpa using h g (Parser.mem_fieldsOfAll.1 hg)

/-- A reference that is reported is one that nothing stands for. -/
theorem unknown_of_unknownReference? {e : Failure}
    (h : unknownReference? (Parser.fieldsOfAll fields) (own fields) = some e) :
    Static fields ∧ ∃ f name, Unknown fields f name ∧ e = .unknownReference f.name name := by
  unfold unknownReference? at h
  split at h
  · cases h
  · next hdyn =>
    refine ⟨any_isDynamic_eq_false_iff.1 (by simpa using hdyn), ?_⟩
    obtain ⟨f, hf, hfind⟩ := List.exists_of_findSome?_eq_some h
    obtain ⟨name, hname, rfl⟩ := Option.map_eq_some_iff.1 hfind
    have hneeds := mem_needs.1 (List.mem_of_find?_eq_some hname)
    have hunknown := List.find?_some
      (p := fun r => !(Parser.fieldsOfAll fields).any (·.name == r)) hname
    exact ⟨f, name, ⟨hf, hneeds, not_any_name_iff.1 hunknown⟩, rfl⟩

/-- A reference is reported if there is one that nothing stands for. -/
theorem unknownReference?_eq_none_iff :
    unknownReference? (Parser.fieldsOfAll fields) (own fields) = none ↔ ¬ Unresolved fields := by
  constructor
  · rintro h ⟨⟨f, name, hf, hneeds, hunknown⟩, hstatic⟩
    unfold unknownReference? at h
    rw [if_neg (by simpa using any_isDynamic_eq_false_iff.2 hstatic)] at h
    have hnone := List.findSome?_eq_none_iff.1 h f hf
    rw [Option.map_eq_none_iff, List.find?_eq_none] at hnone
    exact hnone name (mem_needs.2 hneeds) (not_any_name_iff.2 hunknown)
  · intro h
    cases he : unknownReference? (Parser.fieldsOfAll fields) (own fields) with
    | none => rfl
    | some e =>
      obtain ⟨hstatic, f, name, hunknown, -⟩ := unknown_of_unknownReference? he
      exact absurd ⟨⟨f, name, hunknown⟩, hstatic⟩ h

/-- The graph of references shows which declared field, with its stacked parsers, needs which. -/
theorem shows_declared :
    Graph.Shows (references (own fields)).edges fields fun g f => f.field.Needs g.field.name := by
  intro j i
  rw [edge_references]
  simp [List.getElem?_map]

/-- Fields in an order of their places are all of them, and those that are needed stand first. -/
theorem arranged_by_order {order : List Nat}
    (h : (references (own fields)).order = .ok order) :
    (order.filterMap fun i => fields[i]?).Perm fields ∧
      InOrder (order.filterMap fun i => fields[i]?) :=
  shows_declared.arranged (by rw [size_references, List.length_map]) h

/-- Without edges the declared order is one in which needed fields stand first. -/
theorem inOrder_of_no_edges (h : (references (own fields)).edges = []) : InOrder fields := by
  intro m n g f hm hn hneeds
  have hedge : Graph.Edge (references (own fields)).edges m n :=
    (shows_declared m n).2 ⟨g, f, hm, hn, hneeds⟩
  rw [h] at hedge
  exact absurd hedge List.not_mem_nil

theorem arranged_of_unknown {arrange : Bool} {e : Failure}
    (h : unknownReference? (Parser.fieldsOfAll fields) (own fields) = some e) :
    arranged arrange fields = .error e := by
  simp only [arranged, h]

theorem arranged_of_error {arrange : Bool} {place : Nat} {f : Field}
    (h : unknownReference? (Parser.fieldsOfAll fields) (own fields) = none)
    (horder : (references (own fields)).order = .error place)
    (hplace : (own fields)[place]? = some f) :
    arranged arrange fields = .error (.cyclicDependency f.name) := by
  simp only [arranged, h, horder, hplace, Option.elim]

theorem arranged_of_ok {arrange : Bool} {order : List Nat}
    (h : unknownReference? (Parser.fieldsOfAll fields) (own fields) = none)
    (horder : (references (own fields)).order = .ok order) :
    arranged arrange fields =
      .ok (if arrange && !(references (own fields)).edges.isEmpty
        then order.filterMap fun i => fields[i]? else fields) := by
  simp only [arranged, h, horder]

/-- **All that can come of arranging fields.** -/
theorem arranged_cases (arrange : Bool) (fields : List (ParserField Parser)) :
    (Unresolved fields ∧ ∃ f name, Unknown fields f name ∧
        arranged arrange fields = .error (.unknownReference f.name name)) ∨
    (¬ Unresolved fields ∧ ∃ f, TransGen (Precedes (own fields)) f f ∧
        arranged arrange fields = .error (.cyclicDependency f.name)) ∨
    (¬ Unresolved fields ∧ (∀ f, ¬ TransGen (Precedes (own fields)) f f) ∧
      ∃ out, arranged arrange fields = .ok out ∧ out.Perm fields ∧
        (arrange = false → out = fields) ∧ (arrange = true → InOrder out)) := by
  cases hunknown : unknownReference? (Parser.fieldsOfAll fields) (own fields) with
  | some e =>
    obtain ⟨hstatic, f, name, hf, rfl⟩ := unknown_of_unknownReference? hunknown
    exact .inl ⟨⟨⟨f, name, hf⟩, hstatic⟩, f, name, hf, arranged_of_unknown hunknown⟩
  | none =>
    have hresolved := unknownReference?_eq_none_iff.1 hunknown
    rcases shows_references.order_cases size_references with
      ⟨place, f, horder, hplace, hcircle⟩ | ⟨hacyclic, order, horder⟩
    · exact .inr (.inl ⟨hresolved, f, hcircle, arranged_of_error hunknown horder hplace⟩)
    · refine .inr (.inr ⟨hresolved, hacyclic, _, arranged_of_ok hunknown horder, ?_⟩)
      -- without edges nothing is moved, whatever the setting says
      by_cases hedges : (references (own fields)).edges = []
      · rw [if_neg (by simp [hedges])]
        exact ⟨List.Perm.refl _, fun _ => rfl, fun _ => inOrder_of_no_edges hedges⟩
      · obtain ⟨hperm, hinorder⟩ := arranged_by_order horder
        cases arrange with
        | false => exact ⟨List.Perm.refl _, fun _ => rfl, Bool.noConfusion⟩
        | true =>
          rw [if_pos (by simpa using hedges)]
          exact ⟨hperm, Bool.noConfusion, fun _ => hinorder⟩

/-- A blueprint whose properties and fields are accepted is built if its fields can be arranged. -/
theorem build_eq {b : Blueprint} {properties : Properties} {resolver : Resolver}
    (hp : b.base.setAll b.properties = .ok properties)
    (hr : checkFields b.resolver [] (own b.fields) = .ok resolver) :
    b.build = (arranged properties.arrangeFields b.fields).map fun fields =>
      .mk ⟨properties.parserName.getD b.name, properties, resolver⟩ b.preParsers b.filters
        fields := by
  unfold build
  rw [hp]
  change (checkFields b.resolver [] (own b.fields) >>= _) = _
  rw [hr]
  cases arranged properties.arrangeFields b.fields <;> rfl

/-- A parser that is built has been through all checks, and has the fields that were arranged. -/
theorem build_ok {b : Blueprint} {p : Parser} (h : b.build = .ok p) :
    ∃ properties resolver fields, b.base.setAll b.properties = .ok properties ∧
      checkFields b.resolver [] (own b.fields) = .ok resolver ∧
      arranged properties.arrangeFields b.fields = .ok fields ∧
      p = .mk ⟨properties.parserName.getD b.name, properties, resolver⟩ b.preParsers b.filters
        fields := by
  unfold build at h
  obtain ⟨properties, hp, h⟩ := bind_eq_ok.1 h
  obtain ⟨resolver, hr, h⟩ := bind_eq_ok.1 h
  obtain ⟨fields, hfields, h⟩ := bind_eq_ok.1 h
  cases h
  exact ⟨properties, resolver, fields, hp, hr, hfields, rfl⟩

/-- **What building comes to**, for every list of fields that the resolver accepts. A name that
nothing stands for is reported if there is one, while no field's name is open. If all names are
known, a circle of needs is reported by the name of a field on it. Else the parser is built: it has
the declared fields, each as often as it was declared, in the declared order, or, if they are to be
arranged, in one in which each field stands after those that it needs. -/
theorem build_outcome (b : Blueprint) {properties : Properties} {resolver : Resolver}
    (hp : b.base.setAll b.properties = .ok properties)
    (hr : checkFields b.resolver [] (own b.fields) = .ok resolver) :
    ((∃ f name, b.build = .error (.unknownReference f name)) ↔ Unresolved b.fields) ∧
    (∀ f name, b.build = .error (.unknownReference f name) →
      ∃ g, Unknown b.fields g name ∧ g.name = f) ∧
    (¬ Unresolved b.fields →
      ((∃ name, b.build = .error (.cyclicDependency name)) ↔
        ∃ f, TransGen (Precedes (own b.fields)) f f) ∧
      (∀ name, b.build = .error (.cyclicDependency name) →
        ∃ f, TransGen (Precedes (own b.fields)) f f ∧ f.name = name) ∧
      ((∀ f, ¬ TransGen (Precedes (own b.fields)) f f) →
        ∃ p, b.build = .ok p ∧ p.fields.Perm b.fields ∧
          (properties.arrangeFields = false → p.fields = b.fields) ∧
          (properties.arrangeFields = true → InOrder p.fields))) := by
  rw [build_eq hp hr]
  -- three outcomes, of which each excludes the other two
  rcases arranged_cases properties.arrangeFields b.fields with
    ⟨hunresolved, f, name, hunknown, heq⟩ | ⟨hresolved, f, hcycle, heq⟩ |
      ⟨hresolved, hacyclic, out, heq, hperm, hoff, hon⟩
  · rw [heq]
    refine ⟨?_, ?_, fun h => absurd hunresolved h⟩
    · exact ⟨fun _ => hunresolved, fun _ => ⟨f.name, name, rfl⟩⟩
    · intro f' name' h
      obtain ⟨rfl, rfl⟩ := Failure.unknownReference.inj (Except.error.inj h)
      exact ⟨f, hunknown, rfl⟩
  · rw [heq]
    refine ⟨?_, ?_, fun _ => ⟨?_, ?_, fun h => absurd hcycle (h f)⟩⟩
    · exact ⟨(by rintro ⟨_, _, h⟩; cases h), fun h => absurd h hresolved⟩
    · intro _ _ h
      cases h
    · exact ⟨fun _ => ⟨f, hcycle⟩, fun _ => ⟨f.name, rfl⟩⟩
    · intro name h
      obtain rfl := Failure.cyclicDependency.inj (Except.error.inj h)
      exact ⟨f, hcycle, rfl⟩
  · rw [heq]
    refine ⟨?_, ?_, fun _ => ⟨?_, ?_, fun _ => ⟨_, rfl, hperm, hoff, hon⟩⟩⟩
    · exact ⟨(by rintro ⟨_, _, h⟩; cases h), fun h => absurd h hresolved⟩
    · intro _ _ h
      cases h
    · exact ⟨(by rintro ⟨_, h⟩; cases h), fun ⟨f, hf⟩ => absurd hf (hacyclic f)⟩
    · intro _ h
      cases h

/-- A field that is filled from another one. -/
def copyOf (name other : String) : Field :=
  { name, locators := [{ kind := .activity, location := other }] }

/-- Two fields that are filled from each other. -/
def circle : Blueprint where
  name := "circle"
  resolver := .json
  fields := [⟨copyOf "A" "B", []⟩, ⟨copyOf "B" "A", []⟩]

theorem build_circle :
    circle.base.setAll circle.properties = .ok {} ∧
      checkFields circle.resolver [] (own circle.fields) = .ok .json ∧
      ¬ Unresolved circle.fields ∧
      ∃ name, circle.build = .error (.cyclicDependency name) := by
  have hp : circle.base.setAll circle.properties = .ok {} := rfl
  have hr : checkFields circle.resolver [] (own circle.fields) = .ok .json := rfl
  have hresolved : ¬ Unresolved circle.fields :=
    unknownReference?_eq_none_iff.1 (by decide)
  have hmem : ∀ f ∈ [copyOf "A" "B", copyOf "B" "A"], f ∈ own circle.fields := fun f hf => hf
  have hAB : Precedes (own circle.fields) (copyOf "A" "B") (copyOf "B" "A") :=
    ⟨hmem _ (by simp), hmem _ (by simp), mem_needs.1 (by decide)⟩
  have hBA : Precedes (own circle.fields) (copyOf "B" "A") (copyOf "A" "B") :=
    ⟨hmem _ (by simp), hmem _ (by simp), mem_needs.1 (by decide)⟩
  obtain ⟨-, -, hrest⟩ := build_outcome circle hp hr
  obtain ⟨hcycle, -, -⟩ := hrest hresolved
  exact ⟨hp, hr, hresolved, hcycle.2 ⟨_, TransGen.tail (TransGen.single hAB) hBA⟩⟩

end Blueprint

end Intake
