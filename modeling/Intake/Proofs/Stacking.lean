import Intake.Proofs.Order
import Intake.Registry

/-!
# References between definitions

Which definitions stack which, and what a registry finds wrong with a list of definitions before it
builds any parser.

* `Sound`: every name stands for one definition, and no definition has to be built before itself.
* `duplicate?_eq_some`, `undefined?_eq_some`: what is reported of names.
* `shows_references`: the graph of references shows which definition is stacked on which.
* `order_cases`: sound definitions can be ordered, each after those that it stacks; of others with
  known names one on a circle is reported.
-/

namespace Intake

open Relation

namespace Registry

/-- The names of definitions. -/
abbrev names (ds : List Definition) : List String := ds.map (·.name)

/-- The parser of the first definition is stacked on a field of the second. -/
abbrev Under (a b : Definition) : Prop := a.name ∈ b.stackedNames

/-- A chain of definitions of a list, each stacked on a field of the next. -/
abbrev Below (ds : List Definition) : Definition → Definition → Prop :=
  TransGen (Graph.Between ds Under)

/-- Every name stands for one definition, and no definition is stacked on itself, not even through
others. -/
structure Sound (ds : List Definition) : Prop where
  nodup : (names ds).Nodup
  defined : ∀ d ∈ ds, d.stackedNames ⊆ names ds
  acyclic : ∀ d, ¬ Below ds d d

/-- Every definition stands after all those that are stacked on it. -/
def StackedFirst (order : List Definition) : Prop :=
  ∀ before d after, order = before ++ d :: after → d.stackedNames ⊆ names before

variable {ds : List Definition} {d : Definition} {name : String}

/-- What is wrong with definitions does not depend on their order. -/
theorem Sound.of_perm {ds' : List Definition} (h : Sound ds) (hperm : ds'.Perm ds) : Sound ds' := by
  have hnames : (names ds').Perm (names ds) := hperm.map _
  have hbetween : Graph.Between ds' Under = Graph.Between ds Under := by
    funext a b
    simp only [Graph.Between, hperm.mem_iff]
  refine ⟨hnames.nodup_iff.2 h.nodup, ?_, ?_⟩
  · intro d hd name hname
    exact hnames.mem_iff.2 (h.defined d (hperm.mem_iff.1 hd) hname)
  · intro d hd
    rw [Below, hbetween] at hd
    exact h.acyclic d hd

/-! ### Names -/

/-- The definition that is reported has the name of an earlier one. -/
theorem duplicate?_eq_some {seen : List String} (h : duplicate? seen ds = some d) :
    ∃ before after, ds = before ++ d :: after ∧ (d.name ∈ seen ∨ d.name ∈ names before) := by
  fun_induction duplicate? seen ds with
  | case1 => cases h
  | case2 seen a rest hseen =>
    obtain rfl : a = d := Option.some.inj h
    exact ⟨[], rest, rfl, .inl hseen⟩
  | case3 seen a rest hnew ih =>
    obtain ⟨before, after, rfl, hmem⟩ := ih h
    refine ⟨a :: before, after, rfl, ?_⟩
    rcases hmem with hmem | hmem
    · rcases List.mem_cons.1 hmem with heq | hmem
      · exact .inr (heq ▸ List.mem_cons_self)
      · exact .inl hmem
    · exact .inr (List.mem_cons_of_mem _ hmem)

theorem duplicate?_eq_none_iff {seen : List String} :
    duplicate? seen ds = none ↔ (names ds).Nodup ∧ ∀ n ∈ names ds, n ∉ seen := by
  fun_induction duplicate? seen ds with
  | case1 => simp
  | case2 seen a rest hseen =>
    constructor
    · intro h
      cases h
    · rintro ⟨-, h⟩
      exact absurd hseen (h a.name List.mem_cons_self)
  | case3 seen a rest hnew ih =>
    rw [ih, names, names, List.map_cons, List.nodup_cons, List.forall_mem_cons]
    constructor
    · rintro ⟨hnodup, h⟩
      refine ⟨⟨fun hmem => h a.name hmem List.mem_cons_self, hnodup⟩, hnew, ?_⟩
      intro n hn hseen
      exact h n hn (List.mem_cons_of_mem _ hseen)
    · rintro ⟨⟨hfirst, hnodup⟩, -, h⟩
      refine ⟨hnodup, ?_⟩
      intro n hn hmem
      rcases List.mem_cons.1 hmem with rfl | hmem
      · exact hfirst hn
      · exact h n hn hmem

theorem not_any_name_iff : (!ds.any (·.name == name)) = true ↔ name ∉ names ds := by
  simp [names]

/-- A reference that is reported names no definition. -/
theorem undefined?_eq_some {f : Failure} (h : undefined? ds = some f) :
    ∃ d ∈ ds, ∃ name ∈ d.stackedNames, name ∉ names ds ∧
      f = d.failure s!"undefined stacked parser '{name}'" := by
  obtain ⟨d, hd, hfind⟩ := List.exists_of_findSome?_eq_some h
  obtain ⟨name, hname, rfl⟩ := Option.map_eq_some_iff.1 hfind
  have hunknown := List.find?_some (p := fun n => !ds.any (·.name == n)) hname
  exact ⟨d, hd, name, List.mem_of_find?_eq_some hname, not_any_name_iff.1 hunknown, rfl⟩

theorem undefined?_eq_none_iff : undefined? ds = none ↔ ∀ d ∈ ds, d.stackedNames ⊆ names ds := by
  rw [undefined?, List.findSome?_eq_none_iff]
  refine forall₂_congr fun d _ => ?_
  rw [Option.map_eq_none_iff, List.find?_eq_none]
  refine forall₂_congr fun name _ => ?_
  rw [not_any_name_iff, Classical.not_not]

/-! ### The graph of references -/

/-- The definition of a name is the only one that has it. -/
theorem placeOf?_eq_some_iff (hnodup : (names ds).Nodup) {i : Nat} :
    placeOf? ds name = some i ↔ ∃ a, ds[i]? = some a ∧ a.name = name := by
  rw [placeOf?, List.findIdx?_eq_some_iff_getElem]
  constructor
  · rintro ⟨hi, hname, -⟩
    exact ⟨ds[i], List.getElem?_eq_getElem hi, by simpa using hname⟩
  · rintro ⟨a, ha, hname⟩
    obtain ⟨hi, rfl⟩ := List.getElem?_eq_some_iff.1 ha
    refine ⟨hi, by simpa using hname, ?_⟩
    intro j hj hother
    have hjname : ds[j].name = name := by simpa using hother
    -- an earlier definition of the name would be a second one
    have hij : (names ds)[j]? = (names ds)[i]? := by
      rw [List.getElem?_map, List.getElem?_map, List.getElem?_eq_getElem (Nat.lt_trans hj hi),
        List.getElem?_eq_getElem hi, Option.map_some, Option.map_some, hname, hjname]
    exact absurd ((List.getElem?_inj (by simpa using Nat.lt_trans hj hi) hnodup).1 hij)
      (Nat.ne_of_lt hj)

@[simp] theorem size_references : (references ds).size = ds.length :=
  Graph.size_ofEdges _ _

/-- **The graph of references shows which definition is stacked on which.** -/
theorem shows_references (hnodup : (names ds).Nodup) :
    Graph.Shows (references ds).edges ds Under := by
  intro j i
  simp only [references, Graph.edge_ofEdges, List.mem_flatMap, Prod.exists,
    List.mem_zipIdx_iff_getElem?, List.mem_filterMap, Option.map_eq_some_iff, Prod.mk.injEq]
  constructor
  · rintro ⟨b, k, hb, name, hname, l, hplace, rfl, rfl⟩
    obtain ⟨a, ha, rfl⟩ := (placeOf?_eq_some_iff hnodup).1 hplace
    exact ⟨a, b, ha, hb, hname⟩
  · rintro ⟨a, b, ha, hb, hunder⟩
    exact ⟨b, i, hb, a.name, hunder, j, (placeOf?_eq_some_iff hnodup).2 ⟨a, ha, rfl⟩, rfl, rfl⟩

/-- If everything that is stacked has a definition, an order that the references follow has the
stacked definitions first. -/
theorem stackedFirst_of_follows {order : List Definition} (hperm : order.Perm ds)
    (hdefined : ∀ d ∈ ds, d.stackedNames ⊆ names ds) (h : Follows Under order) :
    StackedFirst order := by
  rintro before d after rfl name hname
  have hd : d ∈ ds := hperm.mem_iff.1 (List.mem_append_right _ List.mem_cons_self)
  -- the definition of the name has a place in the order, and it is before that of `d`
  obtain ⟨a, ha, rfl⟩ := List.mem_map.1 (hdefined d hd hname)
  obtain ⟨m, hm⟩ := List.mem_iff_getElem?.1 (hperm.mem_iff.2 ha)
  have hplace : (before ++ d :: after)[before.length]? = some d := by
    rw [List.getElem?_append_right (Nat.le_refl _), Nat.sub_self]
    rfl
  have hlt : m < before.length := h hm hplace hname
  rw [List.getElem?_append_left hlt] at hm
  exact List.mem_map_of_mem (List.mem_of_getElem? hm)

/-- **Definitions with known names can be ordered, or some are stacked in a circle.** -/
theorem order_cases (hnodup : (names ds).Nodup) (hdefined : ∀ d ∈ ds, d.stackedNames ⊆ names ds) :
    (∃ place d, (references ds).order = .error place ∧ ds[place]? = some d ∧ Below ds d d) ∨
    (Sound ds ∧ ∃ places, (references ds).order = .ok places ∧
      (places.filterMap fun i => ds[i]?).Perm ds ∧
      StackedFirst (places.filterMap fun i => ds[i]?)) := by
  have hshows := shows_references hnodup
  rcases hshows.order_cases size_references with hcircle | ⟨hacyclic, places, horder⟩
  · exact .inl hcircle
  · obtain ⟨hperm, hfollows⟩ := hshows.arranged size_references horder
    exact .inr ⟨⟨hnodup, hdefined, hacyclic⟩, places, horder, hperm,
      stackedFirst_of_follows hperm hdefined hfollows⟩

end Registry

end Intake
