import Intake.Proofs.Indegrees
import Intake.Proofs.Places

/-!
# Orders and cycles of dependency graphs

* `order_ok`, `order_error`: a graph comes to an order, or to a place on a cycle.
* `order_ok_iff`: the places of a graph can be ordered exactly if there is no cycle.
* `Shows.transGen_iff`: where places stand for the members of a list, a path of places is a chain
  of related members.
* `Shows.order_cases`, `Shows.arranged`: such places can be ordered, and so can the members, or one
  of the members is on a circle.
-/

namespace Intake

open Relation

namespace Graph

variable {edges : List (Nat × Nat)} {order : List Nat} {g : Graph}

theorem size_ofEdges (size : Nat) (es : List (Nat × Nat)) : (ofEdges size es).size = size := by
  suffices h : ∀ g : Graph, (es.foldl (fun g e => g.addEdge e.1 e.2) g).size = g.size from h _
  induction es with
  | nil => exact fun _ => rfl
  | cons e es ih =>
    intro g
    rw [List.foldl_cons, ih, addEdge]
    split <;> rfl

theorem edge_addEdge {i j a b : Nat} :
    Edge (g.addEdge i j).edges a b ↔ Edge g.edges a b ∨ (a, b) = (i, j) := by
  unfold Edge addEdge
  split
  · next h =>
    constructor
    · exact Or.inl
    · rintro (hold | heq)
      · exact hold
      · exact heq ▸ h
  · simp

/-- A graph has the edges that it was made from. -/
theorem edge_ofEdges {size : Nat} {es : List (Nat × Nat)} {i j : Nat} :
    Edge (ofEdges size es).edges i j ↔ (i, j) ∈ es := by
  suffices h : ∀ g : Graph, Edge (es.foldl (fun g e => g.addEdge e.1 e.2) g).edges i j ↔
      Edge g.edges i j ∨ (i, j) ∈ es by
    rw [ofEdges, h]
    simp [Edge]
  induction es with
  | nil => simp
  | cons e es ih =>
    intro g
    rw [List.foldl_cons, ih, edge_addEdge, List.mem_cons, or_assoc]

/-- **An order of a graph** has every place once, and every edge leads forward in it. -/
theorem order_ok (hamong : Among g.edges (List.range g.size)) (h : g.order = .ok order) :
    order.Perm (List.range g.size) ∧ Follows (Edge g.edges) order :=
  orderOf_ok List.nodup_range ((order_eq_orderOf hamong).symm.trans h)

/-- **A graph whose places cannot be ordered** reports one on a cycle. -/
theorem order_error {i : Nat} (hamong : Among g.edges (List.range g.size))
    (h : g.order = .error i) : i < g.size ∧ TransGen (Edge g.edges) i i := by
  obtain ⟨hmem, hcycle⟩ := orderOf_error hamong ((order_eq_orderOf hamong).symm.trans h)
  exact ⟨List.mem_range.1 hmem, hcycle⟩

/-- **The places can be ordered exactly if there is no cycle.** -/
theorem order_ok_iff (hamong : Among g.edges (List.range g.size)) :
    (∃ order, g.order = .ok order) ↔ ∀ i, ¬ TransGen (Edge g.edges) i i := by
  constructor
  · rintro ⟨order, h⟩ i
    obtain ⟨hperm, hfwd⟩ := order_ok hamong h
    refine acyclic_of_follows hfwd ?_ i
    intro e he
    exact ⟨hperm.mem_iff.2 (hamong e he).1, hperm.mem_iff.2 (hamong e he).2⟩
  · intro hacyclic
    cases h : g.order with
    | ok order => exact ⟨order, rfl⟩
    | error i => exact absurd (order_error hamong h).2 (hacyclic i)

/-- Two members of a list are related. -/
def Between {α : Type} (l : List α) (r : α → α → Prop) (a b : α) : Prop :=
  a ∈ l ∧ b ∈ l ∧ r a b

/-- The places stand for the members of a list, and the edges for a relation between these. -/
def Shows {α : Type} (edges : List (Nat × Nat)) (l : List α) (r : α → α → Prop) : Prop :=
  ∀ i j, Edge edges i j ↔ ∃ a b, l[i]? = some a ∧ l[j]? = some b ∧ r a b

namespace Shows

variable {α : Type} {l : List α} {r : α → α → Prop}

theorem among {n : Nat} (h : Shows edges l r) (hsize : n = l.length) :
    Among edges (List.range n) := by
  rintro ⟨i, j⟩ he
  obtain ⟨a, b, ha, hb, -⟩ := (h i j).1 he
  rw [List.mem_range, List.mem_range, hsize]
  exact ⟨(List.getElem?_eq_some_iff.1 ha).1, (List.getElem?_eq_some_iff.1 hb).1⟩

/-- **A path of places is a chain of related members.** -/
theorem transGen_iff (h : Shows edges l r) {i j : Nat} {a b : α} (hi : l[i]? = some a)
    (hj : l[j]? = some b) : TransGen (Edge edges) i j ↔ TransGen (Between l r) a b := by
  constructor
  · intro hpath
    -- The end of a path is the start of its next edge, so the induction is over all ends.
    induction hpath generalizing b with
    | single hedge =>
      obtain ⟨a', b', ha, hb, hr⟩ := (h _ _).1 hedge
      obtain rfl : a = a' := Option.some.inj (hi.symm.trans ha)
      obtain rfl : b = b' := Option.some.inj (hj.symm.trans hb)
      exact .single ⟨List.mem_of_getElem? hi, List.mem_of_getElem? hj, hr⟩
    | tail _ hedge ih =>
      obtain ⟨a', b', ha, hb, hr⟩ := (h _ _).1 hedge
      obtain rfl : b = b' := Option.some.inj (hj.symm.trans hb)
      exact .tail (ih ha) ⟨List.mem_of_getElem? ha, List.mem_of_getElem? hj, hr⟩
  · intro hchain
    induction hchain generalizing j with
    | single hstep => exact .single ((h _ _).2 ⟨a, _, hi, hj, hstep.2.2⟩)
    | tail _ hstep ih =>
      obtain ⟨k, hk⟩ := List.mem_iff_getElem?.1 hstep.1
      exact .tail (ih hk) ((h _ _).2 ⟨_, _, hk, hj, hstep.2.2⟩)

/-- No path of places comes back to where it started exactly if no chain of members does. -/
theorem acyclic_iff (h : Shows edges l r) :
    (∀ i, ¬ TransGen (Edge edges) i i) ↔ ∀ a, ¬ TransGen (Between l r) a a := by
  constructor
  · intro hacyclic a ha
    obtain ⟨b, hb, -⟩ := TransGen.head'_iff.1 ha
    obtain ⟨i, hi⟩ := List.mem_iff_getElem?.1 hb.1
    exact hacyclic i ((h.transGen_iff hi hi).2 ha)
  · intro hacyclic i hi
    obtain ⟨j, hj, -⟩ := TransGen.head'_iff.1 hi
    obtain ⟨a, -, ha, -, -⟩ := (h _ _).1 hj
    exact hacyclic a ((h.transGen_iff ha ha).1 hi)

/-- **The places can be ordered, or one is reported whose member is on a circle.** -/
theorem order_cases {g : Graph} (h : Shows g.edges l r) (hsize : g.size = l.length) :
    (∃ place a, g.order = .error place ∧ l[place]? = some a ∧ TransGen (Between l r) a a) ∨
    ((∀ a, ¬ TransGen (Between l r) a a) ∧ ∃ places, g.order = .ok places) := by
  have hamong := h.among hsize
  cases horder : g.order with
  | error place =>
    obtain ⟨hlt, hcycle⟩ := order_error hamong horder
    rw [hsize] at hlt
    have hplace := List.getElem?_eq_getElem hlt
    exact .inl ⟨place, _, rfl, hplace, (h.transGen_iff hplace hplace).1 hcycle⟩
  | ok places =>
    have hacyclic := (order_ok_iff hamong).1 ⟨places, horder⟩
    exact .inr ⟨h.acyclic_iff.1 hacyclic, places, rfl⟩

/-- **Members in an order of their places** are all of them, and related ones follow each other. -/
theorem arranged {g : Graph} (h : Shows g.edges l r) (hsize : g.size = l.length)
    (horder : g.order = .ok order) :
    (order.filterMap fun i => l[i]?).Perm l ∧ Follows r (order.filterMap fun i => l[i]?) := by
  obtain ⟨hperm, hfollows⟩ := order_ok (h.among hsize) horder
  rw [hsize] at hperm
  have hsome : ∀ i ∈ order, (l[i]?).isSome := by
    intro i hi
    rw [List.getElem?_eq_getElem (List.mem_range.1 (hperm.mem_iff.1 hi))]
    rfl
  constructor
  · calc (order.filterMap fun i => l[i]?).Perm
          ((List.range l.length).filterMap fun i => l[i]?) := hperm.filterMap _
      _ = l := filterMap_getElem?_range l
  · intro m n a b hm hn hr
    rw [getElem?_filterMap_of_isSome hsome] at hm hn
    obtain ⟨i, hi, ha⟩ := Option.bind_eq_some_iff.1 hm
    obtain ⟨j, hj, hb⟩ := Option.bind_eq_some_iff.1 hn
    exact hfollows hi hj ((h _ _).2 ⟨a, b, ha, hb, hr⟩)

end Shows

end Graph

end Intake
