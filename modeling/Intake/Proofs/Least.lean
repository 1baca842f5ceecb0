import Mathlib.Order.Bounds.Basic
import Mathlib.Data.List.Lex
import Intake.Proofs.Order

/-!
# The least order of a graph

* `Graph.Sorts`: an order of places, each once, in which every edge leads forward.
* `Graph.Sorts.ready`, `Graph.Sorts.tail`: an order begins with a place that waits for none, and
  goes on with an order of the others.
* `Graph.orderOf_le`: the order that is found is the least of all.
* `Graph.orderOf_of_upward`: places that stand in an order already stay as they are.
* `Graph.order_isLeast`: **a graph has an order exactly if it has no cycle, and is put in the least
  one**; otherwise a place on a cycle is reported.
-/

namespace Intake.Graph

open Relation

variable {edges : List (Nat × Nat)} {places order other : List Nat} {i : Nat}

/-- An order of places: each place once, and every edge leads forward. -/
structure Sorts (edges : List (Nat × Nat)) (places order : List Nat) : Prop where
  perm : order.Perm places
  follows : Follows (Edge edges) order

/-! ### Any order, place by place -/

/-- The first place of an order waits for none. -/
theorem Sorts.ready (h : Sorts edges places (i :: order)) (hamong : Among edges places) (k : Nat) :
    ¬ Edge edges k i := by
  intro hedge
  have hk : k ∈ i :: order := h.perm.mem_iff.2 (hamong _ hedge).1
  obtain ⟨m, hm⟩ := List.mem_iff_getElem?.1 hk
  exact Nat.not_lt_zero m (h.follows hm List.getElem?_cons_zero hedge)

/-- What comes after the first place of an order is an order of the other places. -/
theorem Sorts.tail (h : Sorts edges places (i :: order)) :
    Sorts (edges.filter fun e => e.1 != i) (places.erase i) order where
  perm := (List.cons_perm_iff_perm_erase.1 h.perm).2
  follows := by
    intro m n a b hm hn hab
    have hedge : Edge edges a b := (List.mem_filter.1 hab).1
    have hlt : m + 1 < n + 1 :=
      h.follows (by rwa [List.getElem?_cons_succ]) (by rwa [List.getElem?_cons_succ]) hedge
    exact Nat.lt_of_succ_lt_succ hlt

/-! ### The order that is found -/

/-- Of places that increase, the search finds the least one that waits for none. -/
theorem le_of_find? (hsorted : places.Pairwise (· < ·))
    (hfind : (places.find? fun i => edges.all fun e => e.2 != i) = some i) {j : Nat}
    (hj : j ∈ places) (hready : ∀ k, ¬ Edge edges k j) : i ≤ j := by
  obtain ⟨-, before, after, heq, hbefore⟩ := List.find?_eq_some_iff_append.1 hfind
  subst heq
  rcases List.mem_append.1 hj with hj | hj
  · have hwaits := hbefore j hj
    rw [ready_iff.2 hready] at hwaits
    cases hwaits
  · rcases List.mem_cons.1 hj with rfl | hj
    · exact Nat.le_refl _
    · obtain ⟨-, hafter, -⟩ := List.pairwise_append.1 hsorted
      exact Nat.le_of_lt ((List.pairwise_cons.1 hafter).1 j hj)

/-- **The order that is found is the least of all**, compared place by place. -/
theorem orderOf_le (hsorted : places.Pairwise (· < ·)) (hamong : Among edges places)
    (hok : orderOf edges places = .ok order) (hother : Sorts edges places other) :
    order ≤ other := by
  fun_induction orderOf edges places generalizing order other with
  | case1 edges places i hfind hi _ _ ih =>
    simp only [List.unattach_filter, List.unattach_attach] at ih
    obtain ⟨rest, hrest, rfl⟩ := map_eq_ok.1 hok
    cases other with
    | nil => exact absurd (hother.perm.mem_iff.2 hi) List.not_mem_nil
    | cons j tail =>
      have hj : j ∈ places := hother.perm.mem_iff.1 List.mem_cons_self
      have hle : i ≤ j := le_of_find? hsorted hfind hj (hother.ready hamong)
      rcases Nat.lt_or_eq_of_le hle with hlt | rfl
      · exact le_of_lt (List.cons_lt_cons_iff.2 (.inl hlt))
      · -- both orders begin with the same place, and what comes after it decides
        have hamong' := hamong.erase (ready_of_find? hfind)
        exact List.cons_le_cons i (ih (hsorted.erase i) hamong' hrest hother.tail)
  | case2 edges _ =>
    obtain rfl : [] = order := Except.ok.inj hok
    exact not_lt.1 (List.not_lt_nil other)
  | case3 => cases hok

/-- **Places that stand in an order already stay as they are**: increasing ones, if every edge leads
from a lower place to a higher one. -/
theorem orderOf_of_upward (hsorted : places.Pairwise (· < ·)) (hamong : Among edges places)
    (hup : ∀ a b, Edge edges a b → a < b) : orderOf edges places = .ok places := by
  induction places generalizing edges with
  | nil =>
    rw [orderOf]
    rfl
  | cons first rest ih =>
    obtain ⟨hfirst, hrest⟩ := List.pairwise_cons.1 hsorted
    -- Nothing leads to the first place: what would stands later, and edges lead upwards.
    have hready : ∀ k, ¬ Edge edges k first := by
      intro k hedge
      have hlt := hup k first hedge
      rcases List.mem_cons.1 (hamong _ hedge).1 with heq | hk
      · exact Nat.ne_of_lt hlt heq
      · exact Nat.lt_asymm hlt (hfirst k hk)
    have hfind : ((first :: rest).find? fun i => edges.all fun e => e.2 != i) = some first :=
      List.find?_cons_of_pos (ready_iff.2 hready)
    have hamong' := hamong.erase hready
    rw [List.erase_cons_head] at hamong'
    have hothers := ih hrest hamong' fun a b hab => hup a b (List.mem_filter.1 hab).1
    rw [orderOf_of_ready hfind, List.erase_cons_head, hothers]
    rfl

/-! ### The order of a graph -/

/-- If the places may stay as they are, every edge leads from a lower place to a higher one. -/
theorem Sorts.upward {n : Nat} (h : Sorts edges (List.range n) (List.range n))
    (hamong : Among edges (List.range n)) (a b : Nat) (hab : Edge edges a b) : a < b := by
  have hplace : ∀ k ∈ List.range n, (List.range n)[k]? = some k :=
    fun k hk => List.getElem?_range (List.mem_range.1 hk)
  obtain ⟨ha, hb⟩ := hamong _ hab
  exact h.follows (hplace a ha) (hplace b hb) hab

/-- **A graph is put in the least of its orders.** Take places numbered from zero and any edges
between them, some of them perhaps several times or from a place to itself. There is an order if no
way along the edges leads back to where it began, and only then. The order that is found has every
place once, every edge leads forward in it, and it is the least of all such orders, compared place
by place. So the places stay as they are whenever they may. If there is no order, a place is
reported from which a way leads back to it. -/
theorem order_isLeast {n : Nat} {es : List (Nat × Nat)} (hes : ∀ e ∈ es, e.1 < n ∧ e.2 < n) :
    ((∃ order, (ofEdges n es).order = .ok order) ↔ ∀ i, ¬ TransGen (Edge es) i i) ∧
    (∀ order, (ofEdges n es).order = .ok order ↔
      IsLeast {o | Sorts es (List.range n) o} order) ∧
    (Sorts es (List.range n) (List.range n) → (ofEdges n es).order = .ok (List.range n)) ∧
    ∀ i, (ofEdges n es).order = .error i → i < n ∧ TransGen (Edge es) i i := by
  have hedge : Edge (ofEdges n es).edges = Edge es := by
    funext i j
    exact propext edge_ofEdges
  have hamong : Among (ofEdges n es).edges (List.range n) := by
    rintro ⟨i, j⟩ he
    obtain ⟨hi, hj⟩ := hes _ (edge_ofEdges.1 he)
    exact ⟨List.mem_range.2 hi, List.mem_range.2 hj⟩
  have horder : (ofEdges n es).order = orderOf (ofEdges n es).edges (List.range n) := by
    rw [order_eq_orderOf (by rwa [size_ofEdges]), size_ofEdges]
  have hsorts : ∀ {o}, Sorts (ofEdges n es).edges (List.range n) o ↔ Sorts es (List.range n) o :=
    ⟨fun h => ⟨h.perm, hedge ▸ h.follows⟩, fun h => ⟨h.perm, hedge.symm ▸ h.follows⟩⟩
  have hacyclic := order_ok_iff (g := ofEdges n es) (by rwa [size_ofEdges])
  rw [hedge] at hacyclic
  have hleast : ∀ order, (ofEdges n es).order = .ok order →
      IsLeast {o | Sorts es (List.range n) o} order := by
    intro order hok
    rw [horder] at hok
    obtain ⟨hperm, hfollows⟩ := orderOf_ok List.nodup_range hok
    exact ⟨hsorts.1 ⟨hperm, hfollows⟩,
      fun o ho => orderOf_le List.pairwise_lt_range hamong hok (hsorts.2 ho)⟩
  refine ⟨hacyclic, ?_, ?_, ?_⟩
  · intro order
    refine ⟨hleast order, fun h => ?_⟩
    -- an order of the places shows that there is no cycle, so that one is found
    have hsome : ∃ found, (ofEdges n es).order = .ok found := by
      refine hacyclic.2 (acyclic_of_follows h.1.follows ?_)
      intro e he
      rw [h.1.perm.mem_iff, h.1.perm.mem_iff, List.mem_range, List.mem_range]
      exact hes e he
    obtain ⟨found, hfound⟩ := hsome
    rw [hfound, (hleast found hfound).unique h]
  · intro hstay
    rw [horder]
    exact orderOf_of_upward List.pairwise_lt_range hamong ((hsorts.2 hstay).upward hamong)
  · intro i herror
    rw [horder] at herror
    obtain ⟨hmem, hcycle⟩ := orderOf_error hamong herror
    rw [hedge] at hcycle
    exact ⟨List.mem_range.1 hmem, hcycle⟩

/-- Chores of which the first and the third wait for later ones, one of them twice. -/
def choreEdges : List (Nat × Nat) := [(3, 0), (1, 2), (3, 0), (4, 2)]

/-- The same chores where one that is waited for waits for itself. -/
def stuckEdges : List (Nat × Nat) := (3, 3) :: choreEdges

/-- Of the chores the second comes first, and the first waits for the fourth. If the fourth waits
for itself, it is the one that is reported. -/
theorem chores_isLeast :
    (∀ e ∈ choreEdges, e.1 < 5 ∧ e.2 < 5) ∧
      (∀ e ∈ stuckEdges, e.1 < 5 ∧ e.2 < 5) ∧
      IsLeast {o | Sorts choreEdges (List.range 5) o} [1, 3, 0, 4, 2] ∧
      (∀ i, ¬ TransGen (Edge choreEdges) i i) ∧
      TransGen (Edge stuckEdges) 3 3 := by
  have hchores : ∀ e ∈ choreEdges, e.1 < 5 ∧ e.2 < 5 := by decide
  have hstuck : ∀ e ∈ stuckEdges, e.1 < 5 ∧ e.2 < 5 := by decide
  have hfound : (ofEdges 5 choreEdges).order = .ok [1, 3, 0, 4, 2] := by decide +kernel
  have hreported : (ofEdges 5 stuckEdges).order = .error 3 := by decide +kernel
  obtain ⟨hacyclic, hleast, -, -⟩ := order_isLeast hchores
  obtain ⟨-, -, -, herror⟩ := order_isLeast hstuck
  exact ⟨hchores, hstuck, (hleast _).1 hfound, hacyclic.1 ⟨_, hfound⟩, (herror 3 hreported).2⟩

end Intake.Graph
