import Mathlib.Logic.Relation
import Intake.Graph
import Intake.Proofs.Except

/-!
# Orders from ready places

* `Graph.orderOf`: the specification of an order, by a search for a ready place at each step.
* `Graph.orderOf_ok`: an order that is found has every place once, and every edge leads forward in
  it.
* `Graph.orderOf_error`: a place that is reported instead lies on a cycle.
* `Graph.orderOf_prefix`: places that stand first and wait for no others come first.
-/

namespace Intake

open Relation

/-- Wherever two members of a list are related, the first stands before the second. -/
def Follows {α : Type} (r : α → α → Prop) (l : List α) : Prop :=
  ∀ ⦃m n : Nat⦄ ⦃a b : α⦄, l[m]? = some a → l[n]? = some b → r a b → m < n

/-- Along a chain of related members the places in the list increase. -/
theorem Follows.lt_of_transGen {α : Type} {r : α → α → Prop} {l : List α} (h : Follows r l)
    (hmem : ∀ a b, r a b → a ∈ l) {a b : α} (hab : TransGen r a b) {m n : Nat}
    (hm : l[m]? = some a) (hn : l[n]? = some b) : m < n := by
  induction hab generalizing n with
  | single hr => exact h hm hn hr
  | tail _ hr ih =>
    obtain ⟨k, hk⟩ := List.mem_iff_getElem?.1 (hmem _ _ hr)
    exact Nat.lt_trans (ih hk) (h hk hn hr)

namespace Graph

variable {edges : List (Nat × Nat)} {places order : List Nat}

/-- The second place waits for the first. -/
def Edge (edges : List (Nat × Nat)) (i j : Nat) : Prop := (i, j) ∈ edges

/-- Both ends of every edge are among the places. -/
def Among (edges : List (Nat × Nat)) (places : List Nat) : Prop :=
  ∀ e ∈ edges, e.1 ∈ places ∧ e.2 ∈ places

/-- The specification of an order. It takes the smallest of the remaining places that waits for no
other one, as long as there is one, and looks for it anew each time. `edges` are those from remaining
places. -/
def orderOf (edges : List (Nat × Nat)) (remaining : List Nat) : Except Nat (List Nat) :=
  match h : remaining.find? fun i => edges.all fun e => e.2 != i with
  | some i =>
    have hi := List.mem_of_find?_eq_some h
    have := List.length_erase_of_mem hi
    have := List.length_pos_of_mem hi
    (orderOf (edges.filter fun e => e.1 != i) (remaining.erase i)).map (i :: ·)
  | none =>
    match remaining with
    | [] => .ok []
    | first :: rest => .error (revisited edges (first :: rest) first)
termination_by remaining.length
decreasing_by omega

/-- A place is ready if no edge leads to it. -/
theorem ready_iff {i : Nat} : (edges.all fun e => e.2 != i) = true ↔ ∀ k, ¬ Edge edges k i := by
  rw [List.all_eq_true]
  constructor
  · intro h k hk
    have := h _ hk
    simp at this
  · intro h e he
    have hne : e.2 ≠ i := by
      intro heq
      subst heq
      exact h e.1 he
    simpa using hne

/-- A place that the search for a ready one finds waits for none. -/
theorem ready_of_find? {i : Nat}
    (h : (places.find? fun i => edges.all fun e => e.2 != i) = some i) :
    ∀ k, ¬ Edge edges k i :=
  ready_iff.1 (List.find?_some (p := fun i => edges.all fun e => e.2 != i) h)

/-- The order takes the place that the search finds first, and then orders the others. -/
theorem orderOf_of_ready {i : Nat}
    (h : (places.find? fun i => edges.all fun e => e.2 != i) = some i) :
    orderOf edges places =
      (orderOf (edges.filter fun e => e.1 != i) (places.erase i)).map (i :: ·) := by
  rw [orderOf]
  split
  · next j hj =>
    obtain rfl : i = j := Option.some.inj (h.symm.trans hj)
    rfl
  · next hnone => cases h.symm.trans hnone

/-- A place that is ready is taken out of the graph without loose ends. -/
theorem Among.erase (h : Among edges places) {i : Nat} (hi : ∀ k, ¬ Edge edges k i) :
    Among (edges.filter fun e => e.1 != i) (places.erase i) := by
  intro e he
  obtain ⟨hmem, hne⟩ := List.mem_filter.1 he
  have hne : e.1 ≠ i := by simpa using hne
  have hne₂ : e.2 ≠ i := by
    intro heq
    subst heq
    exact hi e.1 hmem
  exact ⟨(List.mem_erase_of_ne hne).2 (h e hmem).1, (List.mem_erase_of_ne hne₂).2 (h e hmem).2⟩

/-- A ready place may be put before an order of the others. -/
theorem follows_cons {i : Nat} (hi : ∀ k, ¬ Edge edges k i) (hmem : i ∉ order)
    (h : Follows (Edge (edges.filter fun e => e.1 != i)) order) : Follows (Edge edges) (i :: order) := by
  intro m n a b hm hn hab
  cases n with
  | zero =>
    rw [List.getElem?_cons_zero, Option.some.injEq] at hn
    subst hn
    exact absurd hab (hi a)
  | succ n =>
    cases m with
    | zero => exact Nat.succ_pos n
    | succ m =>
      rw [List.getElem?_cons_succ] at hm hn
      have ha : a ≠ i := by
        intro heq
        subst heq
        exact hmem (List.mem_of_getElem? hm)
      have hab' : Edge (edges.filter fun e => e.1 != i) a b :=
        List.mem_filter.2 ⟨hab, by simpa using ha⟩
      exact Nat.succ_lt_succ (h hm hn hab')

/-- **An order that is found** has every place once, and every edge leads forward in it. -/
theorem orderOf_ok (hn : places.Nodup) (hok : orderOf edges places = .ok order) :
    order.Perm places ∧ Follows (Edge edges) order := by
  -- on the places: the first ready one waits for nothing, and the rest is in order without it
  fun_induction orderOf edges places generalizing order with
  | case1 edges places i hfind hi _ _ ih =>
    simp only [List.unattach_filter, List.unattach_attach] at ih
    obtain ⟨rest, hrest, rfl⟩ := map_eq_ok.1 hok
    obtain ⟨hperm, hfwd⟩ := ih (hn.erase i) hrest
    have hready := ready_of_find? hfind
    have hmem : i ∉ rest := by
      intro h
      exact (hn.mem_erase_iff.1 (hperm.mem_iff.1 h)).1 rfl
    exact ⟨(hperm.cons i).trans (List.perm_cons_erase hi).symm, follows_cons hready hmem hfwd⟩
  | case2 edges _ =>
    obtain rfl : [] = order := Except.ok.inj hok
    refine ⟨List.Perm.refl _, ?_⟩
    intro m n i j hm
    simp at hm
  | case3 => cases hok

/-- The walk back along edges ends on a cycle, as long as every place waits for another one. Every
place already seen is reached from the one where the walk stands. -/
theorem revisited_on_cycle {unvisited : List Nat} {place : Nat}
    (hin : ∀ i ∈ places, ∃ k ∈ places, Edge edges k i) (hplace : place ∈ places)
    (hfrom : ∀ e ∈ edges, e.1 ∈ places)
    (hseen : ∀ i ∈ places, i ∉ unvisited → TransGen (Edge edges) place i) :
    revisited edges unvisited place ∈ places ∧
      TransGen (Edge edges) (revisited edges unvisited place)
        (revisited edges unvisited place) := by
  -- on the walk: `hseen` says that it could come back to every place it has passed
  fun_induction revisited edges unvisited place with
  | case1 unvisited place hmem e hfind _ _ ih =>
    have hedge : Edge edges e.1 place := by
      have htarget : e.2 = place := by simpa using List.find?_some hfind
      rw [← htarget]
      exact List.mem_of_find?_eq_some hfind
    apply ih (hfrom e (List.mem_of_find?_eq_some hfind))
    intro i hi hnot
    by_cases heq : i = place
    · rw [heq]
      exact TransGen.single hedge
    · have hold : i ∉ unvisited := by
        intro h
        exact hnot ((List.mem_erase_of_ne heq).2 h)
      exact TransGen.head hedge (hseen i hi hold)
  | case2 unvisited place hmem hfind =>
    obtain ⟨k, -, hk⟩ := hin place hplace
    have := List.find?_eq_none.1 hfind _ hk
    simp at this
  | case3 unvisited place hnot => exact ⟨hplace, hseen place hplace hnot⟩

/-- A cycle of some of the edges is one of all of them. -/
theorem transGen_of_filter {p : Nat × Nat → Bool} {i j : Nat}
    (h : TransGen (Edge (edges.filter p)) i j) : TransGen (Edge edges) i j :=
  TransGen.mono (fun _ _ hab => (List.mem_filter.1 hab).1) i j h

/-- **A place that is reported instead** lies on a cycle. -/
theorem orderOf_error {i : Nat} (hamong : Among edges places)
    (herr : orderOf edges places = .error i) : i ∈ places ∧ TransGen (Edge edges) i i := by
  fun_induction orderOf edges places with
  | case1 edges places k hfind hk _ _ ih =>
    simp only [List.unattach_filter, List.unattach_attach] at ih
    have hready := ready_of_find? hfind
    obtain ⟨hmem, hcycle⟩ := ih (hamong.erase hready) (map_eq_error.1 herr)
    exact ⟨List.mem_of_mem_erase hmem, transGen_of_filter hcycle⟩
  | case2 => cases herr
  | case3 edges first rest hfind =>
    -- no place is ready, so every place has one before it, and the walk back never ends outside
    obtain rfl : revisited edges (first :: rest) first = i := Except.error.inj herr
    apply revisited_on_cycle
    · intro k hk
      have hwait := List.find?_eq_none.1 hfind k hk
      rw [ready_iff, Classical.not_forall] at hwait
      obtain ⟨a, ha⟩ := hwait
      have hedge : Edge edges a k := Classical.not_not.1 ha
      exact ⟨a, (hamong _ hedge).1, hedge⟩
    · exact List.mem_cons_self
    · intro e he
      exact (hamong e he).1
    · intro k hk hnot
      exact absurd hk hnot

/-- An order that every edge follows leaves no room for a cycle. -/
theorem acyclic_of_follows (h : Follows (Edge edges) order) (hamong : Among edges order) (i : Nat) :
    ¬ TransGen (Edge edges) i i := by
  intro hcycle
  obtain ⟨k, -, hk⟩ := TransGen.tail'_iff.1 hcycle
  obtain ⟨n, hn⟩ := List.mem_iff_getElem?.1 (hamong _ hk).2
  exact Nat.lt_irrefl n (h.lt_of_transGen (fun a b hab => (hamong (a, b) hab).1) hcycle hn hn)

/-- Of places that wait for no others, the one that comes first waits for none. -/
theorem exists_ready (h : Follows (Edge edges) order) {front : List Nat} (hsub : front ⊆ order)
    (hclosed : ∀ i j, Edge edges i j → j ∈ front → i ∈ front) (hne : front ≠ []) :
    ∃ i ∈ front, ∀ k, ¬ Edge edges k i := by
  obtain ⟨a, ha⟩ := List.exists_mem_of_ne_nil front hne
  have hsome : (order.find? fun i => decide (i ∈ front)).isSome := by
    rw [List.find?_isSome]
    exact ⟨a, hsub ha, by simpa using ha⟩
  obtain ⟨i, hi⟩ := Option.isSome_iff_exists.1 hsome
  obtain ⟨hmem, earlier, later, heq, hnone⟩ := List.find?_eq_some_iff_append.1 hi
  have hmem : i ∈ front := by simpa using hmem
  refine ⟨i, hmem, ?_⟩
  intro k hk
  -- a place that `i` waits for would come before `i` and be one of them as well
  have hkf : k ∈ front := hclosed k i hk hmem
  obtain ⟨m, hm⟩ := List.mem_iff_getElem?.1 (hsub hkf)
  have hn : order[earlier.length]? = some i := by
    rw [heq, List.getElem?_append_right (Nat.le_refl _), Nat.sub_self]
    rfl
  have hlt := h hm hn hk
  rw [heq, List.getElem?_append_left hlt] at hm
  have := hnone k (List.mem_of_getElem? hm)
  simp [hkf] at this

/-- **Places that stand first and wait for no others come first.** -/
theorem orderOf_prefix {front back : List Nat} (hn : (front ++ back).Nodup)
    (hclosed : ∀ i j, Edge edges i j → j ∈ front → i ∈ front)
    (hok : orderOf edges (front ++ back) = .ok order) :
    ∃ first rest, order = first ++ rest ∧ first.Perm front ∧ rest.Perm back := by
  generalize hplaces : front ++ back = places at hok hn
  fun_induction orderOf edges places generalizing front order with
  | case1 edges places i hfind hi _ _ ih =>
    simp only [List.unattach_filter, List.unattach_attach] at ih
    obtain ⟨hperm, hfwd⟩ := orderOf_ok hn ((orderOf_of_ready hfind).trans hok)
    obtain ⟨tail, htail, rfl⟩ := map_eq_ok.1 hok
    cases hfront : front with
    | nil =>
      rw [hfront, List.nil_append] at hplaces
      exact ⟨[], i :: tail, rfl, List.Perm.refl _, hplaces ▸ hperm⟩
    | cons a front' =>
      -- the place found is one of those that stand first
      obtain ⟨k, hk, hkready⟩ := exists_ready hfwd
        (fun x hx => hperm.mem_iff.2 (hplaces ▸ List.mem_append_left _ hx)) hclosed
        (by rw [hfront]; exact List.cons_ne_nil _ _)
      have hif : i ∈ front := by
        rw [← hplaces, List.find?_append] at hfind
        have hsome : (front.find? fun i => edges.all fun e => e.2 != i).isSome := by
          rw [List.find?_isSome]
          exact ⟨k, hk, ready_iff.2 hkready⟩
        obtain ⟨j, hj⟩ := Option.isSome_iff_exists.1 hsome
        rw [hj, Option.some_or, Option.some.injEq] at hfind
        exact hfind ▸ List.mem_of_find?_eq_some hj
      have hclosed' : ∀ x y, Edge (edges.filter fun e => e.1 != i) x y →
          y ∈ front.erase i → x ∈ front.erase i := by
        intro x y hxy hy
        obtain ⟨hedge, hne⟩ := List.mem_filter.1 hxy
        have hne : x ≠ i := by simpa using hne
        exact (List.mem_erase_of_ne hne).2 (hclosed x y hedge (List.mem_of_mem_erase hy))
      have hplaces' : front.erase i ++ back = places.erase i := by
        rw [← hplaces, List.erase_append_left _ hif]
      obtain ⟨first, rest, heq, hfirst, hrest⟩ := ih hclosed' hplaces' htail (hn.erase i)
      rw [← hfront, heq]
      exact ⟨i :: first, rest, rfl, (hfirst.cons i).trans (List.perm_cons_erase hif).symm, hrest⟩
  | case2 edges _ =>
    obtain rfl : [] = order := Except.ok.inj hok
    obtain ⟨rfl, rfl⟩ := List.append_eq_nil_iff.1 hplaces
    exact ⟨[], [], rfl, List.Perm.refl _, List.Perm.refl _⟩
  | case3 => cases hok

end Graph

end Intake
