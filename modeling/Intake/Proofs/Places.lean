import Mathlib.Data.List.Basic

/-!
# Members of a list by their places

* `getElem?_filterMap_of_isSome`: a search that finds something everywhere keeps all places.
* `filterMap_range_getElem?`: the members at the first places are the first members.
-/

namespace Intake

theorem getElem?_filterMap_of_isSome {α β : Type} {f : α → Option β} {l : List α}
    (h : ∀ a ∈ l, (f a).isSome) (m : Nat) : (l.filterMap f)[m]? = l[m]?.bind f := by
  induction l generalizing m with
  | nil => rfl
  | cons a l ih =>
    obtain ⟨b, hb⟩ := Option.isSome_iff_exists.1 (h a List.mem_cons_self)
    rw [List.filterMap_cons_some hb]
    cases m with
    | zero => exact hb.symm
    | succ m => exact ih (fun x hx => h x (List.mem_cons_of_mem _ hx)) m

theorem filterMap_range_getElem? {α : Type} (l : List α) (n : Nat) :
    ((List.range n).filterMap fun i => l[i]?) = l.take n := by
  induction n with
  | zero => rfl
  | succ n ih =>
    rw [List.range_succ, List.filterMap_append, ih, List.take_add_one]
    cases h : l[n]? with
    | none =>
      rw [List.filterMap_cons_none h]
      rfl
    | some a =>
      rw [List.filterMap_cons_some h]
      rfl

theorem filterMap_getElem?_range {α : Type} (l : List α) :
    ((List.range l.length).filterMap fun i => l[i]?) = l := by
  rw [filterMap_range_getElem?, List.take_length]

end Intake
