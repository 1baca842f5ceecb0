/-!
# Keyed collections

Entries under text keys, held as a list in increasing order of the keys, each key once.

* `Keyed.get?_insert`, `Keyed.get?_erase`: what a lookup finds after a change.
* `Keyed.sorted_insert`: an insertion keeps the order of the keys.
* `Keyed.ext_of_sorted`: collections in which all lookups find the same are the same.
* `Keyed.get?_foldl_insert`, `Keyed.get?_extend`: what a lookup finds after many changes.
-/

namespace Intake

/-- Entries under text keys, in increasing key order. -/
abbrev Keyed (α : Type _) := List (String × α)

namespace Keyed

universe u

variable {α : Type u}

/-- The entry under `key`. -/
def get? (key : String) : Keyed α → Option α
  | [] => none
  | (k, v) :: rest => if k = key then some v else get? key rest

/-- Sets the entry under `key`, replacing an earlier one. -/
def insert (key : String) (value : α) : Keyed α → Keyed α
  | [] => [(key, value)]
  | (k, v) :: rest =>
    if k = key then (key, value) :: rest
    else if key < k then (key, value) :: (k, v) :: rest
    else (k, v) :: insert key value rest

/-- Removes the entry under `key`. -/
def erase (key : String) (m : Keyed α) : Keyed α :=
  m.filter fun e => e.1 ≠ key

/-- Sets every entry of `later` in `base`. -/
def extend (base later : Keyed α) : Keyed α :=
  later.foldl (fun acc e => insert e.1 e.2 acc) base

/-- Collects entries in any order; of two under one key the later stays. -/
def ofList (entries : List (String × α)) : Keyed α :=
  extend [] entries

/-- The keys, in order. -/
def keys (m : Keyed α) : List String :=
  m.map (·.1)

/-- The entries, in key order. -/
def values (m : Keyed α) : List α :=
  m.map (·.2)

/-- The keys strictly increase. -/
def Sorted (m : Keyed α) : Prop :=
  m.Pairwise fun a b => a.1 < b.1

instance (m : Keyed α) : Decidable (Sorted m) :=
  inferInstanceAs (Decidable (m.Pairwise fun a b => a.1 < b.1))

@[simp] theorem get?_nil (key : String) : get? key ([] : Keyed α) = none := rfl

theorem get?_insert (key other : String) (value : α) (m : Keyed α) :
    get? other (insert key value m) = if key = other then some value else get? other m := by
  induction m with
  | nil => simp [insert, get?]
  | cons e rest ih =>
    obtain ⟨k, v⟩ := e
    simp only [insert]
    split
    · next h => subst h; simp [get?]; split <;> rfl
    · split
      · simp [get?]
      · simp only [get?, ih]
        split <;> split <;> simp_all

theorem get?_erase (key other : String) (m : Keyed α) :
    get? other (erase key m) = if key = other then none else get? other m := by
  induction m with
  | nil => simp [erase, get?]
  | cons e rest ih =>
    obtain ⟨k, v⟩ := e
    have ih : get? other (rest.filter fun e => e.1 ≠ key) = _ := ih
    by_cases hk : k = key <;> by_cases ho : key = other <;> by_cases hko : k = other <;>
      simp_all [erase, get?]

theorem mem_insert {key : String} {value : α} {m : Keyed α} {e : String × α}
    (h : e ∈ insert key value m) : e = (key, value) ∨ e ∈ m := by
  induction m with
  | nil => simpa [insert] using h
  | cons a rest ih =>
    simp only [insert] at h
    split at h
    · rcases List.mem_cons.1 h with h | h
      · exact .inl h
      · exact .inr (List.mem_cons_of_mem _ h)
    · split at h
      · rcases List.mem_cons.1 h with h | h
        · exact .inl h
        · exact .inr h
      · rcases List.mem_cons.1 h with h | h
        · exact .inr (h ▸ List.mem_cons_self)
        · rcases ih h with h | h
          · exact .inl h
          · exact .inr (List.mem_cons_of_mem _ h)

theorem sorted_insert {key : String} {value : α} {m : Keyed α} (h : Sorted m) :
    Sorted (insert key value m) := by
  induction m with
  | nil => simp [insert, Sorted]
  | cons a rest ih =>
    obtain ⟨k, v⟩ := a
    obtain ⟨hk, hr⟩ := List.pairwise_cons.1 h
    simp only [insert]
    split
    · next heq => subst heq; exact List.pairwise_cons.2 ⟨hk, hr⟩
    · next hne =>
      split
      · next hlt =>
        refine List.pairwise_cons.2 ⟨fun b hb => ?_, h⟩
        rcases List.mem_cons.1 hb with rfl | hb
        · exact hlt
        · exact String.lt_trans hlt (hk b hb)
      · next hge =>
        refine List.pairwise_cons.2 ⟨fun b hb => ?_, ih hr⟩
        rcases mem_insert hb with rfl | hb
        · exact Decidable.byContradiction fun hlt =>
            hne (String.le_antisymm (String.not_lt.1 hge) (String.not_lt.1 hlt))
        · exact hk b hb

theorem mem_of_get? {key : String} {value : α} {m : Keyed α} (h : get? key m = some value) :
    (key, value) ∈ m := by
  induction m with
  | nil => cases h
  | cons e rest ih =>
    obtain ⟨k, v⟩ := e
    rw [get?] at h
    split at h
    · next heq =>
      cases h
      exact heq ▸ List.mem_cons_self
    · exact List.mem_cons_of_mem _ (ih h)

/-- There is nothing under a key that comes before all others. -/
theorem get?_eq_none_of_lt {key : String} {m : Keyed α} (h : ∀ e ∈ m, key < e.1) :
    get? key m = none := by
  cases hget : get? key m with
  | none => rfl
  | some value => exact absurd (h _ (mem_of_get? hget)) (String.lt_irrefl key)

theorem get?_of_mem {key : String} {value : α} {m : Keyed α} (hsorted : Sorted m)
    (h : (key, value) ∈ m) : get? key m = some value := by
  induction m with
  | nil => cases h
  | cons e rest ih =>
    obtain ⟨hfirst, hrest⟩ := List.pairwise_cons.1 hsorted
    rcases List.mem_cons.1 h with rfl | h
    · rw [get?, if_pos rfl]
    · have hlt : e.1 < key := hfirst (key, value) h
      have hne : e.1 ≠ key := fun heq => String.lt_irrefl key (heq ▸ hlt)
      rw [get?, if_neg hne, ih hrest h]

/-- **Collections in which all lookups find the same are the same.** -/
theorem ext_of_sorted {m m' : Keyed α} (hm : Sorted m) (hm' : Sorted m')
    (h : ∀ key, get? key m = get? key m') : m = m' := by
  induction m generalizing m' with
  | nil =>
    cases m' with
    | nil => rfl
    | cons e rest =>
      have hfound := (h e.1).trans (get?_of_mem hm' List.mem_cons_self)
      cases hfound
  | cons e rest ih =>
    obtain ⟨hfirst, hrest⟩ := List.pairwise_cons.1 hm
    have hmem : e ∈ m' := mem_of_get? ((h e.1).symm.trans (get?_of_mem hm List.mem_cons_self))
    cases m' with
    | nil => cases hmem
    | cons e' rest' =>
      obtain ⟨hfirst', hrest'⟩ := List.pairwise_cons.1 hm'
      have hmem' : e' ∈ e :: rest :=
        mem_of_get? ((h e'.1).trans (get?_of_mem hm' List.mem_cons_self))
      -- neither of the two first entries can come after the other one
      have heq : e = e' := by
        rcases List.mem_cons.1 hmem with heq | hlater
        · exact heq
        · rcases List.mem_cons.1 hmem' with heq | hlater'
          · exact heq.symm
          · exact absurd (String.lt_trans (hfirst _ hlater') (hfirst' _ hlater))
              (String.lt_irrefl _)
      subst heq
      refine congrArg (e :: ·) (ih hrest hrest' fun key => ?_)
      have hkey := h key
      by_cases hhead : e.1 = key
      · subst hhead
        rw [get?_eq_none_of_lt hfirst, get?_eq_none_of_lt hfirst']
      · rwa [get?, get?, if_neg hhead, if_neg hhead] at hkey

section Changes

variable {β : Type u} {f : Option α → β → α} {later : Keyed β} {base : Keyed α}

/-- What a lookup finds after entries were set, each of them from what stood under its key
before. -/
theorem get?_foldl_insert (h : Sorted later) (key : String) :
    get? key (later.foldl (fun acc e => insert e.1 (f (get? e.1 acc) e.2) acc) base) =
      ((get? key later).map (f (get? key base))).or (get? key base) := by
  induction later generalizing base with
  | nil => rfl
  | cons e rest ih =>
    obtain ⟨hfirst, hrest⟩ := List.pairwise_cons.1 h
    rw [List.foldl_cons, ih hrest, get?_insert, get?]
    by_cases hkey : e.1 = key
    · subst hkey
      rw [get?_eq_none_of_lt hfirst, if_pos rfl, if_pos rfl]
      rfl
    · rw [if_neg hkey, if_neg hkey]

theorem sorted_foldl_insert (h : Sorted base) :
    Sorted (later.foldl (fun acc e => insert e.1 (f (get? e.1 acc) e.2) acc) base) := by
  induction later generalizing base with
  | nil => exact h
  | cons e rest ih => exact ih (sorted_insert h)

end Changes

variable {base later last : Keyed α}

/-- Of two entries under one key the later one is found. -/
theorem get?_extend (h : Sorted later) (key : String) :
    get? key (extend base later) = (get? key later).or (get? key base) := by
  rw [extend, get?_foldl_insert (f := fun _ v => v) h, Option.map_id']

theorem sorted_extend (h : Sorted base) : Sorted (extend base later) :=
  sorted_foldl_insert (f := fun _ v => v) h

theorem extend_assoc (hbase : Sorted base) (hlater : Sorted later) (hlast : Sorted last) :
    extend (extend base later) last = extend base (extend later last) := by
  have hboth : Sorted (extend later last) := sorted_extend hlater
  refine ext_of_sorted (sorted_extend (sorted_extend hbase)) (sorted_extend hbase) fun key => ?_
  rw [get?_extend hlast, get?_extend hlater, get?_extend hboth, get?_extend hlast, Option.or_assoc]

/-- Collecting the entries of a collection gives that collection. -/
theorem ofList_of_sorted {m : Keyed α} (h : Sorted m) : ofList m = m := by
  refine ext_of_sorted (sorted_extend .nil) h fun key => ?_
  rw [ofList, get?_extend h, get?_nil, Option.or_none]

theorem ofList_append (entries entries' : List (String × α)) :
    ofList (entries ++ entries') = extend (ofList entries) entries' :=
  List.foldl_append

end Keyed

end Intake
