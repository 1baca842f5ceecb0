import Mathlib.Data.List.Nodup
import Intake.Cache

/-!
# Which keys a store forgets

A store is compared with a queue: keys with their values in the order in which the keys came in, of
which the first one goes when there are too many.

* `Queue.put`: what becomes of a queue when a value is set.
* `Cache.Mirrors`: a store holds what a queue holds; its values and the order of its keys are about
  the same keys then.
* `Cache.Mirrors.put`, `Cache.Follows.after`: a value set in both, or any other step, leaves them
  alike.
* `Cache.kept_of_run`: **after any steps a store that was empty holds what the queue holds**, and no
  more than it may.
-/

namespace Intake

/-- Keys with their values, in the order in which the keys came in. -/
abbrev Queue := List (String × Value)

namespace Queue

variable {capacity : Nat} {q : Queue} {key other : String} {v : Value}

/-- The keys, the oldest one first. -/
def keys (q : Queue) : List String := q.map (·.1)

/-- The queue with another value under a key, where it has it. -/
def replace (key : String) (v : Value) (q : Queue) : Queue :=
  q.map fun e => if e.1 = key then (key, v) else e

/-- The queue with a new key at its end. If there are too many then, the oldest one goes. -/
def append (capacity : Nat) (key : String) (v : Value) (q : Queue) : Queue :=
  let longer := q ++ [(key, v)]
  if capacity < longer.length then longer.tail else longer

/-- Sets the value under a key. A key that is there already keeps its place. -/
def put (capacity : Nat) (key : String) (v : Value) (q : Queue) : Queue :=
  if key ∈ q.keys then q.replace key v else q.append capacity key v

theorem lookup_cons (e : String × Value) (rest : Queue) :
    List.lookup key (e :: rest) = if e.1 = key then some e.2 else rest.lookup key := by
  obtain ⟨k, w⟩ := e
  rw [List.lookup_cons]
  by_cases hk : k = key
  · rw [if_pos hk, hk, beq_self_eq_true]
  · rw [if_neg hk, beq_false_of_ne (Ne.symm hk)]

theorem lookup_eq_none_iff : q.lookup key = none ↔ key ∉ q.keys := by
  induction q with
  | nil => exact iff_of_true rfl List.not_mem_nil
  | cons e rest ih =>
    rw [lookup_cons, keys, List.map_cons, List.mem_cons, ← keys, not_or, ← ih, eq_comm (a := key)]
    split
    · next heq => exact iff_of_false nofun fun h => h.1 heq
    · next hne => exact (and_iff_right hne).symm

theorem mem_keys_iff : key ∈ q.keys ↔ ∃ v, q.lookup key = some v := by
  rw [← not_iff_not, ← lookup_eq_none_iff, ← Option.ne_none_iff_exists', not_not]

theorem keys_append_singleton : keys (q ++ [(key, v)]) = q.keys ++ [key] := List.map_append

theorem keys_replace : (q.replace key v).keys = q.keys := by
  unfold keys replace
  rw [List.map_map]
  refine List.map_congr_left fun e _ => ?_
  change (if e.1 = key then (key, v) else e).1 = e.1
  split
  · next heq => exact heq.symm
  · rfl

theorem lookup_replace : (q.replace key v).lookup other =
    if key = other then (q.lookup other).map (fun _ => v) else q.lookup other := by
  induction q with
  | nil => exact (ite_self _).symm
  | cons e rest ih =>
    rw [replace, List.map_cons, lookup_cons, lookup_cons, ← replace, ih]
    by_cases hkey : e.1 = key
    · subst hkey
      by_cases hother : e.1 = other <;> simp [hother]
    · by_cases hother : e.1 = other
      · subst hother
        simp [hkey, Ne.symm hkey]
      · simp [hkey, hother]

/-- Behind its first entry a queue has no entry under the same key. -/
theorem lookup_of_nodup_cons {e : String × Value} (h : (keys (e :: q)).Nodup) :
    q.lookup key = if e.1 = key then none else List.lookup key (e :: q) := by
  have hfirst : e.1 ∉ q.keys := (List.nodup_cons.1 h).1
  rw [lookup_cons]
  split
  · next heq => exact lookup_eq_none_iff.2 (heq ▸ hfirst)
  · rfl

/-- A value that is set is there then: the key that goes is an older one. -/
theorem lookup_put (h : q.length ≤ capacity) (hpos : 0 < capacity) :
    (q.put capacity key v).lookup key = some v := by
  unfold put
  split
  · next hkey =>
    obtain ⟨w, hw⟩ := mem_keys_iff.1 hkey
    rw [lookup_replace, if_pos rfl, hw, Option.map_some]
  · next hkey =>
    have hlast : ∀ {q : Queue}, key ∉ q.keys → List.lookup key (q ++ [(key, v)]) = some v := by
      intro q hkey
      rw [List.lookup_append, lookup_eq_none_iff.2 hkey, Option.none_or, List.lookup_cons_self]
    simp only [append]
    split
    · cases q with
      | nil =>
        next hfull => exact absurd hfull (Nat.not_lt.2 hpos)
      | cons e rest => exact hlast fun hmem => hkey (List.mem_cons_of_mem _ hmem)
    · exact hlast hkey

/-- A queue never has more keys than it may. -/
theorem length_put_le (h : q.length ≤ capacity) : (q.put capacity key v).length ≤ capacity := by
  unfold put
  split
  · rwa [replace, List.length_map]
  · simp only [append]
    split
    · rw [List.length_tail, List.length_append]
      exact h
    · next hroom => exact Nat.le_of_not_lt hroom

end Queue

namespace Cache

variable {c : Cache} {q : Queue} {key : String} {v : Value}

/-- A value is set and no key has to go. -/
theorem put_of_room (h : (c.orderAfter key).length ≤ c.capacity) :
    c.put key v =
      { c with values := Keyed.insert key v c.values, order := c.orderAfter key } := by
  have hexcess := Nat.sub_eq_zero_of_le h
  simp only [put]
  rw [hexcess, List.take_zero, List.foldl_nil, List.drop_zero]

/-- A value is set and the oldest key goes. -/
theorem put_of_excess {oldest : String} {rest : List String}
    (horder : c.orderAfter key = oldest :: rest) (h : rest.length = c.capacity) :
    c.put key v =
      { c with values := Keyed.erase oldest (Keyed.insert key v c.values), order := rest } := by
  have hexcess : (oldest :: rest).length - c.capacity = 1 := by
    rw [List.length_cons, h, Nat.add_sub_cancel_left]
  simp only [put]
  rw [horder, hexcess]
  rfl

/-- A store holds what a queue holds. -/
structure Mirrors (c : Cache) (q : Queue) : Prop where
  sorted : Keyed.Sorted c.values
  order : c.order = q.keys
  nodup : q.keys.Nodup
  get? : ∀ key, c.get? key = q.lookup key

namespace Mirrors

/-- The keys of the values are those in the order. -/
theorem mem_keys (h : c.Mirrors q) : key ∈ Keyed.keys c.values ↔ key ∈ c.order := by
  rw [h.order, Queue.mem_keys_iff, ← h.get?, Keyed.keys, List.mem_map]
  constructor
  · rintro ⟨⟨k, w⟩, hmem, rfl⟩
    exact ⟨w, Keyed.get?_of_mem h.sorted hmem⟩
  · rintro ⟨w, hw⟩
    exact ⟨(key, w), Keyed.mem_of_get? hw, rfl⟩

/-- There are as many values as keys in the order. -/
theorem size_eq (h : c.Mirrors q) : c.size = q.length := by
  have hvalues : (Keyed.keys c.values).Nodup := by
    refine List.pairwise_map.2 (h.sorted.imp ?_)
    intro a b hlt heq
    exact String.lt_irrefl b.1 (heq ▸ hlt)
  have hperm : (Keyed.keys c.values).Perm c.order :=
    (List.perm_ext_iff_of_nodup hvalues (h.order ▸ h.nodup)).2 fun _ => h.mem_keys
  rw [h.order] at hperm
  have hlength := hperm.length_eq
  rwa [Keyed.keys, Queue.keys, List.length_map, List.length_map] at hlength

theorem orderAfter_of_mem (h : c.Mirrors q) (hkey : key ∈ q.keys) : c.orderAfter key = q.keys := by
  obtain ⟨w, hw⟩ := Queue.mem_keys_iff.1 hkey
  unfold orderAfter
  rw [h.get?, hw]
  exact h.order

theorem orderAfter_of_not_mem (h : c.Mirrors q) (hkey : key ∉ q.keys) :
    c.orderAfter key = q.keys ++ [key] := by
  unfold orderAfter
  rw [h.get?, Queue.lookup_eq_none_iff.2 hkey, h.order]

/-- Another value under a key that is there. -/
theorem replace (h : c.Mirrors q) (hkey : key ∈ q.keys) :
    Mirrors { c with values := Keyed.insert key v c.values, order := q.keys }
      (q.replace key v) := by
  obtain ⟨w, hw⟩ := Queue.mem_keys_iff.1 hkey
  refine ⟨Keyed.sorted_insert h.sorted, Queue.keys_replace.symm, ?_, ?_⟩
  · rw [Queue.keys_replace]
    exact h.nodup
  · intro other
    have hother : Keyed.get? other c.values = q.lookup other := h.get? other
    refine (Keyed.get?_insert key other v c.values).trans ?_
    rw [Queue.lookup_replace, hother]
    split
    · next heq => rw [← heq, hw, Option.map_some]
    · rfl

/-- A key that was not there, as the youngest one. -/
theorem add (h : c.Mirrors q) (hkey : key ∉ q.keys) :
    Mirrors { c with values := Keyed.insert key v c.values, order := q.keys ++ [key] }
      (q ++ [(key, v)]) := by
  refine ⟨Keyed.sorted_insert h.sorted, Queue.keys_append_singleton.symm, ?_, ?_⟩
  · rw [Queue.keys_append_singleton]
    exact List.concat_eq_append ▸ h.nodup.concat hkey
  · intro other
    have hother : Keyed.get? other c.values = q.lookup other := h.get? other
    refine (Keyed.get?_insert key other v c.values).trans ?_
    rw [List.lookup_append, Queue.lookup_cons, hother]
    split
    · next heq => rw [← heq, Queue.lookup_eq_none_iff.2 hkey, Option.none_or]
    · exact Option.or_none.symm

/-- The oldest key goes. -/
theorem dropOldest {e : String × Value} (h : c.Mirrors (e :: q)) :
    Mirrors { c with values := Keyed.erase e.1 c.values, order := q.keys } q := by
  refine ⟨h.sorted.filter _, rfl, (List.nodup_cons.1 h.nodup).2, ?_⟩
  intro other
  have hother : Keyed.get? other c.values = List.lookup other (e :: q) := h.get? other
  refine (Keyed.get?_erase e.1 other c.values).trans ?_
  rw [Queue.lookup_of_nodup_cons h.nodup, hother]

/-- **Setting a value leaves a store and a queue alike.** There is room for one key at least, so the
key that goes is never the one that is set. -/
theorem put (h : c.Mirrors q) (hroom : q.length ≤ c.capacity) :
    (c.put key v).Mirrors (q.put c.capacity key v) := by
  have hkeys : q.keys.length = q.length := List.length_map _
  unfold Queue.put
  split
  · next hkey =>
    have horder := h.orderAfter_of_mem hkey
    rw [put_of_room (by rw [horder, hkeys]; exact hroom), horder]
    exact h.replace hkey
  · next hkey =>
    have horder := h.orderAfter_of_not_mem hkey
    have hadd := h.add (v := v) hkey
    have hlonger : (q ++ [(key, v)]).length = q.length + 1 := List.length_append
    simp only [Queue.append]
    split
    · next hfull =>
      rw [hlonger] at hfull
      -- one key too many, and there is an older one before it
      cases q with
      | nil => exact absurd hfull (Nat.not_lt.2 c.capacity_pos)
      | cons e rest =>
        have hexcess : c.orderAfter key = e.1 :: Queue.keys (rest ++ [(key, v)]) := by
          rw [horder, Queue.keys_append_singleton]
          rfl
        have hlength : (Queue.keys (rest ++ [(key, v)])).length = c.capacity := by
          rw [Queue.keys, List.length_map, List.length_append]
          exact Nat.le_antisymm hroom (Nat.le_of_lt_succ hfull)
        rw [put_of_excess hexcess hlength]
        exact hadd.dropOldest
    · next hfits =>
      have hlength : (c.orderAfter key).length ≤ c.capacity := by
        rw [horder, List.length_append, hkeys]
        exact hlonger ▸ Nat.le_of_not_lt hfits
      rw [put_of_room hlength, horder]
      exact hadd

end Mirrors

/-- What can be done with a store. -/
inductive Step where
  | put (key : String) (v : Value)
  | clear
  /-- The entries of the store take what they can from a record. -/
  | store (r : Record) (parser : String)

namespace Step

/-- What a step makes of a store. -/
def onStore : Step → Cache → Cache
  | put key v, c => (c.putNoted key v).value
  | clear, c => c.clearNoted.value
  | store r parser, c => (c.store r parser).value

/-- What a step makes of a queue, with the capacity and the entries of a store. -/
def onQueue (start : Cache) : Step → Queue → Queue
  | put key v, q => q.put start.capacity key v
  | clear, _ => []
  | store r parser, q =>
    (start.takings r parser).foldl (fun q e => q.put start.capacity e.1 e.2) q

end Step

/-- The store after steps. -/
def run (c : Cache) (steps : List Step) : Cache :=
  steps.foldl (fun c step => step.onStore c) c

/-- What is taken from a record is set entry by entry. -/
theorem value_store (c : Cache) (r : Record) (parser : String) :
    (c.store r parser).value = (c.takings r parser).foldl (fun c e => c.put e.1 e.2) c := by
  have hfold : ∀ (entries : List (String × Value)) (c : Cache),
      (entries.foldlM (fun c e => c.putNoted e.1 e.2) c : Noted Cache).value =
        entries.foldl (fun c e => c.put e.1 e.2) c := by
    intro entries
    induction entries with
    | nil => exact fun _ => rfl
    | cons e rest ih => exact fun c => ih (c.put e.1 e.2)
  rw [← hfold]
  simp only [store, Noted.value_bind]
  split
  · rfl
  · rfl

/-- A store mirrors a queue, has room for it, and is otherwise as it was at the start. -/
structure Follows (start c : Cache) (q : Queue) : Prop where
  mirrors : c.Mirrors q
  bounded : q.length ≤ start.capacity
  capacity : c.capacity = start.capacity
  entries : c.entries = start.entries

namespace Follows

variable {start : Cache}

theorem put (h : start.Follows c q) (key : String) (v : Value) :
    start.Follows (c.put key v) (q.put start.capacity key v) := by
  have hroom : q.length ≤ c.capacity := h.capacity ▸ h.bounded
  exact ⟨h.capacity ▸ h.mirrors.put hroom, Queue.length_put_le h.bounded, h.capacity, h.entries⟩

theorem putAll (h : start.Follows c q) (entries : List (String × Value)) :
    start.Follows (entries.foldl (fun c e => c.put e.1 e.2) c)
      (entries.foldl (fun q e => q.put start.capacity e.1 e.2) q) := by
  induction entries generalizing c q with
  | nil => exact h
  | cons e rest ih => exact ih (h.put e.1 e.2)

/-- One step. -/
theorem after (h : start.Follows c q) (step : Step) :
    start.Follows (step.onStore c) (step.onQueue start q) := by
  cases step with
  | put key v => exact h.put key v
  | clear => exact ⟨⟨.nil, rfl, .nil, fun _ => rfl⟩, Nat.zero_le _, h.capacity, h.entries⟩
  | store r parser =>
    have htakings : c.takings r parser = start.takings r parser := by
      unfold takings
      rw [h.entries]
    simp only [Step.onStore, Step.onQueue]
    rw [value_store, htakings]
    exact h.putAll _

/-- Any number of steps. -/
theorem run (h : start.Follows c q) (steps : List Step) :
    start.Follows (c.run steps) (steps.foldl (fun q step => step.onQueue start q) q) := by
  induction steps generalizing c q with
  | nil => exact h
  | cons step rest ih => exact ih (h.after step)

end Follows

/-- **What a store keeps.** After any steps from an empty store on, its values and the order of its
keys are about the same keys, each of them once, and there are no more of them than there may be (a
store has room for one at least). They are the keys of the queue after the same steps, in the same
order and with the same values. And a value that is set is there then. -/
theorem kept_of_run (capacity : Nat) (entries : List CacheEntry) (steps : List Step) :
    let start := ofCapacity capacity entries
    let c := start.run steps
    let q := steps.foldl (fun q step => step.onQueue start q) ([] : Queue)
    (∀ key, key ∈ Keyed.keys c.values ↔ key ∈ c.order) ∧ c.order.Nodup ∧
      c.size ≤ max capacity 1 ∧
      (c.order = Queue.keys q ∧ c.size = q.length ∧ ∀ key, c.get? key = q.lookup key) ∧
      ∀ key v, ((Step.put key v).onStore c).get? key = some v := by
  intro start c q
  -- The store and the queue both start empty, and every step keeps them in step.
  have hempty : start.Follows start [] :=
    ⟨⟨.nil, rfl, .nil, fun _ => rfl⟩, Nat.zero_le _, rfl, rfl⟩
  have hrun : start.Follows c q := hempty.run steps
  have hsize := hrun.mirrors.size_eq
  refine ⟨fun key => hrun.mirrors.mem_keys, ?_, ?_, ⟨hrun.mirrors.order, hsize, hrun.mirrors.get?⟩,
    ?_⟩
  · rw [hrun.mirrors.order]
    exact hrun.mirrors.nodup
  · rw [hsize]
    exact hrun.bounded
  · intro key v
    exact ((hrun.put key v).mirrors.get? key).trans
      (Queue.lookup_put hrun.bounded start.capacity_pos)

/-- A key that is set again does not become younger by that. -/
example : ((ofCapacity 2 []).run
    [.put "a" (.int 1), .put "b" (.int 2), .put "a" (.int 3), .put "c" (.int 4)]).order =
      ["b", "c"] := by
  decide +kernel

end Cache

end Intake
