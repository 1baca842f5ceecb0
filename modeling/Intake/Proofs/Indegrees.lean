import Mathlib.Data.List.Sort
import Intake.Proofs.Ready

/-!
# The loop that takes ready places

* `Progress.Tracks`: its invariant. Each place waits for as many places as there are edges to it
  from places that are not taken, and those are ready to which no such edge leads.
* `Progress.Counts.release`, `Progress.Tracks.turn`: what a release keeps, and a turn of the loop.
* `Progress.Tracks.taken`: what a whole run of the loop leaves.
* `Graph.order_eq_orderOf`: **the loop comes to the specified order**, or to the specified place on
  a cycle.
-/

namespace Intake.Graph

variable {g : Graph} {edges : List (Nat × Nat)} {places targets released rest : List Nat}
  {s : Progress} {i place size : Nat}

/-! ### Places in ascending order -/

theorem insertPlace_of_lt (h : ∀ p ∈ places, place < p) :
    insertPlace place places = place :: places := by
  cases places with
  | nil => rfl
  | cons p rest => rw [insertPlace, if_pos (h p List.mem_cons_self)]

/-- Of ascending places one more is chosen. -/
theorem insertPlace_filter (hsorted : places.Pairwise (· < ·)) (hmem : place ∈ places)
    (chosen : Nat → Bool) :
    insertPlace place (places.filter chosen) = places.filter fun i => i == place || chosen i := by
  -- on the places; what stands before the new one stays, what stands behind it moves back
  induction places with
  | nil => cases hmem
  | cons p rest ih =>
    obtain ⟨hfirst, hrest⟩ := List.pairwise_cons.1 hsorted
    rcases List.mem_cons.1 hmem with rfl | hmem
    · have hothers : ((place :: rest).filter fun i => i == place || chosen i) =
          place :: rest.filter chosen := by
        rw [List.filter_cons, if_pos (by simp)]
        congr 1
        apply List.filter_congr
        intro i hi
        have hne : (i == place) = false := beq_false_of_ne (Nat.ne_of_gt (hfirst i hi))
        rw [hne, Bool.false_or]
      rw [hothers]
      by_cases hp : chosen place = true
      · rw [List.filter_cons_of_pos hp, insertPlace, if_neg (Nat.lt_irrefl _), if_pos rfl]
      · rw [List.filter_cons_of_neg hp]
        exact insertPlace_of_lt fun p hmem => hfirst p (List.mem_filter.1 hmem).1
    · have hlt : p < place := hfirst place hmem
      have hne : (p == place) = false := beq_false_of_ne (Nat.ne_of_lt hlt)
      by_cases hp : chosen p = true
      · have hchosen : (p == place || chosen p) = true := by rw [hp, Bool.or_true]
        rw [List.filter_cons_of_pos hp, List.filter_cons, if_pos hchosen, insertPlace,
          if_neg (Nat.lt_asymm hlt), if_neg (Nat.ne_of_gt hlt), ih hrest hmem]
      · have hchosen : ¬ (p == place || chosen p) = true := by rwa [hne, Bool.false_or]
        rw [List.filter_cons_of_neg hp, List.filter_cons, if_neg hchosen, ih hrest hmem]

/-! ### The counts -/

/-- Each place is counted as often as it is among the `targets`, and of the `places` those are
ready that are not among them. -/
structure Progress.Counts (size : Nat) (places targets : List Nat) (s : Progress) : Prop where
  indegree : s.indegree = (List.range size).map fun i => targets.count i
  ready : s.ready = places.filter fun i => decide (i ∉ targets)

namespace Progress.Counts

theorem of_perm {targets' : List Nat} (h : s.Counts size places targets)
    (hperm : targets.Perm targets') : s.Counts size places targets' where
  indegree := by simp only [h.indegree, hperm.count_eq]
  ready := by simp only [h.ready, hperm.mem_iff]

/-- How often a place is counted. -/
theorem indegree_getElem? (h : s.Counts size places targets) (hi : i < size) :
    s.indegree[i]? = some (targets.count i) := by
  rw [h.indegree, List.getElem?_map, List.getElem?_range hi]
  rfl

/-- **A release takes one target away.** -/
theorem release (h : s.Counts size places (place :: targets))
    (hsorted : places.Pairwise (· < ·)) (hmem : place ∈ places) (hlt : place < size) :
    (s.release place).Counts size places targets := by
  have hcount : s.indegree[place]? = some (targets.count place + 1) := by
    rw [h.indegree_getElem? hlt, List.count_cons_self]
  -- all counts but one stay
  have hset : s.indegree.set place (targets.count place) =
      (List.range size).map fun i => targets.count i := by
    rw [h.indegree]
    apply List.ext_getElem
    · simp
    · intro i _ _
      by_cases hi : place = i <;> simp [hi]
  unfold Progress.release
  rw [hcount]
  refine ⟨hset, ?_⟩
  simp only
  by_cases hlast : targets.count place = 0
  · have hnot : place ∉ targets := List.count_eq_zero.1 hlast
    rw [if_pos hlast, h.ready, insertPlace_filter hsorted hmem]
    apply List.filter_congr
    intro i _
    by_cases hi : i = place <;> simp [hi, hnot]
  · have hin : place ∈ targets := List.count_pos_iff.1 (Nat.pos_of_ne_zero hlast)
    rw [if_neg hlast, h.ready]
    apply List.filter_congr
    intro i _
    by_cases hi : i = place <;> simp [hi, hin]

/-- Releases take their targets away, one after the other. -/
theorem foldl_release (h : s.Counts size places (released ++ targets))
    (hsorted : places.Pairwise (· < ·)) (hmem : ∀ p ∈ released, p ∈ places)
    (hlt : ∀ p ∈ places, p < size) : (released.foldl Progress.release s).Counts size places targets := by
  induction released generalizing s with
  | nil => exact h
  | cons p rest ih =>
    have hp := hmem p List.mem_cons_self
    exact ih (h.release hsorted hp (hlt p hp)) fun q hq => hmem q (List.mem_cons_of_mem p hq)

/-- The first ready place is taken out. -/
theorem pop (h : s.Counts size places targets) (hn : places.Nodup) (hready : s.ready = i :: rest) :
    Progress.Counts size (places.erase i) targets { s with ready := rest } where
  indegree := h.indegree
  ready := by
    have hrest : (i :: rest).Nodup := hready ▸ h.ready ▸ hn.filter _
    have hfirst : i ∉ rest := (List.nodup_cons.1 hrest).1
    rw [hn.erase_eq_filter, List.filter_comm, ← h.ready, hready, List.filter_cons_of_neg (by simp)]
    refine (List.filter_eq_self.2 ?_).symm
    intro p hp
    have hne : p ≠ i := fun heq => hfirst (heq ▸ hp)
    simpa using hne

end Progress.Counts

/-! ### The invariant -/

/-- What holds between two turns of the loop: `places` are not taken, and `edges` are those that
come from them. -/
structure Progress.Tracks (g : Graph) (edges : List (Nat × Nat)) (places : List Nat)
    (s : Progress) : Prop where
  sorted : places.Pairwise (· < ·)
  below : ∀ p ∈ places, p < g.size
  among : Among edges places
  edges_eq : edges = g.edges.filter fun e => decide (e.1 ∈ places)
  counts : s.Counts g.size places (edges.map (·.2))

/-- No edge leads to a place exactly if the place is no target. -/
theorem ready_eq_decide : (edges.all fun e => e.2 != i) = decide (i ∉ edges.map (·.2)) := by
  rw [Bool.eq_iff_iff, ready_iff, decide_eq_true_iff]
  simp [Edge]

/-- The start of the loop. -/
theorem start_tracks (hamong : Among g.edges (List.range g.size)) :
    g.start.Tracks g g.edges (List.range g.size) where
  sorted := List.pairwise_lt_range
  below p hp := List.mem_range.1 hp
  among := hamong
  edges_eq := (List.filter_eq_self.2 fun e he => decide_eq_true (hamong e he).1).symm
  counts := by
    have hcount (i : Nat) : (g.edges.countP fun e => e.2 == i) = (g.edges.map (·.2)).count i := by
      rw [List.count, List.countP_map]
      rfl
    refine ⟨by simp only [start, hcount], ?_⟩
    apply List.filter_congr
    intro i hi
    rw [List.getElem?_map, List.getElem?_range (List.mem_range.1 hi)]
    simp only [Option.map_some, hcount]
    rw [Bool.eq_iff_iff, beq_iff_eq, decide_eq_true_iff, Option.some.injEq, List.count_eq_zero]

namespace Progress.Tracks

/-- The place that is taken is the one that the search for a ready place finds. -/
theorem find?_eq (h : s.Tracks g edges places) :
    (places.find? fun i => edges.all fun e => e.2 != i) = s.ready.head? := by
  rw [h.counts.ready, List.head?_filter]
  simp only [ready_eq_decide]

theorem find?_of_ready (h : s.Tracks g edges places) (hready : s.ready = i :: rest) :
    (places.find? fun i => edges.all fun e => e.2 != i) = some i := by
  rw [h.find?_eq, hready]
  rfl

/-- **A turn of the loop** takes a place, and then the edges from it are gone. -/
theorem turn (h : s.Tracks g edges places) (hready : s.ready = i :: rest) :
    Progress.Tracks g (edges.filter fun e => e.1 != i) (places.erase i)
      ((followers g.edges i).foldl Progress.release { s with ready := rest }) := by
  have hfind := h.find?_of_ready hready
  have hn : places.Nodup := h.sorted.imp Nat.ne_of_lt
  have hmem : i ∈ places := List.mem_of_find?_eq_some hfind
  have hsorted : (places.erase i).Pairwise (· < ·) := h.sorted.erase i
  have hbelow : ∀ p ∈ places.erase i, p < g.size := fun p hp => h.below p (List.mem_of_mem_erase hp)
  -- edges from places that were taken before are gone, so none of them is released twice
  have hfollow : followers g.edges i = (edges.filter fun e => e.1 == i).map (·.2) := by
    unfold followers
    rw [h.edges_eq, List.filter_filter]
    congr 1
    apply List.filter_congr
    intro e _
    by_cases he : e.1 = i <;> simp [he, hmem]
  refine ⟨hsorted, hbelow, h.among.erase (ready_of_find? hfind), ?_, ?_⟩
  · conv_lhs => rw [h.edges_eq]
    rw [List.filter_filter]
    apply List.filter_congr
    intro e _
    rw [Bool.eq_iff_iff]
    simp [hn.mem_erase_iff]
  · refine Counts.foldl_release ?_ hsorted ?_ hbelow
    · refine (h.counts.pop hn hready).of_perm ?_
      rw [hfollow, ← List.map_append]
      exact (List.filter_append_perm (fun e => e.1 == i) edges).symm.map _
    · intro p hp
      rw [hfollow] at hp
      -- a follower is not the place itself, which has no edge to it
      obtain ⟨e, he, rfl⟩ := List.mem_map.1 hp
      have hedge := (List.mem_filter.1 he).1
      have hne : e.2 ≠ i := by
        intro heq
        exact ready_of_find? hfind e.1 (heq ▸ hedge)
      exact (List.mem_erase_of_ne hne).2 (h.among e hedge).2

/-- **What a run of the loop leaves.** If places are left, none of them is ready, and the
specification reports one of them; else all are taken, in the specified order. -/
theorem taken (h : s.Tracks g edges places) :
    ∃ left stuck final, Progress.Tracks g left stuck final ∧ final.ready = [] ∧
      (Graph.taken g.edges s).2 = final.indegree ∧
      (Graph.taken g.edges s).1.length + stuck.length = places.length ∧
      orderOf edges places =
        match stuck with
        | [] => .ok (Graph.taken g.edges s).1
        | first :: _ => .error (revisited left stuck first) := by
  generalize hes : g.edges = es
  -- on the turns of the loop: `turn` keeps the invariant, with fewer edges and places
  fun_induction Graph.taken es s generalizing edges places with
  | case1 s hready =>
    refine ⟨edges, places, s, h, hready, rfl, by simp, ?_⟩
    have hfind := h.find?_eq
    rw [hready, List.head?_nil] at hfind
    rw [orderOf]
    split
    · next hsome => cases hfind.symm.trans hsome
    · cases places <;> rfl
  | case2 s i rest hready order final heq ih =>
    subst hes
    obtain ⟨left, stuck, s', htracks, hnone, hleft, hlength, horder⟩ := ih (h.turn hready)
    have hfind := h.find?_of_ready hready
    have hmem : i ∈ places := List.mem_of_find?_eq_some hfind
    rw [heq] at hleft hlength horder
    refine ⟨left, stuck, s', htracks, hnone, hleft, ?_, ?_⟩
    · rw [List.length_erase_of_mem hmem] at hlength
      have hpos := List.length_pos_of_mem hmem
      simp only [List.length_cons] at hlength ⊢
      omega
    · rw [orderOf_of_ready hfind, horder]
      cases stuck <;> rfl

/-- If no place is ready, those wait for others that are not taken. -/
theorem waits_iff (h : s.Tracks g edges places) (hready : s.ready = []) :
    (s.indegree[i]?.any fun n => decide (0 < n)) = true ↔ i ∈ places := by
  constructor
  · intro hwaits
    rw [h.counts.indegree, List.getElem?_map] at hwaits
    by_cases hi : i < g.size
    · rw [List.getElem?_range hi] at hwaits
      have htarget : i ∈ edges.map (·.2) := List.count_pos_iff.1 (by simpa using hwaits)
      obtain ⟨e, he, rfl⟩ := List.mem_map.1 htarget
      exact (h.among e he).2
    · rw [List.getElem?_eq_none (by simpa using hi)] at hwaits
      cases hwaits
  · intro hi
    have htarget : i ∈ edges.map (·.2) := by
      have hnot := List.filter_eq_nil_iff.1 (h.counts.ready.symm.trans hready) i hi
      simpa using hnot
    rw [h.counts.indegree_getElem? (h.below i hi)]
    simpa using List.count_pos_iff.2 htarget

end Progress.Tracks

/-- Where the walk back goes depends only on which of the places that it can come to are not
visited. -/
theorem revisited_congr {u v : List Nat} (hfrom : ∀ e ∈ edges, e.1 ∈ places)
    (hu : u.Nodup) (hv : v.Nodup) (huv : ∀ p ∈ places, p ∈ u ↔ p ∈ v) (hplace : place ∈ places) :
    revisited edges u place = revisited edges v place := by
  fun_induction revisited edges u place generalizing v with
  | case1 u place hmem e hfind _ _ ih =>
    have he := hfrom e (List.mem_of_find?_eq_some hfind)
    -- a place that is passed is seen from then on in both walks
    have hseen : ∀ p ∈ places, p ∈ u.erase place ↔ p ∈ v.erase place := by
      intro p hp
      rw [hu.mem_erase_iff, hv.mem_erase_iff, huv p hp]
    have hstep : revisited edges v place = revisited edges (v.erase place) e.1 := by
      rw [revisited, dif_pos ((huv place hplace).1 hmem)]
      split
      · next e' hfind' =>
        obtain rfl : e = e' := Option.some.inj (hfind.symm.trans hfind')
        rfl
      · next hnone => cases hfind.symm.trans hnone
    rw [ih (hu.erase _) (hv.erase _) hseen he, hstep]
  | case2 u place hmem hfind =>
    rw [revisited, dif_pos ((huv place hplace).1 hmem)]
    split
    · next hsome => cases hfind.symm.trans hsome
    · rfl
  | case3 u place hnot => rw [revisited, dif_neg fun h => hnot ((huv place hplace).2 h)]

/-- **The loop comes to the specified order**, or to the specified place on a cycle. -/
theorem order_eq_orderOf (hamong : Among g.edges (List.range g.size)) :
    g.order = orderOf g.edges (List.range g.size) := by
  obtain ⟨left, stuck, final, htracks, hready, hleft, hlength, horder⟩ :=
    (start_tracks hamong).taken
  rw [horder]
  rw [List.length_range] at hlength
  change (if (Graph.taken g.edges g.start).1.length = g.size then
      Except.ok (Graph.taken g.edges g.start).1
    else Except.error (g.cyclePlace (Graph.taken g.edges g.start).2)) = _
  cases stuck with
  | nil => exact if_pos (by simpa using hlength)
  -- the places that wait are just those left, of which the walk starts at the smallest
  | cons first others =>
    have hwaits (i : Nat) :
        ((Graph.taken g.edges g.start).2[i]?.any fun n => decide (0 < n)) =
          decide (i ∈ first :: others) := by
      rw [Bool.eq_iff_iff, decide_eq_true_iff, hleft, htracks.waits_iff hready]
    have hstuck : (List.range g.size).filter (fun i => decide (i ∈ first :: others)) =
        first :: others := by
      refine List.Pairwise.eq_of_mem_iff (List.pairwise_lt_range.filter _) htracks.sorted ?_
      intro i
      rw [List.mem_filter, decide_eq_true_iff, List.mem_range]
      exact ⟨fun h => h.2, fun h => ⟨htracks.below i h, h⟩⟩
    have hfirst : ((List.range g.size).find? fun i => decide (i ∈ first :: others)) =
        some first := by
      rw [← List.head?_filter, hstuck]
      rfl
    have hshort : (Graph.taken g.edges g.start).1.length ≠ g.size := by
      rw [List.length_cons] at hlength
      omega
    rw [if_neg hshort]
    simp only [cyclePlace, hwaits, hfirst, ← htracks.edges_eq]
    congr 1
    -- the walk back never leaves the places left, so it does not matter which others count as seen
    refine revisited_congr (fun e he => (htracks.among e he).1) List.nodup_range
      (htracks.sorted.imp Nat.ne_of_lt) ?_ List.mem_cons_self
    intro p hp
    exact ⟨fun _ => hp, fun _ => List.mem_range.2 (htracks.below p hp)⟩

end Intake.Graph
