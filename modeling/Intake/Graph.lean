/-!
# Dependency graphs

Places numbered from zero, with edges from each place to those that have to wait for it.

* `Progress`: how many places each place still waits for, and which ones are ready.
* `Graph.taken`: ready places are taken one after the other, which makes others ready.
* `Graph.order`: all places in an order that every edge follows, of several ready ones always the
  smallest first; else a place on a cycle.
-/

namespace Intake

/-- Places and the edges between them. -/
structure Graph where
  /-- The number of places. -/
  size : Nat
  /-- Each edge once, in the order in which they were added. -/
  edges : List (Nat × Nat) := []
deriving DecidableEq, Repr

namespace Graph

/-- Makes `target` wait for `source`. -/
def addEdge (g : Graph) (source target : Nat) : Graph :=
  if (source, target) ∈ g.edges then g
  else { g with edges := g.edges ++ [(source, target)] }

/-- The graph with these edges. -/
def ofEdges (size : Nat) (edges : List (Nat × Nat)) : Graph :=
  edges.foldl (fun g e => g.addEdge e.1 e.2) { size }

/-- The places that wait for a place, in the order of the edges. -/
def followers (edges : List (Nat × Nat)) (place : Nat) : List Nat :=
  (edges.filter fun e => e.1 == place).map (·.2)

/-- A place put among increasing ones, unless it is there already. -/
def insertPlace (place : Nat) : List Nat → List Nat
  | [] => [place]
  | p :: rest =>
    if place < p then place :: p :: rest
    else if place = p then p :: rest
    else p :: insertPlace place rest

theorem length_insertPlace_le (place : Nat) (places : List Nat) :
    (insertPlace place places).length ≤ places.length + 1 := by
  induction places with
  | nil => simp [insertPlace]
  | cons p rest ih =>
    simp only [insertPlace]
    split
    · simp
    · split
      · simp
      · simpa using ih

/-- How far an order has come. -/
structure Progress where
  /-- How many places that are not taken each place waits for. -/
  indegree : List Nat
  /-- The places that are not taken and wait for none, in ascending order. -/
  ready : List Nat
deriving DecidableEq, Repr

namespace Progress

/-- A place waits for one place less, and is ready if that was the last. -/
def release (s : Progress) (place : Nat) : Progress :=
  match s.indegree[place]? with
  | some (left + 1) =>
    { indegree := s.indegree.set place left
      ready := if left = 0 then insertPlace place s.ready else s.ready }
  | _ => s

/-- A bound on the number of places that can still be taken. -/
def weight (s : Progress) : Nat :=
  s.indegree.foldr (· + ·) 0 + s.ready.length

theorem foldr_set_succ {counts : List Nat} {i k : Nat} (h : counts[i]? = some (k + 1)) :
    (counts.set i k).foldr (· + ·) 0 + 1 = counts.foldr (· + ·) 0 := by
  induction counts generalizing i with
  | nil => simp at h
  | cons c rest ih =>
    cases i with
    | zero =>
      obtain rfl : c = k + 1 := by simpa using h
      simp only [List.set_cons_zero, List.foldr_cons]
      omega
    | succ i =>
      have := ih (i := i) (by simpa using h)
      simp only [List.set_cons_succ, List.foldr_cons]
      omega

theorem weight_release_le (s : Progress) (place : Nat) : (s.release place).weight ≤ s.weight := by
  unfold release
  split
  · next left h =>
    have hsum := foldr_set_succ h
    have hlength := length_insertPlace_le place s.ready
    unfold weight
    split <;> simp only <;> omega
  · exact Nat.le_refl _

theorem weight_foldl_release_le (places : List Nat) (s : Progress) :
    (places.foldl release s).weight ≤ s.weight := by
  induction places generalizing s with
  | nil => exact Nat.le_refl _
  | cons place rest ih => exact Nat.le_trans (ih _) (weight_release_le s place)

end Progress

/-- Takes the smallest ready place, as long as there is one, and releases those that wait for it.
Also how many places each place waits for in the end. -/
def taken (edges : List (Nat × Nat)) (s : Progress) : List Nat × List Nat :=
  match _h : s.ready with
  | [] => ([], s.indegree)
  | place :: rest =>
    let (order, left) :=
      taken edges ((followers edges place).foldl Progress.release { s with ready := rest })
    (place :: order, left)
termination_by s.weight
decreasing_by
  refine Nat.lt_of_le_of_lt (Progress.weight_foldl_release_le _ _) ?_
  simp [Progress.weight, _h]

/-- The start of an order: nothing is taken. -/
def start (g : Graph) : Progress :=
  let indegree := (List.range g.size).map fun i => g.edges.countP fun e => e.2 == i
  { indegree, ready := (List.range g.size).filter fun i => indegree[i]? == some 0 }

/-- Walks backwards along edges until it meets a place for the second time. -/
def revisited (edges : List (Nat × Nat)) (unvisited : List Nat) (place : Nat) : Nat :=
  if h : place ∈ unvisited then
    match edges.find? fun e => e.2 == place with
    | some e =>
      have := List.length_erase_of_mem h
      have := List.length_pos_of_mem h
      revisited edges (unvisited.erase place) e.1
    | none => place
  else place
termination_by unvisited.length
decreasing_by omega

/-- A place on a cycle among those that wait for others in the end. -/
def cyclePlace (g : Graph) (left : List Nat) : Nat :=
  let waits (i : Nat) : Bool := left[i]?.any (0 < ·)
  match (List.range g.size).find? waits with
  | some first => revisited (g.edges.filter fun e => waits e.1) (List.range g.size) first
  | none => 0

/-- All places in an order that every edge follows, or a place on a cycle. -/
def order (g : Graph) : Except Nat (List Nat) :=
  let (order, left) := taken g.edges g.start
  if order.length = g.size then .ok order else .error (g.cyclePlace left)

end Graph

end Intake
