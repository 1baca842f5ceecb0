import Intake.Record.Delivery

/-!
# What is delivered of a record

A tree of records is cut at its flat edges. What is reached from the root through flat edges alone
is delivered by itself, and all else stays where it is.

* `Record.Reaches`: a place in a tree that is reached through flat edges alone.
* `Record.taken`: the records at these places.
* `Place.Before`: a record stands before those inside it, groups stand in the order of their names,
  and the records of a group in the order in which they were added.
* `Record.deliveryUnits_eq`: **the delivery units are what is taken out, in this order; nothing is
  lost, nothing is delivered twice, and every unit but the root knows the record that it was taken
  out of**.
-/

namespace Intake

/-- The way from a record to one inside it: at each step the parser, and the number of the record
among those of this parser. -/
abbrev Place := List (String × Nat)

/-- The order of a walk through a tree: from the outside in, then by the names of parsers, then by
numbers. -/
def Place.Before : Place → Place → Prop
  | _, [] => False
  | [], _ :: _ => True
  | (name, i) :: p, (name', i') :: p' =>
    name < name' ∨ name = name' ∧ (i < i' ∨ i = i' ∧ Before p p')

namespace Record

/-- The groups of a record stand in the order of their names, and so do those of the records inside
it. -/
inductive Ordered : Record → Prop
  | intro {f : Facts} {children : Keyed (List Child)} :
    Keyed.Sorted children → (∀ group ∈ children, ∀ kid ∈ group.2, Ordered kid.record) →
      Ordered (mk f children)

/-- The record at a place is reached through flat edges alone. -/
inductive Reaches : Record → Place → Record → Prop
  | here {r : Record} : Reaches r [] r
  | inward {r c u : Record} {name : String} {kids : List Child} {i : Nat} {place : Place} :
    (name, kids) ∈ r.children → kids[i]? = some ⟨c, true⟩ → Reaches c place u →
      Reaches r ((name, i) :: place) u

mutual

/-- The record and all that is taken out of it, with their places. -/
def taken : Record → List (Place × Record)
  | mk f children => ([], mk f children) :: takenOfGroups children

/-- What is taken out of groups. -/
def takenOfGroups : List (String × List (Nested Record)) → List (Place × Record)
  | [] => []
  | (name, kids) :: groups => takenOfKids name 0 kids ++ takenOfGroups groups

/-- What is taken out of the records of one group, from a number on. -/
def takenOfKids (name : String) : Nat → List (Nested Record) → List (Place × Record)
  | _, [] => []
  | i, ⟨r, flatten⟩ :: kids =>
    (if flatten then (taken r).map fun t => ((name, i) :: t.1, t.2) else []) ++
      takenOfKids name (i + 1) kids

end

mutual

/-- All records inside a record, at any depth. -/
def inside : Record → List Record
  | mk _ children => insideGroups children

/-- All records inside groups. -/
def insideGroups : List (String × List (Nested Record)) → List Record
  | [] => []
  | (_, kids) :: groups => insideKids kids ++ insideGroups groups

/-- All records inside one group. -/
def insideKids : List (Nested Record) → List Record
  | [] => []
  | ⟨r, _⟩ :: kids => r :: inside r ++ insideKids kids

end

/-- The record as a unit with this identifier: without what is taken out of it, and with a parent
if it has none. -/
def asUnit (id : String) (parent : Option String) (r : Record) : Record :=
  mk { r.facts with trackingId := some id, parentId := r.facts.parentId.or parent }
    (staying r.children)

/-- The identifier of the record around the one at a place. Places no longer than `depth` have a
given one around them. -/
def outerId (depth : Nat) (parent : Option String) (idAt : Place → String) (place : Place) :
    Option String :=
  if place.length ≤ depth then parent else some (idAt place.dropLast)

variable {r u : Record} {name : String} {kids : List Child} {groups : Keyed (List Child)}
  {place : Place} {i : Nat}

theorem taken_eq (r : Record) : r.taken = ([], r) :: takenOfGroups r.children := by
  cases r
  rfl

theorem mem_takenOfKids : (place, u) ∈ takenOfKids name i kids ↔
    ∃ j c p, kids[j]? = some ⟨c, true⟩ ∧ place = (name, i + j) :: p ∧ (p, u) ∈ c.taken := by
  induction kids generalizing i with
  | nil => simp [takenOfKids]
  | cons kid kids ih =>
    obtain ⟨c, flatten⟩ := kid
    rw [takenOfKids, List.mem_append, ih]
    constructor
    · rintro (h | ⟨j, c', p, hc', rfl, hu⟩)
      · cases flatten with
        | false => exact absurd h List.not_mem_nil
        | true =>
          obtain ⟨⟨p, u'⟩, hu, heq⟩ := List.mem_map.1 h
          cases heq
          exact ⟨0, c, p, rfl, rfl, hu⟩
      · exact ⟨j + 1, c', p, hc', by rw [Nat.add_right_comm, Nat.add_assoc], hu⟩
    · rintro ⟨j, c', p, hc', rfl, hu⟩
      cases j with
      | zero =>
        cases hc'
        exact .inl (List.mem_map.2 ⟨(p, u), hu, rfl⟩)
      | succ j => exact .inr ⟨j, c', p, hc', by rw [Nat.add_right_comm, Nat.add_assoc], hu⟩

theorem mem_takenOfGroups : (place, u) ∈ takenOfGroups groups ↔
    ∃ name kids, (name, kids) ∈ groups ∧ (place, u) ∈ takenOfKids name 0 kids := by
  induction groups with
  | nil => simp [takenOfGroups]
  | cons group groups ih =>
    obtain ⟨name, kids⟩ := group
    rw [takenOfGroups, List.mem_append, ih]
    constructor
    · rintro (h | ⟨name', kids', hmem, h⟩)
      · exact ⟨name, kids, List.mem_cons_self, h⟩
      · exact ⟨name', kids', List.mem_cons_of_mem _ hmem, h⟩
    · rintro ⟨name', kids', hmem, h⟩
      rcases List.mem_cons.1 hmem with heq | hmem
      · cases heq
        exact .inl h
      · exact .inr ⟨name', kids', hmem, h⟩

/-- **What is taken out of a record** are the records that are reached through flat edges alone. -/
theorem mem_taken : (place, u) ∈ r.taken ↔ r.Reaches place u := by
  rw [taken_eq, List.mem_cons]
  constructor
  · intro h
    induction place generalizing r with
    | nil =>
      rcases h with h | h
      · cases h
        exact .here
      · -- what is inside has a place that is not empty
        obtain ⟨name, kids, -, h⟩ := mem_takenOfGroups.1 h
        obtain ⟨j, c, p, -, heq, -⟩ := mem_takenOfKids.1 h
        cases heq
    | cons step place ih =>
      rcases h with h | h
      · cases h
      · obtain ⟨name, kids, hgroup, h⟩ := mem_takenOfGroups.1 h
        obtain ⟨j, c, p, hkid, heq, hu⟩ := mem_takenOfKids.1 h
        cases heq
        rw [taken_eq, List.mem_cons] at hu
        rw [Nat.zero_add]
        exact .inward hgroup hkid (ih hu)
  · intro h
    induction h with
    | here => exact .inl rfl
    | @inward r c u name kids i place hgroup hkid _ ih =>
      rw [← List.mem_cons, ← taken_eq] at ih
      exact .inr (mem_takenOfGroups.2
        ⟨name, kids, hgroup, mem_takenOfKids.2 ⟨i, c, place, hkid, by rw [Nat.zero_add], ih⟩⟩)

mutual

/-- What is taken out stands in the order of a walk through the tree. -/
theorem taken_inOrder : (r : Record) → r.Ordered → (r.taken.map (·.1)).Pairwise Place.Before
  | mk f children, .intro hsorted hkids => by
    rw [taken, List.map_cons, List.pairwise_cons]
    refine ⟨?_, takenOfGroups_inOrder children hsorted hkids⟩
    intro place hplace
    obtain ⟨⟨place, u⟩, h, rfl⟩ := List.mem_map.1 hplace
    obtain ⟨name, kids, -, h⟩ := mem_takenOfGroups.1 h
    obtain ⟨j, c, p, -, rfl, -⟩ := mem_takenOfKids.1 h
    trivial

theorem takenOfGroups_inOrder : (groups : List (String × List (Nested Record))) →
    Keyed.Sorted groups → (∀ group ∈ groups, ∀ kid ∈ group.2, Ordered kid.record) →
    ((takenOfGroups groups).map (·.1)).Pairwise Place.Before
  | [], _, _ => .nil
  | (name, kids) :: groups, hsorted, hkids => by
    obtain ⟨hfirst, hrest⟩ := List.pairwise_cons.1 hsorted
    rw [takenOfGroups, List.map_append, List.pairwise_append]
    refine ⟨takenOfKids_inOrder name 0 kids (hkids _ List.mem_cons_self),
      takenOfGroups_inOrder groups hrest fun g hg => hkids g (List.mem_cons_of_mem _ hg), ?_⟩
    -- the first step already tells two groups apart
    intro place hplace place' hplace'
    obtain ⟨⟨place, u⟩, h, rfl⟩ := List.mem_map.1 hplace
    obtain ⟨⟨place', u'⟩, h', rfl⟩ := List.mem_map.1 hplace'
    obtain ⟨j, c, p, -, rfl, -⟩ := mem_takenOfKids.1 h
    obtain ⟨name', kids', hgroup, h'⟩ := mem_takenOfGroups.1 h'
    obtain ⟨j', c', p', -, rfl, -⟩ := mem_takenOfKids.1 h'
    exact .inl (hfirst _ hgroup)

theorem takenOfKids_inOrder (name : String) : (i : Nat) → (kids : List (Nested Record)) →
    (∀ kid ∈ kids, Ordered kid.record) →
    ((takenOfKids name i kids).map (·.1)).Pairwise Place.Before
  | _, [], _ => .nil
  | i, ⟨r, flatten⟩ :: kids, hkids => by
    have hrest := takenOfKids_inOrder name (i + 1) kids fun k hk =>
      hkids k (List.mem_cons_of_mem _ hk)
    rw [takenOfKids, List.map_append, List.pairwise_append]
    -- within one child by induction on the record, between children by their places
    refine ⟨?_, hrest, ?_⟩
    · cases flatten with
      | false => exact .nil
      | true =>
        have hinner := taken_inOrder r (hkids _ List.mem_cons_self)
        rw [List.pairwise_map] at hinner
        rw [if_pos rfl, List.map_map, List.pairwise_map]
        exact hinner.imp fun h => .inr ⟨rfl, .inr ⟨rfl, h⟩⟩
    · intro place hplace place' hplace'
      obtain ⟨⟨place', u'⟩, h', rfl⟩ := List.mem_map.1 hplace'
      obtain ⟨j', c', p', -, rfl, -⟩ := mem_takenOfKids.1 h'
      cases flatten with
      | false => exact absurd hplace List.not_mem_nil
      | true =>
        rw [if_pos rfl, List.map_map] at hplace
        obtain ⟨t, -, rfl⟩ := List.mem_map.1 hplace
        exact .inr ⟨rfl, .inl (by omega)⟩

end

/-- All records that stay inside a record, at any depth. -/
def stayingInside (r : Record) : List Record :=
  insideGroups (staying r.children)

/-- A group whose records are all taken out is left out with nothing in it. -/
theorem insideGroups_staying_cons (name : String) (kids : List Child)
    (groups : Keyed (List Child)) :
    insideGroups (staying ((name, kids) :: groups)) =
      insideKids (kids.filter fun kid => !kid.flatten) ++ insideGroups (staying groups) := by
  unfold staying
  rw [List.map_cons, List.filter_cons]
  cases kids.filter fun kid => !kid.flatten <;> rfl

/-- Two lists of three parts each, put together part by part. -/
theorem perm_append_parts {α : Type} (a b c a' b' c' : List α) :
    ((a ++ (b ++ c)) ++ (a' ++ (b' ++ c'))).Perm ((a ++ a') ++ ((b ++ b') ++ (c ++ c'))) := by
  have hinner : ((b ++ c) ++ (b' ++ c')).Perm ((b ++ b') ++ (c ++ c')) := by
    simp only [List.append_assoc]
    exact (List.perm_append_comm_assoc c b' c').append_left b
  calc ((a ++ (b ++ c)) ++ (a' ++ (b' ++ c')))
      = a ++ ((b ++ c) ++ (a' ++ (b' ++ c'))) := by simp only [List.append_assoc]
    _ |>.Perm (a ++ (a' ++ ((b ++ c) ++ (b' ++ c')))) :=
        (List.perm_append_comm_assoc (b ++ c) a' (b' ++ c')).append_left a
    _ = (a ++ a') ++ ((b ++ c) ++ (b' ++ c')) := by simp only [List.append_assoc]
    _ |>.Perm ((a ++ a') ++ ((b ++ b') ++ (c ++ c'))) := hinner.append_left _

mutual

/-- **Every record inside is taken out, or it stays inside one of those that are.** -/
theorem inside_perm : (r : Record) → r.inside.Perm
    ((takenOfGroups r.children).map (·.2) ++ r.taken.flatMap fun t => t.2.stayingInside)
  | mk _ children => insideGroups_perm children

theorem insideGroups_perm : (groups : List (String × List (Nested Record))) →
    (insideGroups groups).Perm ((takenOfGroups groups).map (·.2) ++
      (insideGroups (staying groups) ++
        (takenOfGroups groups).flatMap fun t => t.2.stayingInside))
  | [] => .nil
  | (name, kids) :: groups => by
    rw [insideGroups, takenOfGroups, List.map_append, List.flatMap_append,
      insideGroups_staying_cons]
    exact ((insideKids_perm name 0 kids).append (insideGroups_perm groups)).trans
      (perm_append_parts ..)

theorem insideKids_perm (name : String) : (i : Nat) → (kids : List (Nested Record)) →
    (insideKids kids).Perm ((takenOfKids name i kids).map (·.2) ++
      (insideKids (kids.filter fun kid => !kid.flatten) ++
        (takenOfKids name i kids).flatMap fun t => t.2.stayingInside))
  | _, [] => .nil
  | i, ⟨r, flatten⟩ :: kids => by
    have hrest := insideKids_perm name (i + 1) kids
    rw [insideKids, takenOfKids]
    -- a record that stays is moved behind all that is taken out, one that goes is split in turn
    cases flatten with
    | false =>
      have hstays : insideKids ((⟨r, false⟩ :: kids).filter fun kid => !kid.flatten) =
          (r :: r.inside) ++ insideKids (kids.filter fun kid => !kid.flatten) := rfl
      rw [if_neg Bool.false_ne_true, List.nil_append, hstays, List.append_assoc]
      exact (hrest.append_left _).trans (List.perm_append_comm_assoc ..)
    | true =>
      have hinner := inside_perm r
      have hrecords : (r.taken.map fun t => ((name, i) :: t.1, t.2)).map (·.2) =
          r :: (takenOfGroups r.children).map (·.2) := by
        rw [List.map_map, taken_eq]
        rfl
      have hstaying : ((r.taken.map fun t => ((name, i) :: t.1, t.2)).flatMap
          fun t => t.2.stayingInside) = r.taken.flatMap fun t => t.2.stayingInside :=
        List.flatMap_map ..
      rw [if_pos rfl, List.map_append, List.flatMap_append, hrecords, hstaying]
      exact ((hinner.append hrest).cons r).trans ((perm_append_parts _ [] ..).cons r)

end

/-- Identifiers of records at places: those that the records have, and others for records that have
none. -/
def Identifies (idAt : Place → String) (records : List (Place × Record)) : Prop :=
  ∀ t ∈ records, ∀ id, t.2.facts.trackingId = some id → idAt t.1 = id

/-- The records at places as units. Places no longer than `depth` have a given record around
them. -/
def unitsAt (depth : Nat) (parent : Option String) (idAt : Place → String)
    (records : List (Place × Record)) : List Record :=
  records.map fun t => t.2.asUnit (idAt t.1) (outerId depth parent idAt t.1)

/-- What is known of units that were made of records at places. -/
def Units (depth : Nat) (parent : Option String) (records : List (Place × Record))
    (units : List Record) : Prop :=
  ∃ idAt, units = unitsAt depth parent idAt records ∧ Identifies idAt records

variable {depth : Nat} {parent : Option String} {idAt : Place → String}
  {records others : List (Place × Record)} {units otherUnits : List Record}

/-- Places with one more step before them. -/
theorem Units.within (step : String × Nat) (h : Units 0 parent records units) :
    Units 1 parent (records.map fun t => (step :: t.1, t.2)) units := by
  obtain ⟨idAt, rfl, hids⟩ := h
  refine ⟨fun place => idAt place.tail, ?_, ?_⟩
  · unfold unitsAt
    rw [List.map_map]
    refine List.map_congr_left fun t _ => ?_
    obtain ⟨place, u⟩ := t
    cases place with
    | nil => rfl
    | cons head place => simp [outerId]
  · intro t ht
    obtain ⟨inner, hinner, rfl⟩ := List.mem_map.1 ht
    exact hids inner hinner

/-- The units of records come from the identifiers on the ways that start like theirs. -/
theorem unitsAt_congr {idAt' : Place → String} (h : ∀ t ∈ records, ∃ step place,
    t.1 = step :: place ∧ ∀ rest, idAt' (step :: rest) = idAt (step :: rest)) :
    unitsAt 1 parent idAt' records = unitsAt 1 parent idAt records := by
  unfold unitsAt
  refine List.map_congr_left fun t ht => ?_
  obtain ⟨step, place, hplace, hsame⟩ := h t ht
  -- the way to a record and the way to the one around it start alike
  have houter : outerId 1 parent idAt' (step :: place) = outerId 1 parent idAt (step :: place) := by
    cases place with
    | nil => rfl
    | cons head place => simp [outerId, hsame]
  rw [hplace, houter, hsame]

theorem Identifies.congr {idAt' : Place → String} (h : Identifies idAt records)
    (hsame : ∀ t ∈ records, idAt' t.1 = idAt t.1) : Identifies idAt' records := by
  intro t ht id hid
  rw [hsame t ht]
  exact h t ht id hid

/-- Units of records whose places are told apart by their first steps. -/
theorem Units.append (own : String × Nat → Bool) (h : Units 1 parent records units)
    (h' : Units 1 parent others otherUnits)
    (hown : ∀ t ∈ records, ∃ step place, t.1 = step :: place ∧ own step = true)
    (hother : ∀ t ∈ others, ∃ step place, t.1 = step :: place ∧ own step = false) :
    Units 1 parent (records ++ others) (units ++ otherUnits) := by
  obtain ⟨idAt, rfl, hids⟩ := h
  obtain ⟨idAt', rfl, hids'⟩ := h'
  -- each place belongs to one side, by its first step
  let joined : Place → String := fun place =>
    if place.head?.any own then idAt place else idAt' place
  have hfirst : ∀ t ∈ records, ∃ step place,
      t.1 = step :: place ∧ ∀ rest, joined (step :: rest) = idAt (step :: rest) := by
    intro t ht
    obtain ⟨step, place, hplace, hstep⟩ := hown t ht
    exact ⟨step, place, hplace, fun rest => by simp [joined, hstep]⟩
  have hsecond : ∀ t ∈ others, ∃ step place,
      t.1 = step :: place ∧ ∀ rest, joined (step :: rest) = idAt' (step :: rest) := by
    intro t ht
    obtain ⟨step, place, hplace, hstep⟩ := hother t ht
    exact ⟨step, place, hplace, fun rest => by simp [joined, hstep]⟩
  have hjoined : Identifies joined records := hids.congr fun t ht => by
    obtain ⟨step, place, hplace, hsame⟩ := hfirst t ht
    rw [hplace, hsame]
  have hjoined' : Identifies joined others := hids'.congr fun t ht => by
    obtain ⟨step, place, hplace, hsame⟩ := hsecond t ht
    rw [hplace, hsame]
  refine ⟨joined, ?_, ?_⟩
  · rw [← unitsAt_congr hfirst, ← unitsAt_congr hsecond]
    unfold unitsAt
    rw [List.map_append]
  · intro t ht
    rcases List.mem_append.1 ht with ht | ht
    · exact hjoined t ht
    · exact hjoined' t ht

mutual

theorem unitsOfTaken_units (parent : Option String) (ids : IdSupply) : (r : Record) → r.Ordered →
    Units 0 parent r.taken (unitsOfTaken parent ids r).1
  | mk f children, .intro hsorted hkids => by
    obtain ⟨id, hfacts, hown⟩ :=
      Facts.identified_cases { f with parentId := f.parentId.or parent } ids
    obtain ⟨idAt, hunits, hids⟩ := unitsOfGroups_units (some id)
      ({ f with parentId := f.parentId.or parent }.identified ids).2 children hsorted hkids
    -- the root alone has the empty place, so its identifier can be put there
    have hinner : ∀ t ∈ takenOfGroups children, ∃ step place, t.1 = step :: place := by
      intro t ht
      obtain ⟨name, kids, -, h⟩ := mem_takenOfGroups.1 ht
      obtain ⟨j, c, p, -, heq, -⟩ := mem_takenOfKids.1 h
      exact ⟨_, _, heq⟩
    refine ⟨fun place => if place = [] then id else idAt place, ?_, ?_⟩
    · have hthis : (unitsOfTaken parent ids (mk f children)).1 = asUnit id parent (mk f children) ::
          unitsAt 1 (some id) idAt (takenOfGroups children) := by
        rw [unitsOfTaken, ← hunits]
        simp only [hfacts]
        rfl
      rw [hthis, taken]
      unfold unitsAt
      rw [List.map_cons]
      congr 1
      refine List.map_congr_left fun t ht => ?_
      obtain ⟨step, place, hplace⟩ := hinner t ht
      rw [hplace]
      cases place with
      | nil => rfl
      | cons head place => rfl
    · intro t ht
      rw [taken] at ht
      rcases List.mem_cons.1 ht with rfl | ht
      · exact hown
      · obtain ⟨step, place, hplace⟩ := hinner t ht
        have hkept := hids t ht
        rw [hplace] at hkept ⊢
        exact hkept

theorem unitsOfGroups_units (parent : Option String) (ids : IdSupply) :
    (groups : List (String × List (Nested Record))) → Keyed.Sorted groups →
    (∀ group ∈ groups, ∀ kid ∈ group.2, Ordered kid.record) →
    Units 1 parent (takenOfGroups groups) (unitsOfGroups parent ids groups).1
  | [], _, _ => ⟨fun _ => "", rfl, fun _ h => absurd h List.not_mem_nil⟩
  | (name, kids) :: groups, hsorted, hkids => by
    obtain ⟨hfirst, hrest⟩ := List.pairwise_cons.1 hsorted
    rw [takenOfGroups, unitsOfGroups]
    refine Units.append (fun step => step.1 == name)
      (unitsOfKids_units parent ids name 0 kids (hkids _ List.mem_cons_self))
      (unitsOfGroups_units parent _ groups hrest fun g hg => hkids g (List.mem_cons_of_mem _ hg))
      ?_ ?_
    · intro t ht
      obtain ⟨j, c, p, -, heq, -⟩ := mem_takenOfKids.1 ht
      exact ⟨_, _, heq, beq_self_eq_true name⟩
    · intro t ht
      obtain ⟨name', kids', hgroup, h⟩ := mem_takenOfGroups.1 ht
      obtain ⟨j, c, p, -, heq, -⟩ := mem_takenOfKids.1 h
      refine ⟨_, _, heq, beq_eq_false_iff_ne.2 ?_⟩
      intro hname
      obtain rfl : name' = name := hname
      -- groups stand in the order of their names, so no later one has the name of this one
      have hlater : name' < name' := hfirst (name', kids') hgroup
      exact String.lt_irrefl _ hlater

theorem unitsOfKids_units (parent : Option String) (ids : IdSupply) (name : String) : (i : Nat) →
    (kids : List (Nested Record)) → (∀ kid ∈ kids, Ordered kid.record) →
    Units 1 parent (takenOfKids name i kids) (unitsOfKids parent ids kids).1
  | _, [], _ => ⟨fun _ => "", rfl, fun _ h => absurd h List.not_mem_nil⟩
  | i, ⟨r, flatten⟩ :: kids, hkids => by
    have hrest := fun ids => unitsOfKids_units parent ids name (i + 1) kids fun k hk =>
      hkids k (List.mem_cons_of_mem _ hk)
    rw [takenOfKids, unitsOfKids]
    cases flatten with
    | false => exact hrest ids
    | true =>
      have hfirst := unitsOfTaken_units parent ids r (hkids _ List.mem_cons_self)
      refine Units.append (fun step => step.2 == i) (hfirst.within (name, i)) (hrest _) ?_ ?_
      · intro t ht
        obtain ⟨t, -, rfl⟩ := List.mem_map.1 ht
        exact ⟨_, _, rfl, beq_self_eq_true i⟩
      · intro t ht
        obtain ⟨j, c, p, -, heq, -⟩ := mem_takenOfKids.1 ht
        exact ⟨_, _, heq, beq_eq_false_iff_ne.2 (by simp only; omega)⟩

end

/-- A record with an identifier is cut like one that is taken out of nothing. -/
theorem deliveryUnits_eq_unitsOfTaken {root : String} (h : r.facts.trackingId = some root)
    (ids : IdSupply) : r.deliveryUnits ids = unitsOfTaken none ids r := by
  obtain ⟨f, children⟩ := r
  have hfacts : { f with parentId := f.parentId.or none }.identified ids = (f, ids) := by
    rw [Option.or_none]
    exact Facts.identified_of_some h ids
  rw [unitsOfTaken, hfacts]
  rfl

theorem flatten_of_mem_staying {children : Keyed (List Child)} {group : String × List Child}
    {kid : Child} (hgroup : group ∈ staying children) (hkid : kid ∈ group.2) :
    kid.flatten = false := by
  obtain ⟨g, -, rfl⟩ := List.mem_map.1 (List.mem_filter.1 hgroup).1
  simpa using (List.mem_filter.1 hkid).2

/-- **Delivery units.** Let a record have an identifier. Its units are the records that are reached
from it through flat edges alone, in the order of a walk through the tree, each without what is
taken out of it. All have identifiers, their own ones if they had any; and one that had no parent
has the identifier of the record that it was taken out of. No unit has a record directly inside it
that is to stand beside it, and every record of the tree is either taken out once or stays, as it
is, inside one unit. -/
theorem deliveryUnits_eq {root : String} (hroot : r.facts.trackingId = some root)
    (hordered : r.Ordered) (ids : IdSupply) :
    ∃ idAt : Place → String,
      (r.deliveryUnits ids).1 = r.taken.map (fun t =>
        t.2.asUnit (idAt t.1) (if t.1 = [] then none else some (idAt t.1.dropLast))) ∧
      (∀ t ∈ r.taken, ∀ id, t.2.facts.trackingId = some id → idAt t.1 = id) ∧
      (∀ place u, (place, u) ∈ r.taken ↔ r.Reaches place u) ∧
      (r.taken.map (·.1)).Pairwise Place.Before ∧
      (∀ u ∈ (r.deliveryUnits ids).1, ∀ group ∈ u.children, ∀ kid ∈ group.2,
        kid.flatten = false) ∧
      r.inside.Perm (r.taken.tail.map (·.2) ++ (r.deliveryUnits ids).1.flatMap inside) := by
  obtain ⟨idAt, hunits, hids⟩ := unitsOfTaken_units none ids r hordered
  rw [← deliveryUnits_eq_unitsOfTaken hroot] at hunits
  have houter : ∀ place, outerId 0 none idAt place =
      if place = [] then none else some (idAt place.dropLast) := by
    intro place
    cases place <;> rfl
  refine ⟨idAt, ?_, hids, fun _ _ => mem_taken, taken_inOrder r hordered, ?_, ?_⟩
  · rw [hunits]
    exact List.map_congr_left fun t _ => by rw [houter]
  · intro u hu group hgroup kid hkid
    rw [hunits] at hu
    obtain ⟨t, -, rfl⟩ := List.mem_map.1 hu
    exact flatten_of_mem_staying hgroup hkid
  · -- what is inside the units is what stays inside the records that were taken out
    have hinside : (r.deliveryUnits ids).1.flatMap inside =
        r.taken.flatMap fun t => t.2.stayingInside := by
      rw [hunits]
      exact List.flatMap_map ..
    have htail : r.taken.tail = takenOfGroups r.children := by rw [taken_eq, List.tail_cons]
    rw [hinside, htail]
    exact inside_perm r

/-- An order with two parcels that are delivered beside it, of which the second one has a receipt
beside it, and a note that stays inside with its copy. -/
def order : Record :=
  .mk { eventName := some "order", trackingId := some "A" }
    [("note", [⟨.mk { eventName := some "note" }
        [("copy", [⟨.mk { eventName := some "copy" } [], true⟩])], false⟩]),
      ("parcel", [⟨.mk { eventName := some "first", parentId := some "B" } [], true⟩,
        ⟨.mk { eventName := some "second" }
          [("receipt", [⟨.mk { eventName := some "receipt" } [], true⟩])], true⟩])]

theorem order_ordered : order.Ordered := by
  have hleaf : ∀ f : Facts, Ordered (.mk f []) := fun f => .intro .nil (by simp)
  have hone : ∀ (f : Facts) (name : String) (kid : Child), Ordered kid.record →
      Ordered (.mk f [(name, [kid])]) := by
    intro f name kid hkid
    exact .intro (List.pairwise_singleton _ _) (by simpa using hkid)
  refine .intro (List.pairwise_cons.2 ⟨?_, List.pairwise_singleton _ _⟩) ?_
  · intro later hlater
    obtain rfl := List.mem_singleton.1 hlater
    decide
  · simp [hleaf, hone]

theorem order_cut :
    order.facts.trackingId = some "A" ∧ order.Ordered ∧
      (∃ idAt : Place → String,
        (order.deliveryUnits { id := toString }).1 = order.taken.map (fun t =>
          t.2.asUnit (idAt t.1) (if t.1 = [] then none else some (idAt t.1.dropLast))) ∧
        idAt [] = "A") ∧
      ((order.deliveryUnits { id := toString }).1.map fun u =>
          (u.facts.eventName, u.facts.trackingId, u.facts.parentId, u.children.map (·.1))) =
        [(some "order", some "A", none, ["note"]), (some "first", some "0", some "B", []),
          (some "second", some "1", some "A", []), (some "receipt", some "2", some "1", [])] := by
  have hroot : order.facts.trackingId = some "A" := rfl
  obtain ⟨idAt, hunits, hids, -⟩ := deliveryUnits_eq hroot order_ordered { id := toString }
  refine ⟨hroot, order_ordered, ⟨idAt, hunits, hids ([], order) ?_ "A" rfl⟩, by decide +kernel⟩
  exact mem_taken.2 .here

end Record

end Intake
