import Intake.Record.Basic

/-!
# Delivery units

A record cut into the records that are delivered one by one: itself first, then each record inside
it that is to stand beside it, with the records that stand beside that one in turn. A record that is
taken out gets an identifier if it has none, and that of the outer record as its parent.
-/

namespace Intake

/-- Identifiers not handed out yet. -/
structure IdSupply where
  /-- The identifier with this number. -/
  id : Nat → String
  /-- The number of the next one. -/
  next : Nat := 0

namespace IdSupply

/-- Hands out one identifier. -/
def fresh (ids : IdSupply) : String × IdSupply :=
  (ids.id ids.next, { ids with next := ids.next + 1 })

end IdSupply

namespace Facts

/-- The facts with an identifier, a fresh one if there is none. -/
def identified (f : Facts) (ids : IdSupply) : Facts × IdSupply :=
  match f.trackingId with
  | some _ => (f, ids)
  | none =>
    let (id, ids) := ids.fresh
    ({ f with trackingId := some id }, ids)

theorem identified_of_some {f : Facts} {id : String} (h : f.trackingId = some id)
    (ids : IdSupply) : f.identified ids = (f, ids) := by
  unfold identified
  split
  · rfl
  · next hnone =>
    rw [h] at hnone
    cases hnone

/-- Facts get an identifier only if they have none. -/
theorem identified_cases (f : Facts) (ids : IdSupply) :
    ∃ id, (f.identified ids).1 = { f with trackingId := some id } ∧
      ∀ own, f.trackingId = some own → id = own := by
  cases h : f.trackingId with
  | none =>
    unfold identified
    rw [h]
    refine ⟨_, rfl, ?_⟩
    intro own hown
    cases hown
  | some own =>
    rw [identified_of_some h]
    refine ⟨own, ?_, ?_⟩
    · cases f
      cases h
      rfl
    · rintro _ ⟨⟩
      rfl

end Facts

namespace Record

/-- The records that stay inside. -/
def staying (children : Keyed (List Child)) : Keyed (List Child) :=
  (children.map fun group => (group.1, group.2.filter fun kid => !kid.flatten)).filter
    fun group => !group.2.isEmpty

mutual

/-- The units of a record that is taken out of another one. -/
def unitsOfTaken (parent : Option String) (ids : IdSupply) : Record → List Record × IdSupply
  | mk f children =>
    let (f, ids) := { f with parentId := f.parentId.or parent }.identified ids
    let (units, ids) := unitsOfGroups f.trackingId ids children
    (mk f (staying children) :: units, ids)

/-- The units of the records that are taken out of groups. -/
def unitsOfGroups (parent : Option String) (ids : IdSupply) :
    List (String × List (Nested Record)) → List Record × IdSupply
  | [] => ([], ids)
  | (_, kids) :: groups =>
    let (units, ids) := unitsOfKids parent ids kids
    let (rest, ids) := unitsOfGroups parent ids groups
    (units ++ rest, ids)

/-- The units of the records that are taken out of one group. -/
def unitsOfKids (parent : Option String) (ids : IdSupply) :
    List (Nested Record) → List Record × IdSupply
  | [] => ([], ids)
  | ⟨r, flatten⟩ :: kids =>
    if flatten then
      let (units, ids) := unitsOfTaken parent ids r
      let (rest, ids) := unitsOfKids parent ids kids
      (units ++ rest, ids)
    else unitsOfKids parent ids kids

end

/-- The delivery units of a record. -/
def deliveryUnits (r : Record) (ids : IdSupply) : List Record × IdSupply :=
  let (units, ids) := unitsOfGroups r.facts.trackingId ids r.children
  (mk r.facts (staying r.children) :: units, ids)

end Record

end Intake
