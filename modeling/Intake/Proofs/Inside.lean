import Intake.Proofs.Delivery
import Intake.Record.Merge
import Intake.Record.Times

/-!
# Records inside records

* `Record.Encloses`: a record stands directly inside another one, under the name of a parser.
* `Record.mem_inside`: what is inside a record stands directly inside it, or inside what does.
* `Record.encloses_merge`, `Record.encloses_addChild`: what a record encloses when another one is
  taken into it.
* `Record.Ordered.merge`, `Record.Ordered.addChild`: the groups of a record stay in the order of
  their names, at any depth.
-/

namespace Intake.Record

/-- The record stands directly inside another one, among those of a parser. -/
def Encloses (r : Record) (parser : String) (kid : Child) : Prop :=
  ∃ kids, (parser, kids) ∈ r.children ∧ kid ∈ kids

variable {r o u : Record} {parser other : String} {kid : Child} {flatten : Bool}

theorem mem_insideKids {kids : List Child} :
    u ∈ insideKids kids ↔ ∃ kid ∈ kids, u = kid.record ∨ u ∈ kid.record.inside := by
  induction kids with
  | nil => simp [insideKids]
  | cons kid kids ih =>
    obtain ⟨c, flatten⟩ := kid
    simp [insideKids, ih, or_assoc]

theorem mem_insideGroups {groups : Keyed (List Child)} :
    u ∈ insideGroups groups ↔ ∃ group ∈ groups, u ∈ insideKids group.2 := by
  induction groups with
  | nil => simp [insideGroups]
  | cons group groups ih =>
    obtain ⟨name, kids⟩ := group
    simp [insideGroups, ih]

/-- **What is inside a record** stands directly inside it, or inside what does. -/
theorem mem_inside :
    u ∈ r.inside ↔ ∃ parser kid, r.Encloses parser kid ∧
      (u = kid.record ∨ u ∈ kid.record.inside) := by
  obtain ⟨f, children⟩ := r
  rw [inside, mem_insideGroups]
  constructor
  · rintro ⟨⟨parser, kids⟩, hgroup, h⟩
    obtain ⟨kid, hkid, hu⟩ := mem_insideKids.1 h
    exact ⟨parser, kid, ⟨kids, hgroup, hkid⟩, hu⟩
  · rintro ⟨parser, kid, ⟨kids, hgroup, hkid⟩, hu⟩
    exact ⟨(parser, kids), hgroup, mem_insideKids.2 ⟨kid, hkid, hu⟩⟩

/-- Records that enclose the same have the same inside. -/
theorem inside_congr (h : o.children = r.children) : o.inside = r.inside := by
  obtain ⟨f, children⟩ := r
  obtain ⟨g, children'⟩ := o
  exact congrArg insideGroups h

theorem encloses_of_mem_childrenOf (h : kid ∈ r.childrenOf parser) : r.Encloses parser kid := by
  unfold childrenOf at h
  cases hkids : Keyed.get? parser r.children with
  | none =>
    rw [hkids] at h
    cases h
  | some kids =>
    rw [hkids] at h
    exact ⟨kids, Keyed.mem_of_get? hkids, h⟩

theorem childrenOf_addChild (r o : Record) (parser other : String) (flatten : Bool) :
    (r.addChild parser o flatten).childrenOf other =
      if parser = other then r.childrenOf parser ++ [⟨o, flatten⟩] else r.childrenOf other := by
  change (Keyed.get? other (Keyed.insert parser _ r.children)).getD [] = _
  rw [Keyed.get?_insert]
  split <;> rfl

/-- A record that another one is added to encloses that one besides. -/
theorem encloses_addChild (h : (r.addChild parser o flatten).Encloses other kid) :
    other = parser ∧ kid = ⟨o, flatten⟩ ∨ r.Encloses other kid := by
  obtain ⟨kids, hgroup, hkid⟩ := h
  rcases Keyed.mem_insert hgroup with heq | hgroup
  · cases heq
    rcases List.mem_append.1 hkid with hkid | hkid
    · exact .inr (encloses_of_mem_childrenOf hkid)
    · exact .inl ⟨rfl, List.mem_singleton.1 hkid⟩
  · exact .inr ⟨kids, hgroup, hkid⟩

/-- A record that another one is merged into encloses what both of them enclosed. -/
theorem encloses_merge (h : (r.merge o).Encloses parser kid) :
    r.Encloses parser kid ∨ o.Encloses parser kid := by
  obtain ⟨f, groups⟩ := r
  obtain ⟨g, more⟩ := o
  obtain ⟨kids, hgroup, hkid⟩ := h
  change (parser, kids) ∈ joinChildren groups more at hgroup
  unfold joinChildren at hgroup
  -- one group of the other record after the other
  induction more generalizing groups with
  | nil => exact .inl ⟨kids, hgroup, hkid⟩
  | cons group more ih =>
    obtain ⟨name, later⟩ := group
    rw [List.foldl_cons] at hgroup
    rcases ih _ hgroup with ⟨kids', hgroup', hkid'⟩ | ⟨kids', hgroup', hkid'⟩
    · change (parser, kids') ∈
        Keyed.insert name ((Keyed.get? name groups).getD [] ++ later) groups at hgroup'
      rcases Keyed.mem_insert hgroup' with heq | hgroup'
      · cases heq
        rcases List.mem_append.1 hkid' with hkid' | hkid'
        · exact .inl (encloses_of_mem_childrenOf (r := mk f groups) hkid')
        · exact .inr ⟨later, List.mem_cons_self, hkid'⟩
      · exact .inl ⟨kids', hgroup', hkid'⟩
    · exact .inr ⟨kids', List.mem_cons_of_mem _ hgroup', hkid'⟩

theorem inside_addChild (h : u ∈ (r.addChild parser o flatten).inside) :
    u = o ∨ u ∈ o.inside ∨ u ∈ r.inside := by
  obtain ⟨other, kid, hencloses, hu⟩ := mem_inside.1 h
  rcases encloses_addChild hencloses with ⟨rfl, rfl⟩ | hencloses
  · rcases hu with hu | hu
    · exact .inl hu
    · exact .inr (.inl hu)
  · exact .inr (.inr (mem_inside.2 ⟨other, kid, hencloses, hu⟩))

theorem inside_merge (h : u ∈ (r.merge o).inside) : u ∈ r.inside ∨ u ∈ o.inside := by
  obtain ⟨parser, kid, hencloses, hu⟩ := mem_inside.1 h
  rcases encloses_merge hencloses with hencloses | hencloses
  · exact .inl (mem_inside.2 ⟨parser, kid, hencloses, hu⟩)
  · exact .inr (mem_inside.2 ⟨parser, kid, hencloses, hu⟩)

/-! ### The order of the groups -/

theorem ordered_iff :
    r.Ordered ↔ Keyed.Sorted r.children ∧
      ∀ parser kid, r.Encloses parser kid → kid.record.Ordered := by
  obtain ⟨f, children⟩ := r
  constructor
  · rintro ⟨hsorted, hkids⟩
    exact ⟨hsorted, fun _ kid ⟨_, hgroup, hkid⟩ => hkids _ hgroup kid hkid⟩
  · rintro ⟨hsorted, hkids⟩
    exact .intro hsorted fun group hgroup kid hkid => hkids group.1 kid ⟨group.2, hgroup, hkid⟩

theorem Ordered.congr (h : r.Ordered) (hsame : o.children = r.children) : o.Ordered := by
  rw [ordered_iff] at h ⊢
  unfold Encloses at h ⊢
  rw [hsame]
  exact h

theorem Ordered.addChild (h : r.Ordered) (ho : o.Ordered) (parser : String) (flatten : Bool) :
    (r.addChild parser o flatten).Ordered := by
  obtain ⟨hsorted, hkids⟩ := ordered_iff.1 h
  refine ordered_iff.2 ⟨Keyed.sorted_insert hsorted, ?_⟩
  intro other kid hencloses
  rcases encloses_addChild hencloses with ⟨-, rfl⟩ | hencloses
  · exact ho
  · exact hkids other kid hencloses

theorem Ordered.merge (h : r.Ordered) (ho : o.Ordered) : (r.merge o).Ordered := by
  obtain ⟨hsorted, hkids⟩ := ordered_iff.1 h
  obtain ⟨-, hkids'⟩ := ordered_iff.1 ho
  refine ordered_iff.2 ⟨sorted_joinChildren hsorted, ?_⟩
  intro parser kid hencloses
  rcases encloses_merge hencloses with hencloses | hencloses
  · exact hkids parser kid hencloses
  · exact hkids' parser kid hencloses

end Intake.Record
