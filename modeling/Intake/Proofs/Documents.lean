import Intake.Json.Reader

/-!
# Parts of documents

* `Throughout`: something holds of a document and of everything inside it.
* `KeysIncrease`: the members of an object stand in the order of their keys, each key once.
* `keysIncrease_of_parse?`: that is so throughout every document that is read from a text.
-/

namespace Intake

namespace Json

/-- The second document stands directly inside the first. -/
inductive Holds : Json → Json → Prop
  | item {items : List Json} {child : Json} : child ∈ items → Holds (.arr items) child
  | member {members : List (String × Json)} {name : String} {child : Json} :
    (name, child) ∈ members → Holds (.obj members) child

/-- Something holds of a document and of everything inside it. -/
inductive Throughout (P : Json → Prop) : Json → Prop
  | intro {doc : Json} : P doc → (∀ child, Holds doc child → Throughout P child) →
    Throughout P doc

/-- If the document is an object, its members stand in the order of their keys, each key once. -/
def KeysIncrease : Json → Prop
  | obj members => Keyed.Sorted members
  | _ => True

instance : DecidablePred KeysIncrease
  | obj members => inferInstanceAs (Decidable (Keyed.Sorted members))
  | null | bool _ | int _ | float _ | str _ | arr _ => isTrue trivial

namespace Throughout

variable {P : Json → Prop} {doc child : Json}

theorem here (h : Throughout P doc) : P doc := by
  cases h with
  | intro h _ => exact h

theorem inside (h : Throughout P doc) (hchild : Holds doc child) : Throughout P child := by
  cases h with
  | intro _ h => exact h child hchild

theorem arr {items : List Json} (h : P (.arr items)) (hitems : ∀ item ∈ items, Throughout P item) :
    Throughout P (.arr items) := by
  refine .intro h fun child hchild => ?_
  cases hchild with
  | item hmem => exact hitems child hmem

theorem obj {members : List (String × Json)} (h : P (.obj members))
    (hmembers : ∀ e ∈ members, Throughout P e.2) : Throughout P (.obj members) := by
  refine .intro h fun child hchild => ?_
  cases hchild with
  | member hmem => exact hmembers _ hmem

/-- A document that is no array and no object has nothing inside it. -/
theorem leaf (h : P doc) (harr : ∀ items, doc ≠ .arr items) (hobj : ∀ members, doc ≠ .obj members) :
    Throughout P doc := by
  refine .intro h fun child hchild => ?_
  cases hchild with
  | item => exact absurd rfl (harr _)
  | member => exact absurd rfl (hobj _)

end Throughout

/-! ### Documents that are read -/

/-- What is read, if anything, is a document whose keys increase throughout. -/
def Reads (read : Option (Json × List Char)) : Prop :=
  ∀ doc rest, read = some (doc, rest) → doc.Throughout KeysIncrease

namespace Reads

theorem none : Reads none := by
  intro doc rest h
  cases h

theorem some {doc : Json} {rest : List Char} (h : doc.Throughout KeysIncrease) :
    Reads (some (doc, rest)) := by
  rintro _ _ ⟨⟩
  exact h

theorem bind {α : Type} {x : Option α} {f : α → Option (Json × List Char)}
    (h : ∀ a, x = Option.some a → Reads (f a)) : Reads (x >>= f) := by
  cases x with
  | none => exact none
  | some a => exact h a rfl

theorem ite {c : Prop} [Decidable c] {x y : Option (Json × List Char)} (hx : Reads x)
    (hy : Reads y) : Reads (if c then x else y) := by
  split
  · exact hx
  · exact hy

end Reads

theorem reads_number? (negative : Bool) (cs : List Char) : Reads (number? negative cs) := by
  have hint : ∀ i rest, Reads (some (.int i, rest)) := fun i rest =>
    .some (.leaf trivial nofun nofun)
  have hfloat : ∀ x rest, Reads (some (.float x, rest)) := fun x rest =>
    .some (.leaf trivial nofun nofun)
  unfold number?
  dsimp only
  -- whichever way the digits, the point and the exponent go, a number comes of it or nothing
  repeat' first
    | exact .none
    | exact hint _ _
    | exact hfloat _ _
    | refine .bind fun _ _ => ?_
    | refine .ite ?_ ?_
    | split

/-- The readers of values, elements and members with so much fuel read documents whose keys
increase throughout, if those read so far are such documents. -/
structure ReadsAll (fuel : Nat) : Prop where
  value : ∀ depth cs, Reads (value? fuel depth cs)
  elements : ∀ depth acc cs, (∀ item ∈ acc, item.Throughout KeysIncrease) →
    Reads (elements? fuel depth acc cs)
  members : ∀ depth acc cs, Keyed.Sorted acc → (∀ e ∈ acc, e.2.Throughout KeysIncrease) →
    Reads (members? fuel depth acc cs)

theorem reads_value? {fuel : Nat} (ih : ReadsAll fuel) (depth : Nat) (cs : List Char) :
    Reads (value? (fuel + 1) depth cs) := by
  have hleaf : ∀ doc rest, KeysIncrease doc → (∀ items, doc ≠ .arr items) →
      (∀ members, doc ≠ .obj members) → Reads (some (doc, rest)) := fun doc rest h harr hobj =>
    .some (.leaf h harr hobj)
  unfold value?
  split
  · exact hleaf _ _ trivial nofun nofun
  · exact hleaf _ _ trivial nofun nofun
  · exact hleaf _ _ trivial nofun nofun
  · rw [Option.map_eq_bind]
    exact .bind fun r _ => hleaf _ _ trivial nofun nofun
  · split
    · exact .none
    · split
      · exact .some (.arr trivial nofun)
      · exact ih.elements _ _ _ nofun
  · split
    · exact .none
    · split
      · exact .some (.obj .nil nofun)
      · exact ih.members _ _ _ .nil nofun
  · exact reads_number? _ _
  · exact reads_number? _ _

theorem reads_elements? {fuel : Nat} (ih : ReadsAll fuel) (depth : Nat) {acc : List Json}
    (hacc : ∀ item ∈ acc, item.Throughout KeysIncrease) (cs : List Char) :
    Reads (elements? (fuel + 1) depth acc cs) := by
  unfold elements?
  refine .bind fun ⟨item, rest⟩ hread => ?_
  have hcons : ∀ e ∈ item :: acc, e.Throughout KeysIncrease :=
    List.forall_mem_cons.2 ⟨ih.value _ _ _ _ hread, hacc⟩
  dsimp only
  split
  · exact ih.elements _ _ _ hcons
  · exact .some (.arr trivial fun e he => hcons e (List.mem_reverse.1 he))
  · exact .none

theorem reads_members? {fuel : Nat} (ih : ReadsAll fuel) (depth : Nat)
    {acc : List (String × Json)} (hsorted : Keyed.Sorted acc)
    (hacc : ∀ e ∈ acc, e.2.Throughout KeysIncrease) (cs : List Char) :
    Reads (members? (fuel + 1) depth acc cs) := by
  unfold members?
  split
  · refine .bind fun ⟨key, rest⟩ _ => ?_
    dsimp only
    split
    · refine .bind fun ⟨item, rest⟩ hread => ?_
      -- A member takes its place among those before it, or replaces the one of its key.
      have hinsert : ∀ e ∈ Keyed.insert key item acc, e.2.Throughout KeysIncrease := by
        intro e he
        rcases Keyed.mem_insert he with rfl | he
        · exact ih.value _ _ _ _ hread
        · exact hacc e he
      dsimp only
      split
      · exact ih.members _ _ _ (Keyed.sorted_insert hsorted) hinsert
      · exact .some (.obj (Keyed.sorted_insert hsorted) hinsert)
      · exact .none
    · exact .none
  · exact .none

theorem readsAll (fuel : Nat) : ReadsAll fuel := by
  induction fuel with
  | zero =>
    refine ⟨?_, ?_, ?_⟩
    · intro depth cs
      rw [value?]
      exact .none
    · intro depth acc cs _
      rw [elements?]
      exact .none
    · intro depth acc cs _ _
      rw [members?]
      exact .none
  | succ fuel ih =>
    exact ⟨reads_value? ih, fun depth acc cs hacc => reads_elements? ih depth hacc cs,
      fun depth acc cs hsorted hacc => reads_members? ih depth hsorted hacc cs⟩

/-- **The keys increase throughout every document that is read.** -/
theorem keysIncrease_of_parse? {text : String} {doc : Json} (h : parse? text = some doc) :
    doc.Throughout KeysIncrease := by
  unfold parse? at h
  obtain ⟨⟨doc', rest⟩, hread, h⟩ := Option.bind_eq_some_iff.1 h
  dsimp only at h
  split at h
  · obtain rfl : doc' = doc := Option.some.inj h
    exact (readsAll _).value _ _ _ _ hread
  · cases h

end Json

end Intake
