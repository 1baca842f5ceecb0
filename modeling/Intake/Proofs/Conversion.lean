import Intake.Proofs.Digits
import Intake.Proofs.Documents
import Intake.Proofs.Finite
import Intake.Value.Json

/-!
# Values and documents, forth and back

* `Value.IsPlain`: a value of a kind that documents have.
* `Value.ofJson_toJson`: the document of a plain value is turned into that value again.
* `Json.pruned`: a document without its nulls and without integers that are too great.
* `Value.exists_ofJson`: a document becomes a plain value, whose document is the pruned one.
* `Value.round_trip`: **values survive the way through documents, and documents the way through
  values up to pruning.**
-/

namespace Intake

namespace Value

/-- The second value stands directly inside the first. -/
inductive Holds : Value → Value → Prop
  | item {items : List Value} {child : Value} : child ∈ items → Holds (.list items) child
  | entry {entries : List (String × Value)} {key : String} {child : Value} :
    (key, child) ∈ entries → Holds (.map entries) child

/-- Something holds of a value and of everything inside it. -/
inductive Throughout (P : Value → Prop) : Value → Prop
  | intro {v : Value} : P v → (∀ child, Holds v child → Throughout P child) → Throughout P v

/-- The value is no bytes, no instant and no float that is infinite or no number. -/
def IsPlain : Value → Prop
  | bytes _ | instant _ => False
  | float x => x.isNaN = false ∧ x.isInf = false
  | _ => True

namespace Throughout

variable {P : Value → Prop} {v child : Value}

theorem here (h : Throughout P v) : P v := by
  cases h with
  | intro h _ => exact h

theorem inside (h : Throughout P v) (hchild : Holds v child) : Throughout P child := by
  cases h with
  | intro _ h => exact h child hchild

theorem list {items : List Value} (h : P (.list items)) (hitems : ∀ v ∈ items, Throughout P v) :
    Throughout P (.list items) := by
  refine .intro h fun child hchild => ?_
  cases hchild with
  | item hmem => exact hitems child hmem

theorem map {entries : List (String × Value)} (h : P (.map entries))
    (hentries : ∀ e ∈ entries, Throughout P e.2) : Throughout P (.map entries) := by
  refine .intro h fun child hchild => ?_
  cases hchild with
  | entry hmem => exact hentries _ hmem

/-- A value that is no list and no map has nothing inside it. -/
theorem leaf (h : P v) (hlist : ∀ items, v ≠ .list items) (hmap : ∀ entries, v ≠ .map entries) :
    Throughout P v := by
  refine .intro h fun child hchild => ?_
  cases hchild with
  | item => exact absurd rfl (hlist _)
  | entry => exact absurd rfl (hmap _)

end Throughout

/-! ### From values to documents and back -/

mutual

/-- **The document of a plain value is turned into that value again.** -/
theorem ofJson_toJson : (v : Value) → v.Throughout IsPlain → ofJson v.toJson = some v
  | .bool _, _ => rfl
  | .int i, _ => by rw [toJson, ofJson, Text.int64OfInt?_toInt]
  | .float x, h => by
    have hfinite : ¬ (x.isNaN || x.isInf) = true := by
      obtain ⟨hnumber, hbounded⟩ := h.here
      rw [hnumber, hbounded]
      exact Bool.false_ne_true
    rw [toJson, if_neg hfinite, ofJson]
  | .str _, _ => rfl
  | .bytes _, h => h.here.elim
  | .instant _, h => h.here.elim
  | .list items, h => by
    rw [toJson, ofJson, ofItems_toItems items fun v hv => h.inside (.item hv)]
  | .map entries, h => by
    rw [toJson, ofJson, ofMembers_toMembers entries fun e he => h.inside (.entry he)]

/-- The elements of a list. -/
theorem ofItems_toItems : (items : List Value) → (∀ v ∈ items, v.Throughout IsPlain) →
    ofItems (toItems items) = items
  | [], _ => rfl
  | v :: rest, h => by
    obtain ⟨hv, hrest⟩ := List.forall_mem_cons.1 h
    rw [toItems, ofItems, ofJson_toJson v hv, ofItems_toItems rest hrest]

/-- The entries of a map. -/
theorem ofMembers_toMembers : (entries : List (String × Value)) →
    (∀ e ∈ entries, e.2.Throughout IsPlain) → ofMembers (toMembers entries) = entries
  | [], _ => rfl
  | (key, v) :: rest, h => by
    obtain ⟨hv, hrest⟩ := List.forall_mem_cons.1 h
    rw [toMembers, ofMembers, ofJson_toJson v hv, ofMembers_toMembers rest hrest]

end

end Value

namespace Json

/-- If the document is a number, it is an integer of 64 bits, signed or not, or a float that is
finite. -/
def NumbersFit : Json → Prop
  | int i => minInt64 ≤ i ∧ i < UInt64.size
  | float x => x.isNaN = false ∧ x.isInf = false
  | _ => True

mutual

/-- The document with all nulls inside it left out, and with a float in place of every integer that
is no signed one of 64 bits. -/
def pruned : Json → Json
  | int i => if IsWord i then .int i else .float (UInt64.ofNat i.toNat).toFloat
  | arr items => .arr (prunedItems items)
  | obj members => .obj (prunedMembers members)
  | doc => doc

/-- The elements of an array that are not null. -/
def prunedItems : List Json → List Json
  | [] => []
  | item :: rest => if item.isNull then prunedItems rest else item.pruned :: prunedItems rest

/-- The members of an object that are not null. -/
def prunedMembers : List (String × Json) → List (String × Json)
  | [] => []
  | (key, item) :: rest =>
    if item.isNull then prunedMembers rest else (key, item.pruned) :: prunedMembers rest

end

end Json

namespace Value

/-! ### From documents to values and back -/

mutual

/-- **A document becomes a plain value, whose document is the pruned one.** -/
theorem exists_ofJson : (doc : Json) → doc.Throughout Json.NumbersFit → doc.isNull = false →
    ∃ v, ofJson doc = some v ∧ v.Throughout IsPlain ∧ v.toJson = doc.pruned
  | .null, _, hnull => by cases hnull
  | .bool b, _, _ => ⟨.bool b, rfl, .leaf trivial nofun nofun, rfl⟩
  | .int i, _, _ => by
    rw [ofJson, Json.pruned]
    -- a number beyond 64 bits is kept as a finite one with a point
    by_cases hword : IsWord i
    · have hkept : Text.int64OfInt? i = some (Int64.ofInt i) := if_pos hword
      rw [hkept, if_pos hword]
      refine ⟨_, rfl, .leaf trivial nofun nofun, ?_⟩
      rw [toJson, toInt_ofInt hword]
    · have hwide : Text.int64OfInt? i = none := if_neg hword
      obtain ⟨hnumber, hbounded⟩ := Binary64.isFinite_toFloat (UInt64.ofNat i.toNat)
      rw [hwide, if_neg hword]
      refine ⟨_, rfl, .leaf ⟨hnumber, hbounded⟩ nofun nofun, ?_⟩
      rw [toJson, hnumber, hbounded]
      rfl
  | .float x, h, _ => by
    obtain ⟨hnumber, hbounded⟩ := h.here
    refine ⟨.float x, rfl, .leaf ⟨hnumber, hbounded⟩ nofun nofun, ?_⟩
    rw [toJson, hnumber, hbounded]
    rfl
  | .str s, _, _ => ⟨.str s, rfl, .leaf trivial nofun nofun, rfl⟩
  | .arr items, h, _ => by
    obtain ⟨hplain, hitems⟩ := items_ofItems items fun doc hdoc => h.inside (.item hdoc)
    refine ⟨.list (ofItems items), rfl, .list trivial hplain, ?_⟩
    rw [toJson, hitems, Json.pruned]
  | .obj members, h, _ => by
    obtain ⟨hplain, hmembers⟩ := entries_ofMembers members fun e he => h.inside (.member he)
    refine ⟨.map (ofMembers members), rfl, .map trivial hplain, ?_⟩
    rw [toJson, hmembers, Json.pruned]

/-- The elements of an array. -/
theorem items_ofItems : (items : List Json) → (∀ doc ∈ items, doc.Throughout Json.NumbersFit) →
    (∀ v ∈ ofItems items, v.Throughout IsPlain) ∧ toItems (ofItems items) = Json.prunedItems items
  | [], _ => ⟨nofun, rfl⟩
  | item :: rest, h => by
    obtain ⟨hitem, hrest⟩ := List.forall_mem_cons.1 h
    obtain ⟨hplain, hitems⟩ := items_ofItems rest hrest
    rw [ofItems, Json.prunedItems]
    cases hnull : item.isNull with
    | true =>
      rw [ofJson_eq_none_iff.2 hnull]
      exact ⟨hplain, hitems⟩
    | false =>
      obtain ⟨v, hv, hvplain, hvdoc⟩ := exists_ofJson item hitem hnull
      rw [hv]
      exact ⟨List.forall_mem_cons.2 ⟨hvplain, hplain⟩, by rw [toItems, hvdoc, hitems]; rfl⟩

/-- The members of an object. -/
theorem entries_ofMembers : (members : List (String × Json)) →
    (∀ e ∈ members, e.2.Throughout Json.NumbersFit) →
    (∀ e ∈ ofMembers members, e.2.Throughout IsPlain) ∧
      toMembers (ofMembers members) = Json.prunedMembers members
  | [], _ => ⟨nofun, rfl⟩
  | (key, item) :: rest, h => by
    obtain ⟨hitem, hrest⟩ := List.forall_mem_cons.1 h
    obtain ⟨hplain, hmembers⟩ := entries_ofMembers rest hrest
    rw [ofMembers, Json.prunedMembers]
    cases hnull : item.isNull with
    | true =>
      rw [ofJson_eq_none_iff.2 hnull]
      exact ⟨hplain, hmembers⟩
    | false =>
      obtain ⟨v, hv, hvplain, hvdoc⟩ := exists_ofJson item hitem hnull
      rw [hv]
      exact ⟨List.forall_mem_cons.2 ⟨hvplain, hplain⟩, by rw [toMembers, hvdoc, hmembers]; rfl⟩

end

/-- **Values survive the way through documents, and documents the way through values up to
pruning.** A value that has no bytes, no instants and no infinite floats or floats that are no
numbers in it, at any depth, is what its document is turned into. A document that is not null
becomes a value; the document of this value is the one before without the nulls inside it, at any
depth, and with floats in place of the integers that are too great for signed 64 bits; and it
becomes the same value again. -/
theorem round_trip :
    (∀ v : Value, v.Throughout IsPlain → ofJson v.toJson = some v) ∧
      ∀ doc : Json, doc.Throughout Json.NumbersFit → doc.isNull = false →
        ∃ v, ofJson doc = some v ∧ v.toJson = doc.pruned ∧ ofJson v.toJson = ofJson doc := by
  refine ⟨ofJson_toJson, fun doc hdoc hnull => ?_⟩
  obtain ⟨v, hv, hplain, hpruned⟩ := exists_ofJson doc hdoc hnull
  exact ⟨v, hv, hpruned, (ofJson_toJson v hplain).trans hv.symm⟩

/-- A document with nulls and with an integer that needs all 64 bits. -/
def counters : Json :=
  .obj [("last", .null), ("seen", .arr [.int 5, .null, .int 9223372036854775808])]

theorem counters_fit : counters.Throughout Json.NumbersFit := by
  have hnull : Json.null.Throughout Json.NumbersFit := .leaf trivial nofun nofun
  have hint {i : Int} (h : Json.NumbersFit (.int i)) : (Json.int i).Throughout Json.NumbersFit :=
    .leaf h nofun nofun
  have hseen : (Json.arr [.int 5, .null, .int 9223372036854775808]).Throughout Json.NumbersFit := by
    refine .arr trivial (List.forall_mem_cons.2 ⟨hint ⟨by decide, by decide⟩, ?_⟩)
    exact List.forall_mem_cons.2
      ⟨hnull, List.forall_mem_singleton.2 (hint ⟨by decide, by decide⟩)⟩
  exact .obj trivial (List.forall_mem_cons.2 ⟨hnull, List.forall_mem_singleton.2 hseen⟩)

/-- A plain value with a list inside a map. -/
def ratios : Value :=
  .map [("ratios", .list [.float 0.5, .int (-1), .str ""])]

theorem ratios_plain : ratios.Throughout IsPlain := by
  have hfloat : (float 0.5).Throughout IsPlain := .leaf ⟨by decide, by decide⟩ nofun nofun
  have hint : (int (-1)).Throughout IsPlain := .leaf trivial nofun nofun
  have hstr : (str "").Throughout IsPlain := .leaf trivial nofun nofun
  have hlist : (list [.float 0.5, .int (-1), .str ""]).Throughout IsPlain :=
    .list trivial (List.forall_mem_cons.2
      ⟨hfloat, List.forall_mem_cons.2 ⟨hint, List.forall_mem_singleton.2 hstr⟩⟩)
  exact .map trivial (List.forall_mem_singleton.2 hlist)

/-- What becomes of both on the way forth and back. -/
theorem ratios_and_counters_round_trip :
    ratios.Throughout IsPlain ∧ ofJson ratios.toJson = some ratios ∧
      counters.Throughout Json.NumbersFit ∧ counters.isNull = false ∧
      ∃ v, ofJson counters = some v ∧
        v.toJson = .obj [("seen", .arr [.int 5, .float (9223372036854775808 : UInt64).toFloat])] ∧
        ofJson v.toJson = some v := by
  obtain ⟨v, hv, hpruned, hagain⟩ := round_trip.2 counters counters_fit rfl
  exact ⟨ratios_plain, round_trip.1 ratios ratios_plain, counters_fit, rfl, v, hv, hpruned,
    hagain.trans hv⟩

end Value

end Intake
