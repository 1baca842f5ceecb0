import Intake.Proofs.Addresses
import Intake.Proofs.Documents
import Intake.Proofs.Places
import Intake.Resolver

/-!
# The resolvers of documents and of maps

A path leads to the same in a document and in the value made from it, as long as no array loses
elements on the way.

* `follow?_ofJson`: following a path and turning into a value can be done in either order.
* `find_agrees`: the resolver of documents finds in an object what the resolver of maps finds in
  the entries made from it.
-/

namespace Intake

/-- If the document is an array, none of its elements is null. -/
def Json.NoNullItem : Json → Prop
  | arr items => ∀ item ∈ items, item.isNull = false
  | _ => True

instance : DecidablePred Json.NoNullItem
  | .arr items => inferInstanceAs (Decidable (∀ item ∈ items, item.isNull = false))
  | .null | .bool _ | .int _ | .float _ | .str _ | .obj _ => isTrue trivial

namespace Value

variable {doc : Json} {items : List Json} {members : Keyed Json}

theorem ofItems_eq_filterMap (items : List Json) : ofItems items = items.filterMap ofJson := by
  induction items with
  | nil => rfl
  | cons item rest ih =>
    rw [ofItems, List.filterMap_cons, ih]
    cases ofJson item <;> rfl

/-- Without nulls every element keeps its place. -/
theorem getElem?_ofItems_of_noNull (h : ∀ item ∈ items, item.isNull = false) (place : Nat) :
    (ofItems items)[place]? = items[place]?.bind ofJson := by
  have hsome : ∀ item ∈ items, (ofJson item).isSome := by
    intro item hitem
    rw [Option.isSome_iff_ne_none, ne_eq, ofJson_eq_none_iff, h item hitem]
    exact Bool.false_ne_true
  rw [ofItems_eq_filterMap, getElem?_filterMap_of_isSome hsome]

/-- A member that is null leaves its key without an entry, as there is no other member under it. -/
theorem get?_ofMembers (h : Keyed.Sorted members) (key : String) :
    Keyed.get? key (ofMembers members) = (Keyed.get? key members).bind ofJson := by
  induction members with
  | nil => rfl
  | cons e rest ih =>
    obtain ⟨name, item⟩ := e
    obtain ⟨hfirst, hrest⟩ := List.pairwise_cons.1 h
    have ih := ih hrest
    by_cases hname : name = key
    · subst hname
      -- a member that is null must not uncover a later one
      have hnone : Keyed.get? name rest = none := Keyed.get?_eq_none_of_lt hfirst
      rw [ofMembers, Keyed.get?, if_pos rfl, Option.bind_some]
      cases ofJson item with
      | some v => rw [Keyed.get?, if_pos rfl]
      | none => rw [ih, hnone, Option.bind_none]
    · rw [ofMembers, Keyed.get?, if_neg hname, ← ih]
      cases ofJson item with
      | some v => rw [Keyed.get?, if_neg hname]
      | none => rfl

/-- **Following a path and turning into a value can be done in either order.** -/
theorem follow?_ofJson (hkeys : doc.Throughout Json.KeysIncrease)
    (hnulls : doc.Throughout Json.NoNullItem) (path : List String) :
    (doc.follow? path).bind ofJson = (ofJson doc).bind fun v => v.follow? path := by
  induction path generalizing doc with
  | nil =>
    rw [Json.follow?.eq_1, Option.bind_some]
    cases ofJson doc with
    | none => rfl
    | some v => exact (Value.follow?.eq_1 v).symm
  | cons segment rest ih =>
    cases doc with
    | null => rfl
    | bool b => rfl
    | int i =>
      unfold ofJson
      cases Text.int64OfInt? i <;> rfl
    | float x => rfl
    | str s => rfl
    | arr items =>
      rw [Json.follow?, ofJson, Option.bind_some, Value.follow?]
      by_cases hall : segment = Path.allItems
      · rw [if_pos hall, if_pos hall]
        rfl
      · rw [if_neg hall, if_neg hall]
        cases Text.count? segment with
        | none => rfl
        | some place =>
          -- the elements keep their places, so both walks go on in the same one
          rw [Option.bind_some, Option.bind_some, getElem?_ofItems_of_noNull hnulls.here]
          cases hitem : items[place]? with
          | none => rfl
          | some child =>
            have hchild : Json.Holds (.arr items) child := .item (List.mem_of_getElem? hitem)
            exact ih (hkeys.inside hchild) (hnulls.inside hchild)
    | obj members =>
      rw [Json.follow?, ofJson, Option.bind_some, Value.follow?, get?_ofMembers hkeys.here]
      cases hmember : Keyed.get? segment members with
      | none => rfl
      | some child =>
        have hchild : Json.Holds (.obj members) child := .member (Keyed.mem_of_get? hmember)
        exact ih (hkeys.inside hchild) (hnulls.inside hchild)

end Value

namespace Resolver

variable {members : Keyed Json} {entries : Keyed Value} {delim : String}

/-- In a map whose keys are without the delimiter, the entry of the very name is the one that the
path leads to. -/
theorem findInMap_eq_follow? {location : String} (hdelim : delim ≠ "") (hlocation : location ≠ "")
    (hkeys : ∀ v, Keyed.get? location entries = some v → ¬ delim.toList <:+: location.toList) :
    findInMap entries location delim = (Value.map entries).follow? (Path.segments location delim) := by
  unfold findInMap
  cases hentry : Keyed.get? location entries with
  | none => rfl
  | some v =>
    rw [Path.segments_of_not_infix hdelim hlocation (hkeys v hentry), Value.follow?, hentry,
      Option.bind_some, Value.follow?]

/-- **The resolver of documents finds in an object what the resolver of maps finds in the entries
made from it**, as long as no array in it has a null and no key the delimiter: the same value under
every path that does not start with the mark of the document, or nothing. -/
theorem find_agrees (hkeys : (Json.obj members).Throughout Json.KeysIncrease)
    (hnulls : (Json.obj members).Throughout Json.NoNullItem)
    (hplain : ∀ key ∈ Keyed.keys members, ¬ delim.toList <:+: key.toList) (hdelim : delim ≠ "")
    (hentries : Value.ofJson (.obj members) = some (.map entries)) (l : Locator)
    (hlabel : l.kind = .label) (hpath : l.location ≠ "")
    (hroot : ¬ rootMark <+: l.location.toList) :
    Resolver.json.find (.json (.obj members)) delim l = Resolver.map.find (.map entries) delim l := by
  have hofMembers : Value.ofMembers members = entries := by
    simpa [Value.ofJson] using hentries
  have hmap : findInMap entries l.location delim =
      (Value.map entries).follow? (Path.segments l.location delim) := by
    refine findInMap_eq_follow? hdelim hpath fun v hv => ?_
    rw [← hofMembers, Value.get?_ofMembers hkeys.here] at hv
    obtain ⟨child, hchild, -⟩ := Option.bind_eq_some_iff.1 hv
    exact hplain _ (List.mem_map_of_mem (Keyed.mem_of_get? hchild))
  -- The document is walked before it is converted; the walk may as well come after that.
  have hjson : findInJson (.obj members) l.location delim =
      (Value.map entries).follow? (Path.segments l.location delim) := by
    rw [findInJson, withoutRoot_of_not_prefix hroot, Value.follow?_ofJson hkeys hnulls, hentries,
      Option.bind_some]
  have hfind : Resolver.map.find (.map entries) delim l =
      .ok (findInMap entries l.location delim) := by
    simp [find, hlabel]
  rw [hfind, hmap, ← hjson]
  rfl

/-- The roles of a user. -/
def roles : Json := .arr [.str "admin", .str "ops"]

/-- An object with a member that is null, and with roles further inside. -/
def account : Keyed Json := [("email", .null), ("user", .obj [("roles", roles)])]

theorem throughout_account {P : Json → Prop} (hnull : P .null) (htext : ∀ s, P (.str s))
    (hroles : P roles) (huser : P (.obj [("roles", roles)])) (haccount : P (.obj account)) :
    (Json.obj account).Throughout P := by
  have hleaf : ∀ s, (Json.str s).Throughout P := fun s => .leaf (htext s) nofun nofun
  have harr : roles.Throughout P :=
    .arr hroles (List.forall_mem_cons.2 ⟨hleaf _, List.forall_mem_singleton.2 (hleaf _)⟩)
  have hobj : (Json.obj [("roles", roles)]).Throughout P :=
    .obj huser (List.forall_mem_singleton.2 harr)
  exact .obj haccount (List.forall_mem_cons.2
    ⟨.leaf hnull nofun nofun, List.forall_mem_singleton.2 hobj⟩)

theorem find_roles :
    ∃ entries, Value.ofJson (.obj account) = some (.map entries) ∧
      Resolver.json.find (.json (.obj account)) "." { location := "user..roles.*." } =
        .ok (some (.list [.str "admin", .str "ops"])) ∧
      Resolver.map.find (.map entries) "." { location := "user..roles.*." } =
        .ok (some (.list [.str "admin", .str "ops"])) ∧
      Resolver.json.find (.json (.obj account)) "." { location := "email" } = .ok none ∧
      Resolver.map.find (.map entries) "." { location := "email" } = .ok none := by
  have hkeys : (Json.obj account).Throughout Json.KeysIncrease :=
    throughout_account trivial (fun _ => trivial) trivial (by decide) (by decide)
  have hnulls : (Json.obj account).Throughout Json.NoNullItem :=
    throughout_account trivial (fun _ => trivial) (by decide) trivial trivial
  have hplain : ∀ key ∈ Keyed.keys account, ¬ ".".toList <:+: key.toList := by decide
  have hroles := find_agrees hkeys hnulls hplain (by decide) rfl { location := "user..roles.*." }
    rfl (by decide) (by decide)
  have hemail := find_agrees hkeys hnulls hplain (by decide) rfl { location := "email" }
    rfl (by decide) (by decide)
  exact ⟨_, rfl, rfl, hroles.symm.trans rfl, rfl, hemail.symm.trans rfl⟩

end Resolver

end Intake
