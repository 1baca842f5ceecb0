import Intake.Proofs.Cutting
import Intake.Proofs.Digits
import Intake.Resolver

/-!
# Addresses of the parts of a document

Every part of a document can be reached by the keys and numbers that lead to it, joined by the
delimiter, as long as the joined text can be read in one way only.

* `Leads`: the steps that lead from a document to a part of it.
* `follow?_of_leads`: the texts of these steps lead there as well.
* `find_joined`: the resolver of documents finds the part under the joined text.
* `find_rooted`: with the mark of the document before it, the text may start with anything.
* `address_misleads`: it is not enough that no key has the delimiter.
-/

namespace Intake

namespace Json

/-- A step into a document. -/
inductive Step where
  | key (name : String)
  | index (place : UInt64)
deriving DecidableEq, Repr

/-- The text of a step: the key itself, or the place in plain decimal. -/
def Step.text : Step → String
  | key name => name
  | index place => toString place.toNat

/-- A key is not empty and does not have the delimiter. -/
def Step.IsPlain (delim : String) : Step → Prop
  | key name => name ≠ "" ∧ ¬ delim.toList <:+: name.toList
  | index _ => True

instance (delim : String) : DecidablePred (Step.IsPlain delim)
  | .key name => inferInstanceAs (Decidable (name ≠ "" ∧ ¬ delim.toList <:+: name.toList))
  | .index _ => isTrue trivial

/-- The steps that lead from a document to a part of it. -/
inductive Leads : Json → List Step → Json → Prop
  | here {doc : Json} : Leads doc [] doc
  | member {members : Keyed Json} {name : String} {child node : Json} {rest : List Step} :
    Keyed.get? name members = some child → Leads child rest node →
      Leads (.obj members) (.key name :: rest) node
  | item {items : List Json} {place : UInt64} {child node : Json} {rest : List Step} :
    items[place.toNat]? = some child → Leads child rest node →
      Leads (.arr items) (.index place :: rest) node

/-- The texts of the steps, joined by a delimiter. -/
def address (delim : String) (path : List Step) : String :=
  delim.intercalate (path.map Step.text)

variable {doc node : Json} {path : List Step} {delim : String}

theorem Step.index_text_ne (place : UInt64) (word : String) (h : Text.count? word = none) :
    (Step.index place).text ≠ word := by
  intro heq
  have hcount := Text.count?_toString place.toNat_lt
  rw [Step.text] at heq
  rw [heq, h] at hcount
  cases hcount

/-- **The texts of the steps lead where the steps lead.** -/
theorem follow?_of_leads (h : Leads doc path node) :
    doc.follow? (path.map Step.text) = some node := by
  induction h with
  | here => exact Json.follow?.eq_1 _
  | member hget _ ih =>
    rw [List.map_cons, Json.follow?, Step.text, hget]
    exact ih
  | item hget _ ih =>
    rw [List.map_cons, Json.follow?, if_neg (Step.index_text_ne _ _ (by decide)), Step.text,
      Text.count?_toString (UInt64.toNat_lt _), Option.bind_some, hget]
    exact ih

/-- Joined texts of steps have the texts of the steps as segments. -/
theorem segments_address (hdelim : delim ≠ "") (hkeys : ∀ name, Step.key name ∈ path → name ≠ "")
    (hjoin : Path.Joinable delim.toList (path.map fun s => s.text.toList)) :
    Path.segments (address delim path) delim = path.map Step.text := by
  refine Path.segments_intercalate hdelim ?_ (by rwa [List.map_map])
  intro text htext
  obtain ⟨step, hstep, rfl⟩ := List.mem_map.1 htext
  cases step with
  | key name => exact hkeys name hstep
  | index place => exact Step.index_text_ne place "" (by decide)

end Json

namespace Text

theorem stripLead_append (lead rest : List Char) : stripLead lead (lead ++ rest) = some rest := by
  induction lead with
  | nil => cases rest <;> rfl
  | cons a lead ih => rw [List.cons_append, stripLead, if_pos rfl, ih]

theorem stripLead_of_not_prefix {lead cs : List Char} (h : ¬ lead <+: cs) :
    stripLead lead cs = none := by
  induction lead generalizing cs with
  | nil => exact absurd List.nil_prefix h
  | cons a lead ih =>
    cases cs with
    | nil => rfl
    | cons c cs =>
      rw [stripLead]
      split
      · next heq =>
        subst heq
        exact ih fun hprefix => h ((List.prefix_cons_inj a).2 hprefix)
      · rfl

end Text

namespace Resolver

open Json

variable {doc node : Json} {path : List Step} {delim : String}

theorem withoutRoot_of_not_prefix {location : String} (h : ¬ rootMark <+: location.toList) :
    withoutRoot location delim = location := by
  unfold withoutRoot
  rw [Text.stripLead_of_not_prefix h]

theorem withoutRoot_append (location delim : String) :
    withoutRoot ("$" ++ delim ++ location) delim = location := by
  have hchars : ("$" ++ delim ++ location).toList =
      rootMark ++ (delim.toList ++ location.toList) := by
    rw [String.toList_append, String.toList_append, List.append_assoc]
    rfl
  unfold withoutRoot
  rw [hchars, Text.stripLead_append]
  simp only
  rw [Text.stripLead_append, Option.getD_some, String.ofList_toList]

/-- **The resolver of documents finds each part under its address**, a text that is cut into the
steps it was joined from, and does not start with the mark of the document. That includes keys that
are `*` or a number, and it does not matter which paths were cut before. -/
theorem find_joined (hdelim : delim ≠ "") (h : Leads doc path node)
    (hkeys : ∀ name, Step.key name ∈ path → name ≠ "")
    (hjoin : Path.Joinable delim.toList (path.map fun s => s.text.toList))
    (hroot : ¬ rootMark <+: (address delim path).toList) (l : Locator)
    (hlocation : l.location = address delim path) :
    Resolver.json.find (.json doc) delim l = .ok (Value.ofJson node) ∧
      ∀ earlier, (doc.follow? ((Path.Memo.after delim earlier).segments
        (withoutRoot l.location delim) delim).1).bind Value.ofJson = Value.ofJson node := by
  have hfound : findInJson doc l.location delim = Value.ofJson node := by
    rw [findInJson, hlocation, withoutRoot_of_not_prefix hroot, segments_address hdelim hkeys hjoin,
      follow?_of_leads h, Option.bind_some]
  refine ⟨congrArg Except.ok hfound, fun earlier => ?_⟩
  rw [Path.Memo.segments_after]
  exact hfound

/-- With the mark of the document before it, an address may start with anything. -/
theorem find_rooted (hdelim : delim ≠ "") (h : Leads doc path node)
    (hkeys : ∀ name, Step.key name ∈ path → name ≠ "")
    (hjoin : Path.Joinable delim.toList (path.map fun s => s.text.toList)) (l : Locator)
    (hlocation : l.location = "$" ++ delim ++ address delim path) :
    Resolver.json.find (.json doc) delim l = .ok (Value.ofJson node) := by
  have hfound : findInJson doc l.location delim = Value.ofJson node := by
    rw [findInJson, hlocation, withoutRoot_append, segments_address hdelim hkeys hjoin,
      follow?_of_leads h, Option.bind_some]
  exact congrArg Except.ok hfound

/-- A document with a star and a number among its keys. -/
def starred : Json := .obj [("user", .obj [("*", .arr [.null, .obj [("7", .str "x")]])])]

theorem find_starred :
    Leads starred [.key "user", .key "*", .index 1, .key "7"] (.str "x") ∧
      address "." [.key "user", .key "*", .index 1, .key "7"] = "user.*.1.7" ∧
      Resolver.json.find (.json starred) "." { location := "user.*.1.7" } =
        .ok (some (.str "x")) := by
  have hleads : Leads starred [.key "user", .key "*", .index 1, .key "7"] (.str "x") :=
    .member rfl (.member rfl (.item rfl (.member rfl .here)))
  have haddress : address "." [.key "user", .key "*", .index 1, .key "7"] = "user.*.1.7" := by
    decide
  have hjoin : Path.Joinable ".".toList ([.key "user", .key "*", .index 1, .key "7"].map
      fun s : Step => s.text.toList) := Path.joinable_singleton (c := '.') (by decide)
  have hfound := find_joined (by decide) hleads (by simp) hjoin (by decide)
    { location := "user.*.1.7" } haddress.symm
  exact ⟨hleads, haddress, hfound.1⟩

/-- Keys that are not empty and do not have the delimiter, with an address that is not the mark of
the document and does not start with the mark and the delimiter. -/
structure Plain (delim : String) (path : List Step) : Prop where
  steps : ∀ step ∈ path, step.IsPlain delim
  not_root : address delim path ≠ "$"
  not_rooted : ¬ ("$" ++ delim).toList <+: (address delim path).toList

/-- **Plain addresses can mislead.** With a delimiter of two characters, two ways into a document
can have one address; a number can have the delimiter in it; and the mark of the document is taken
off a key that starts with it. -/
theorem address_misleads :
    (Plain ".." [.key "a.", .key "b"] ∧ address ".." [.key "a.", .key "b"] = "a...b" ∧
      address ".." [.key "a", .key ".b"] = "a...b" ∧
      Leads (.obj [("a.", .obj [("b", .int 1)])]) [.key "a.", .key "b"] (.int 1) ∧
      Resolver.json.find (.json (.obj [("a.", .obj [("b", .int 1)])])) ".."
        { location := "a...b" } = .ok none) ∧
    (Plain "1" [.index 1] ∧ address "1" [.index 1] = "1" ∧
      Leads (.arr [.int 1, .int 2]) [.index 1] (.int 2) ∧
      Resolver.json.find (.json (.arr [.int 1, .int 2])) "1" { location := "1" } =
        .ok (some (.list [.int 1, .int 2]))) ∧
    (Plain "." [.key "$type"] ∧ address "." [.key "$type"] = "$type" ∧
      Leads (.obj [("$type", .int 1)]) [.key "$type"] (.int 1) ∧
      Resolver.json.find (.json (.obj [("$type", .int 1)])) "." { location := "$type" } =
        .ok none) ∧
    Value.ofJson (.int 1) = some (.int 1) ∧ Value.ofJson (.int 2) = some (.int 2) := by
  refine ⟨⟨⟨by decide, by decide, by decide⟩, by decide, by decide, ?_, rfl⟩,
    ⟨⟨by decide, by decide, by decide⟩, by decide, ?_, rfl⟩,
    ⟨⟨by decide, by decide, by decide⟩, by decide, ?_, rfl⟩, rfl, rfl⟩
  · exact .member rfl (.member rfl .here)
  · exact .item rfl .here
  · exact .member rfl .here

end Resolver

end Intake
