import Intake.Proofs.Placeholders
import Intake.Proofs.Spreading

/-!
# Values and their names in two arrays

The elements of one array of a document become fields whose names stand in another array. Both
arrays lose their nulls before they meet.

* `Value.getElem?_ofItems`: a document in an array comes to stand as many places further ahead as
  there are nulls before it.
* `Context.Naming.getElem?_giveAll`: each name is given as it is unless it is taken.
* `Parser.fillField_of_parallel`: **the values that are left go with the names that are left**; at a
  place with as many nulls before it in both arrays, the value goes with the name beside it.
* `Parser.names_slip`: otherwise a value goes with the name of another one, and blank arrays count
  as none.
-/

namespace Intake

/-- The nulls before a place in an array. -/
def Json.nullsBefore (items : List Json) (place : Nat) : Nat :=
  (items.take place).countP Json.isNull

namespace Value

mutual

/-- The value with texts in place of all that is no list or map. -/
def worded : Value → Value
  | .list items => .list (wordedItems items)
  | .map entries => .map (wordedEntries entries)
  | v => .str v.text

/-- The elements of a list with texts in place of all that is no list or map. -/
def wordedItems : List Value → List Value
  | [] => []
  | v :: rest => worded v :: wordedItems rest

/-- The entries of a map with texts in place of all that is no list or map. -/
def wordedEntries : List (String × Value) → List (String × Value)
  | [] => []
  | (key, v) :: rest => (key, worded v) :: wordedEntries rest

end

theorem wordedItems_eq_map (items : List Value) : wordedItems items = items.map worded := by
  induction items with
  | nil => rfl
  | cons v rest ih => rw [wordedItems, ih, List.map_cons]

mutual

/-- A value reads the same with texts in it. -/
theorem text_worded : (v : Value) → v.worded.text = v.text
  | .list items => by rw [worded, text, text, texts_worded items]
  | .map entries => by rw [worded, text, text, entryTexts_worded entries]
  | .bool _ | .int _ | .float _ | .str _ | .bytes _ | .instant _ => rfl

theorem texts_worded : (items : List Value) → texts (wordedItems items) = texts items
  | [] => rfl
  | v :: rest => by rw [wordedItems, texts, texts, text_worded v, texts_worded rest]

theorem entryTexts_worded : (entries : List (String × Value)) →
    entryTexts (wordedEntries entries) = entryTexts entries
  | [] => rfl
  | (key, v) :: rest => by
    rw [wordedEntries, entryTexts, entryTexts, text_worded v, entryTexts_worded rest]

end

/-- A document in an array comes to stand as many places further ahead as there are nulls before
it. -/
theorem getElem?_ofItems {items : List Json} {place : Nat} {doc : Json} {v : Value}
    (hdoc : items[place]? = some doc) (hv : ofJson doc = some v) :
    (ofItems items)[place - Json.nullsBefore items place]? = some v := by
  induction items generalizing place with
  | nil => cases hdoc
  | cons item rest ih =>
    cases place with
    | zero =>
      obtain rfl : item = doc := Option.some.inj hdoc
      rw [ofItems, hv]
      rfl
    | succ place =>
      have hle : Json.nullsBefore rest place ≤ place :=
        Nat.le_trans List.countP_le_length (List.length_take_le _ _)
      have hcount : Json.nullsBefore (item :: rest) (place + 1) =
          Json.nullsBefore rest place + if item.isNull then 1 else 0 := by
        rw [Json.nullsBefore, List.take_succ_cons, List.countP_cons]
        rfl
      -- a null before the place moves the document one place ahead
      rw [ofItems, hcount]
      cases hitem : ofJson item with
      | none =>
        rw [if_pos (ofJson_eq_none_iff.1 hitem), Nat.add_sub_add_right]
        exact ih hdoc
      | some head =>
        have hnull : ¬ item.isNull = true := by
          rw [← ofJson_eq_none_iff, hitem]
          simp
        have hplace : place + 1 - (Json.nullsBefore rest place + 0) =
            place - Json.nullsBefore rest place + 1 := by omega
        rw [if_neg hnull, hplace]
        exact ih hdoc

end Value

namespace Locator

variable {location : String}

mutual

/-- A locator that says nothing else asks for texts. -/
theorem format_plain : (v : Value) → ({ location } : Locator).format v = .ok v.worded
  | .list items => by
    rw [format, formatItems_plain items]
    rfl
  | .map entries => by
    rw [format, formatEntries_plain entries]
    rfl
  | .bool _ | .int _ | .float _ | .str _ | .bytes _ | .instant _ => rfl

theorem formatItems_plain : (items : List Value) →
    ({ location } : Locator).formatItems items = .ok (Value.wordedItems items)
  | [] => rfl
  | v :: rest => by
    rw [formatItems, format_plain v, formatItems_plain rest]
    rfl

theorem formatEntries_plain : (entries : List (String × Value)) →
    ({ location } : Locator).formatEntries entries = .ok (Value.wordedEntries entries)
  | [] => rfl
  | (key, v) :: rest => by
    rw [formatEntries, format_plain v, formatEntries_plain rest]
    rfl

end

end Locator

namespace Context

namespace Naming

/-- What becomes of a name after others were given: it stays as it is, or it is taken and gets a
number at its end. -/
def Gives (past : List String) (name given : String) : Prop :=
  (name ∉ past ∧ given = name) ∨ (name ∈ past ∧ ∃ m, 0 < m ∧ given = name ++ toString m)

theorem gives_give (n : Naming) (name : String) : Gives n.taken name (n.give name).1 := by
  rcases n.give_cases name with ⟨hfree, hgive⟩ | ⟨htaken, hgive⟩
  · rw [hgive]
    exact .inl ⟨hfree, rfl⟩
  · rw [hgive]
    exact .inr ⟨htaken, n.suffix + 1, by omega, rfl⟩

theorem Gives.congr {past past' : List String} {name given : String} (h : Gives past name given)
    (hpast : ∀ x, x ∈ past ↔ x ∈ past') : Gives past' name given := by
  rcases h with ⟨hfree, hgiven⟩ | ⟨htaken, hgiven⟩
  · exact .inl ⟨fun hmem => hfree ((hpast _).2 hmem), hgiven⟩
  · exact .inr ⟨(hpast _).1 htaken, hgiven⟩

/-- Each name is given as it is unless one that was given before is the same. -/
theorem getElem?_giveAll {names : List String} {k : Nat} {name : String} (n : Naming)
    (h : names[k]? = some name) :
    ∃ given, (n.giveAll names)[k]? = some given ∧
      Gives (n.taken ++ (n.giveAll names).take k) name given := by
  induction names generalizing n k with
  | nil => cases h
  | cons head rest ih =>
    cases k with
    | zero =>
      obtain rfl : head = name := Option.some.inj h
      refine ⟨(n.give head).1, rfl, ?_⟩
      rw [List.take_zero, List.append_nil]
      exact n.gives_give head
    | succ k =>
      obtain ⟨given, hgiven, hgives⟩ := ih (n.give head).2 h
      refine ⟨given, hgiven, hgives.congr fun x => ?_⟩
      -- the name given first counts as taken from then on
      rw [taken_give, giveAll, List.take_succ_cons]
      simp only [List.mem_append, List.mem_cons]
      rw [or_comm (a := x = (n.give head).1), or_assoc]

end Naming

variable {ctx : Context} {f : Field} {members : Keyed Json} {items : List Json}
  {location key : String}

/-- What a locator for all items of an array finds: nothing if all of them are blank. -/
theorem formed_of_array (hresolver : ctx.profile.resolver = .json)
    (hdata : ctx.data = .json (.obj members))
    (hplace : ({ location } : Locator).isWholeData = false ∧
      ({ location } : Locator).metadataPath? ctx.profile.properties.pathDelim = none ∧
      location.isEmpty = false)
    (hpath : Path.segments (Resolver.withoutRoot location ctx.profile.properties.pathDelim)
      ctx.profile.properties.pathDelim = [key, Path.allItems])
    (harray : Keyed.get? key members = some (.arr items)) :
    ctx.formed { location } =
      .ok (if Value.allBlank (Value.ofItems items) then none
        else some (.list ((Value.ofItems items).map Value.worded))) := by
  obtain ⟨hwhole, hmetadata, hnonempty⟩ := hplace
  have hfound : (ctx.lookup { location }).value =
      .ok (.raw (some (.list (Value.ofItems items)))) := by
    unfold lookup
    rw [if_neg (by rw [hwhole]; decide), hmetadata]
    simp only
    rw [if_neg (by rw [hnonempty]; decide)]
    change ctx.profile.resolver.locate ctx.data _ _ = _
    rw [hresolver, hdata]
    change Except.ok (Resolved.raw (Resolver.findInJson _ location _)) = _
    rw [Resolver.findInJson, hpath, Json.follow?, harray]
    rfl
  -- what is blank is taken for none before it gets its form
  rw [formed, hfound]
  change formatted _ false (if Value.allBlank (Value.ofItems items) then none else _) = _
  cases Value.allBlank (Value.ofItems items) with
  | true => rfl
  | false =>
    change (Locator.format _ _).map some = _
    rw [Locator.format_plain, Value.worded, Value.wordedItems_eq_map]
    rfl

/-- A locator without filters finds what stands there. -/
theorem resolve_plain (ctx : Context) (location : String) :
    (ctx.resolve { location }).value = ctx.formed { location } := by
  have hnofilters : ({ location } : Locator).filters = ([] : List Test).map Test.filter := rfl
  have hall : ∀ v : Option Value, v.filter (Test.passes []) = v := by
    intro v
    cases v <;> rfl
  rw [resolve_of_tests rfl hnofilters]
  simp only [hall]
  cases ctx.formed { location } <;> rfl

theorem placeholderValues_of_single {id : String} {l : Locator} {v : Value}
    (h : f.nameLocators = [(id, l)]) (hv : (ctx.resolve l).value = .ok (some v)) :
    (ctx.placeholderValues f).value = .ok [(id, v)] := by
  unfold placeholderValues
  rw [h, List.foldlM_cons, Resolving.value_bind, Resolving.value_bind, hv]
  rfl

/-- An element whose name is a placeholder has the text that stands at its place. -/
theorem name_forElement {id : String} {names : List Value} (hid : id ≠ Field.elementName)
    (hbrace : '}' ∉ id.toList) (hname : f.name.toList = Template.written id) (index : Nat)
    (elementKey : String) :
    (f.forElement [(id, .list names)] index elementKey).name =
      (names[index]?).elim "" Value.text := by
  have hlookup : Field.placeholder [(id, .list names)] index elementKey (String.ofList id.toList) =
      some ((names[index]?).elim "" Value.text) := by
    rw [String.ofList_toList, Field.placeholder, if_neg hid, Keyed.get?, if_pos rfl]
    rfl
  change String.ofList (Template.fillOf _ f.name.toList).1 = _
  rw [hname, Template.written, List.cons_append, List.cons_append,
    Template.fillOf_placeholder (Template.cutAtBrace_append hbrace []), hlookup]
  simp [Template.fillOf]

/-- The elements of a list take the names that stand at their places in another list, each as it is
unless it is taken. -/
theorem elementFields_of_lists {id : String} (hid : id ≠ Field.elementName)
    (hbrace : '}' ∉ id.toList) (hname : f.name.toList = Template.written id)
    (names items : List Value) :
    let elements := elementFields f [(id, .list names)] 0 {} (Value.list items).elements
    elements.map (·.2) = items ∧
      ∀ k v, items[k]? = some v → ∃ e, elements[k]? = some e ∧ e.2 = v ∧
        Naming.Gives ((elements.take k).map (·.1.name)) ((names[k]?).elim "" Value.text)
          e.1.name := by
  intro elements
  have hvalues : elements.map (·.2) = items := by
    rw [elementFields_values]
    simp [Value.elements, Function.comp_def]
  refine ⟨hvalues, ?_⟩
  intro k v hv
  obtain ⟨e, he, rfl⟩ : ∃ e, elements[k]? = some e ∧ e.2 = v := by
    rw [← hvalues, List.getElem?_map] at hv
    exact Option.map_eq_some_iff.1 hv
  have hnames : elements.map (·.1.name) =
      ({} : Naming).giveAll (ownNames f [(id, .list names)] 0 (Value.list items).elements) :=
    elementFields_names _ _ _
  -- the name that the element asks for, before it is told apart from those that are taken
  have hown : (ownNames f [(id, .list names)] 0 (Value.list items).elements)[k]? =
      some ((names[k]?).elim "" Value.text) := by
    rw [ownNames, List.getElem?_map, List.getElem?_zipIdx, Value.elements, List.getElem?_map,
      List.getElem?_zipIdx, hv, Nat.zero_add]
    exact congrArg some (name_forElement hid hbrace hname k _)
  obtain ⟨given, hgiven, hgives⟩ := Naming.getElem?_giveAll {} hown
  rw [← hnames] at hgiven hgives
  rw [List.getElem?_map, he] at hgiven
  obtain rfl : e.1.name = given := Option.some.inj hgiven
  refine ⟨e, he, rfl, ?_⟩
  rw [List.map_take]
  exact hgives

end Context

namespace Parser

open Context

variable {pf : ParserField Parser} {ctx : Context} {s : Session} {members : Keyed Json}
  {names values : List Json}

/-- A dynamic field without filters takes all elements of a list. -/
theorem fillField_of_items {location : String} {items : List Value} {found : Keyed Value}
    (hdynamic : pf.field.isDynamic = true) (hlocators : pf.field.locators = [{ location }])
    (hitems : ctx.formed { location } = .ok (some (.list items)))
    (hfound : (ctx.placeholderValues pf.field).value = .ok found) :
    ((fillField pf ctx).on s).1 =
      (ctx.record.applyAll (elementFields pf.field found 0 {} (Value.list items).elements)).map
        fun record => { ctx with record } := by
  have hnofilters : ({ location } : Locator).filters = ([] : List Test).map Test.filter := rfl
  have helements : elementFilters pf.field = ([] : List Test).map Test.filter := by
    rw [elementFilters, hlocators]
    rfl
  have hvalue := value_resolveField_of_list hlocators rfl hnofilters hitems
  have hspread : isSpread pf.field (.list items) = true := by
    simp [isSpread, Value.isIterable, hdynamic]
  -- Without filters, every element is one that is kept.
  have hall : ∀ elements : List (Field × Value),
      elements.filter (fun e => Test.passes [] e.2) = elements :=
    fun _ => List.filter_eq_self.2 fun _ _ => rfl
  rw [fillField_of_some hvalue, take_of_isSpread hspread, spread_of_tests helements, hfound]
  change (ctx.record.applyAll _).map _ = _
  rw [hall]

/-- **The values that are left go with the names that are left.** Let the values of a field be the
items of one array of a document and their names those of another one, and let neither array be
blank altogether. The values that are not null are applied in their order, and the names that are
not null go to them in theirs. So the value at a place goes with the name at the same place if
neither is null and as many nulls stand before it in both arrays, whatever stands elsewhere. A name
gets a number at its end only if it is taken by then. -/
theorem fillField_of_parallel (hresolver : ctx.profile.resolver = .json)
    (hdelim : ctx.profile.properties.pathDelim = ".") (hdata : ctx.data = .json (.obj members))
    (hnames : Keyed.get? "names" members = some (.arr names))
    (hvalues : Keyed.get? "values" members = some (.arr values))
    (hname : pf.field.name = "$\x7bName\x7d")
    (hlocators : pf.field.locators = [{ location := "values.*" }])
    (hnameLocators : pf.field.nameLocators = [("Name", { location := "names.*" })])
    (hsomeName : Value.allBlank (Value.ofItems names) = false)
    (hsomeValue : Value.allBlank (Value.ofItems values) = false) :
    ∃ elements : List (Field × Value),
      ((fillField pf ctx).on s).1 =
          (ctx.record.applyAll elements).map (fun record => { ctx with record }) ∧
        elements.map (·.2) = (Value.ofItems values).map Value.worded ∧
        (∀ k v, (Value.ofItems values)[k]? = some v →
          ∃ e, elements[k]? = some e ∧ e.2 = v.worded ∧
            Naming.Gives ((elements.take k).map (·.1.name))
              (((Value.ofItems names)[k]?).elim "" Value.text) e.1.name) ∧
        ∀ i v w, (values[i]?).bind Value.ofJson = some v → (names[i]?).bind Value.ofJson = some w →
          Json.nullsBefore names i = Json.nullsBefore values i →
          ∃ e, elements[i - Json.nullsBefore values i]? = some e ∧ e.2 = v.worded ∧
            Naming.Gives ((elements.take (i - Json.nullsBefore values i)).map (·.1.name)) w.text
              e.1.name := by
  have hformedNames : ctx.formed { location := "names.*" } =
      .ok (some (.list ((Value.ofItems names).map Value.worded))) := by
    rw [formed_of_array hresolver hdata (by rw [hdelim]; decide) (by rw [hdelim]; decide) hnames,
      hsomeName]
    rfl
  have hformedValues : ctx.formed { location := "values.*" } =
      .ok (some (.list ((Value.ofItems values).map Value.worded))) := by
    rw [formed_of_array hresolver hdata (by rw [hdelim]; decide) (by rw [hdelim]; decide) hvalues,
      hsomeValue]
    rfl
  have hplaceholders := placeholderValues_of_single hnameLocators
    ((resolve_plain ctx _).trans hformedNames)
  have hdynamic : pf.field.isDynamic = true := by
    simp [Field.isDynamic, hnameLocators]
  have hfilled := fillField_of_items (s := s) hdynamic hlocators hformedValues hplaceholders
  have hwritten : pf.field.name.toList = Template.written "Name" := by
    rw [hname]
    decide
  obtain ⟨hitems, hpaired⟩ := elementFields_of_lists (by decide) (by decide) hwritten
    ((Value.ofItems names).map Value.worded) ((Value.ofItems values).map Value.worded)
  generalize elementFields pf.field _ 0 {} _ = elements at hfilled hitems hpaired
  -- what is found under a name reads as it did in the document
  have hlaw : ∀ k v, (Value.ofItems values)[k]? = some v →
      ∃ e, elements[k]? = some e ∧ e.2 = v.worded ∧
        Naming.Gives ((elements.take k).map (·.1.name))
          (((Value.ofItems names)[k]?).elim "" Value.text) e.1.name := by
    intro k v hv
    have htext : ((((Value.ofItems names).map Value.worded)[k]?).elim "" Value.text) =
        ((Value.ofItems names)[k]?).elim "" Value.text := by
      rw [List.getElem?_map]
      cases (Value.ofItems names)[k]? with
      | none => rfl
      | some w => exact w.text_worded
    rw [← htext]
    exact hpaired k v.worded (by rw [List.getElem?_map, hv]; rfl)
  refine ⟨elements, hfilled, hitems, hlaw, ?_⟩
  intro i v w hv hw hnulls
  obtain ⟨x, hx, hv⟩ := Option.bind_eq_some_iff.1 hv
  obtain ⟨y, hy, hw⟩ := Option.bind_eq_some_iff.1 hw
  have hvalue := Value.getElem?_ofItems hx hv
  have hown := Value.getElem?_ofItems hy hw
  obtain ⟨e, he, hworded, hgives⟩ := hlaw _ v hvalue
  rw [← hnulls, hown, hnulls] at hgives
  exact ⟨e, he, hworded, hgives⟩

/-- A field for each value of a document, under the name at the same place in another array. -/
def columns : ParserField Parser :=
  ⟨{ name := "$\x7bName\x7d"
     locators := [{ location := "values.*" }]
     nameLocators := [("Name", { location := "names.*" })] }, []⟩

/-- A context whose document has two arrays. -/
def table (names values : List Json) : Context where
  host := { now := ⟨0⟩, env := fun _ => none }
  cache := default
  profile := ⟨"table", {}, .json⟩
  source := { name := "test" }
  raw := .text ""
  data := .json (.obj [("names", .arr names), ("values", .arr values)])
  metadata := []
  record := .blank
  field := some "$\x7bName\x7d"
  outer := []

/-- The properties that the columns of a table make, as texts. -/
def columnTexts (names values : List Json) : Option (List (String × String)) :=
  ((fillField columns (table names values)).on untouched).1.toOption.map fun ctx =>
    ctx.record.facts.properties.map fun e => (e.1, e.2.text)

theorem columns_side_by_side :
    columnTexts [.str "a", .null, .str "c"] [.int 1, .null, .int 3] =
        some [("a", "1"), ("c", "3")] ∧
      ∃ elements, ((fillField columns (table [.str "a", .null, .str "c"]
          [.int 1, .null, .int 3])).on untouched).1 =
            (Record.blank.applyAll elements).map (fun record =>
              { table [.str "a", .null, .str "c"] [.int 1, .null, .int 3] with record }) ∧
        ∃ e, elements[1]? = some e ∧ e.2.text = "3" ∧
          Naming.Gives ((elements.take 1).map (·.1.name)) "c" e.1.name := by
  obtain ⟨elements, hfilled, -, -, hplaces⟩ := @fillField_of_parallel columns
    (table [.str "a", .null, .str "c"] [.int 1, .null, .int 3]) untouched _ _ _
    rfl rfl rfl rfl rfl rfl rfl rfl (by decide) (by decide)
  obtain ⟨e, he, hworded, hgives⟩ := hplaces 2 (.int 3) (.str "c") rfl rfl rfl
  exact ⟨by decide +kernel, elements, hfilled, e, he, by rw [hworded]; decide, hgives⟩

/-- **A value goes with the name of another one** if a null stands before it in one array alone; it
goes with none if all names are blank; and values that are all blank are not there at all. -/
theorem names_slip :
    columnTexts [.str "a", .str "b", .str "c"] [.null, .int 2, .int 3] =
        some [("a", "2"), ("b", "3")] ∧
      columnTexts [.str "", .str ""] [.int 1, .int 2] =
        some [("$\x7bName\x7d", "1"), ("$\x7bName\x7d1", "2")] ∧
      columnTexts [.str "a", .str "b"] [.str "", .str ""] = some [] :=
  ⟨by decide +kernel, by decide +kernel, by decide +kernel⟩

end Parser

end Intake
