import Intake.Proofs.Required

/-!
# Elements of a value that is spread

The filters of a locator judge the value that it finds, and once more each element that the value is
spread over. Here they are tests of conditions, which see nothing but the text of a value.

* `Context.spread_of_tests`: a value that is spread is applied element by element, without those
  that a test rejects.
* `Parser.fillField_of_list`: **a field takes exactly the elements that pass all tests by
  themselves, unless a test rejects the text of the whole list**; then it takes none of them.
* `Parser.apple_lost`: an element that passes is lost because the list that it stands in does not.
-/

namespace Intake

/-- A condition, with what happens to the values that match it. -/
structure Test where
  name : String
  handling : Handling
  condition : Condition

namespace Test

/-- The filter that makes this test. -/
def filter (t : Test) : ValueFilter :=
  .condition t.name t.handling t.condition

/-- The test excludes the value when it is asked about that value alone. -/
def rejects (t : Test) (v : Value) : Bool :=
  t.handling.excludes (t.condition.holds v.text)

/-- None of the tests excludes the value. -/
def passes (tests : List Test) (v : Value) : Bool :=
  tests.all fun t => !t.rejects v

end Test

/-- Applies elements to their fields one after the other. -/
def Record.applyAll (r : Record) (elements : List (Field × Value)) : Except Failure Record :=
  elements.foldlM (fun r e => (r.apply e.1 e.2).mapError (Failure.inField e.1.name)) r

namespace Context

variable {ctx : Context} {f : Field} {l : Locator} {tests : List Test}

/-- The verdict of tests is that on the value, whatever else the context holds. -/
theorem excludes_tests (ctx : Context) (tests : List Test) (v : Value) :
    ctx.excludes (tests.map Test.filter) (some v) = pure (!Test.passes tests v) := by
  induction tests with
  | nil => rfl
  | cons t rest ih =>
    have hpasses : Test.passes (t :: rest) v = (!t.rejects v && Test.passes rest v) := rfl
    have hexcludes : t.filter.excludes (some v) ctx.bindings = .ok (t.rejects v) := rfl
    rw [List.map_cons, excludes, hexcludes, hpasses]
    cases t.rejects v with
    | true => rfl
    | false => exact ih

/-- The filters of an element are those of the value. -/
theorem elementFilters_of_mem {values : Keyed Value} {entries : List (String × Value)}
    {index : Nat} {naming : Naming} {e : Field × Value}
    (h : e ∈ elementFields f values index naming entries) :
    elementFilters e.1 = elementFilters f := by
  induction entries generalizing index naming with
  | nil => cases h
  | cons entry rest ih =>
    obtain ⟨key, v⟩ := entry
    rw [elementFields] at h
    rcases List.mem_cons.1 h with rfl | h
    · simp [elementFilters, Field.forElement, Locator.filled, Function.comp_def]
    · exact ih h

/-- Elements are applied one after the other, without those that a test rejects. -/
theorem applyElements_of_tests {elements : List (Field × Value)}
    (h : ∀ e ∈ elements, elementFilters e.1 = tests.map Test.filter) (ctx : Context) :
    (ctx.applyElements elements).value =
      ctx.record.applyAll (elements.filter fun e => Test.passes tests e.2) := by
  induction elements generalizing ctx with
  | nil => rfl
  | cons e rest ih =>
    obtain ⟨f, v⟩ := e
    have hrest := ih fun e he => h e (List.mem_cons_of_mem _ he)
    rw [applyElements, h (f, v) List.mem_cons_self, excludes_tests, Resolving.value_bind,
      Resolving.value_noted, Noted.value_pure, List.filter_cons]
    cases Test.passes tests v with
    | false => exact hrest ctx
    | true =>
      -- the record goes on as the element leaves it, or applying ends here
      change Resolving.value (_ >>= _) = (_ :: _).foldlM _ _
      rw [Resolving.value_bind, Resolving.value_except, List.foldlM_cons]
      congr 1
      funext record
      exact hrest { ctx with record }

/-- **A value that is spread** is applied element by element, without those that a test rejects. -/
theorem spread_of_tests (h : elementFilters f = tests.map Test.filter) (v : Value) :
    (ctx.spread f v).value = (ctx.placeholderValues f).value >>= fun values =>
      ctx.record.applyAll
        ((elementFields f values 0 {} v.elements).filter fun e => Test.passes tests e.2) := by
  unfold spread
  rw [Resolving.value_bind]
  congr 1
  funext values
  exact applyElements_of_tests (fun e he => (elementFilters_of_mem he).trans h) ctx

/-- What a locator without transforms finds, in the form that it asks for. -/
def formed (ctx : Context) (l : Locator) : Except Failure (Option Value) :=
  (ctx.lookup l).value >>= fun found => formatted l found.isFormatted (withoutBlank l found.value)

/-- A locator with tests alone finds a value unless one of them rejects it. -/
theorem resolve_of_tests (htransforms : l.transforms = [])
    (hfilters : l.filters = tests.map Test.filter) :
    (ctx.resolve l).value = (ctx.formed l).map (·.filter (Test.passes tests)) := by
  -- without transforms both phases leave the value as it is
  have hphase : ∀ phase v, (ctx.transformed l phase v).value = v := by
    intro phase v
    unfold transformed Locator.transformsOf
    rw [htransforms]
    rfl
  have hjudged : ∀ v : Option Value, (if (ctx.excludes l.filters v).value then none else v) =
      v.filter (Test.passes tests) := by
    intro v
    cases v with
    | none => simp
    | some v =>
      rw [hfilters, excludes_tests]
      cases hpasses : Test.passes tests v <;> simp [Option.filter, hpasses]
  rw [value_resolve, formed]
  simp only [hphase, hjudged]
  cases (ctx.lookup l).value with
  | error e => rfl
  | ok found =>
    change formatted l _ _ >>= _ = (formatted l _ _).map _
    cases formatted l found.isFormatted (withoutBlank l found.value) <;> rfl

/-- The value of a field with one locator is that of the locator. -/
theorem value_resolveField_of_single (h : f.locators = [l]) :
    (ctx.resolveField f).value = (ctx.resolveFor f l).value := by
  have hsimplify : ∀ v : Option Value, Value.simplify [v] = v := by
    intro v
    cases v <;> rfl
  rw [value_resolveField, h, List.mapM_cons, List.mapM_nil]
  cases (ctx.resolveFor f l).value with
  | error e => rfl
  | ok v => exact congrArg Except.ok (hsimplify v)

/-- A field whose only locator has tests alone comes to a list, unless one of them rejects it. -/
theorem value_resolveField_of_list {items : List Value} (hlocators : f.locators = [l])
    (htransforms : l.transforms = []) (hfilters : l.filters = tests.map Test.filter)
    (hlist : ctx.formed l = .ok (some (.list items))) :
    (ctx.resolveField f).value =
      if Test.passes tests (.list items) then .ok (some (.list items))
      else if l.isRequired (f.requires ctx.profile.properties.requireDefault) then
        .error (.missingValue f.name l.location)
      else .ok none := by
  rw [value_resolveField_of_single hlocators, value_resolveFor,
    resolve_of_tests htransforms hfilters, hlist]
  simp only [Except.map, Option.filter_some, bind, Except.bind]
  by_cases hpasses : Test.passes tests (.list items) = true
  · simp [hpasses]
  · simp [hpasses]

end Context

namespace Parser

open Attempt

variable {pf : ParserField Parser} {ctx : Context} {s : Session} {l : Locator}
  {tests : List Test} {items : List Value}

/-- A value that is spread goes into the record alone. -/
theorem take_of_isSpread {v : Value} (h : isSpread pf.field v = true) :
    ((take pf v ctx).on s).1 =
      (ctx.spread pf.field v).value.map fun record => { ctx with record } := by
  rw [take, if_pos h, on_bind, on_resolving]
  cases (ctx.spread pf.field v).value <;> rfl

/-- **A field takes exactly the elements of a list that pass all tests by themselves**, provided
that the list as a whole passes them too. Otherwise it takes none: its locator finds nothing, as if
there were no list. -/
theorem fillField_of_list (hspread : pf.field.isDynamic = true ∨ pf.field.isSplit = true)
    (hlocators : pf.field.locators = [l]) (htransforms : l.transforms = [])
    (hfilters : l.filters = tests.map Test.filter)
    (hlist : ctx.formed l = .ok (some (.list items))) :
    ((fillField pf ctx).on s).1 =
      if Test.passes tests (.list items) then do
        let values ← (ctx.placeholderValues pf.field).value
        let record ← ctx.record.applyAll
          ((Context.elementFields pf.field values 0 {} (Value.list items).elements).filter
            fun e => Test.passes tests e.2)
        return { ctx with record }
      else if l.isRequired (pf.field.requires ctx.profile.properties.requireDefault) then
        .error (.missingValue pf.field.name l.location)
      else .ok ctx := by
  have hfield := Context.value_resolveField_of_list hlocators htransforms hfilters hlist
  -- the tests are asked of the list first, and of its elements only then
  by_cases hpasses : Test.passes tests (.list items) = true
  · rw [if_pos hpasses] at hfield ⊢
    have helements : Context.elementFilters pf.field = tests.map Test.filter := by
      rw [← hfilters, Context.elementFilters, hlocators]
      rfl
    have hisSpread : isSpread pf.field (.list items) = true := by
      rcases hspread with h | h <;> simp [isSpread, Value.isIterable, h]
    rw [fillField_of_some hfield, take_of_isSpread hisSpread, Context.spread_of_tests helements]
    cases (ctx.placeholderValues pf.field).value with
    | error e => rfl
    | ok values =>
      change (ctx.record.applyAll _).map _ = ctx.record.applyAll _ >>= _
      cases ctx.record.applyAll _ <;> rfl
  · rw [if_neg hpasses] at hfield ⊢
    by_cases hrequired :
        l.isRequired (pf.field.requires ctx.profile.properties.requireDefault) = true
    · rw [if_pos hrequired] at hfield ⊢
      exact congrArg Prod.fst (fillField_of_error hfield)
    · rw [if_neg hrequired] at hfield ⊢
      exact congrArg Prod.fst (fillField_of_none hfield)

/-- A field for each fruit that passes some tests. -/
def fruits (tests : List Test) : ParserField Parser :=
  ⟨{ name := "Fruit"
     locators := [{ location := "fruits", filters := tests.map Test.filter }]
     isSplit := true }, []⟩

/-- A context in which there are three fruits. -/
def market : Context where
  host := { now := ⟨0⟩, env := fun _ => none }
  cache := default
  profile := ⟨"market", {}, .map⟩
  source := { name := "test" }
  raw := .text ""
  data := .map [("fruits", .list [.str "apple", .str "banana", .str "cherry"])]
  metadata := []
  record := .blank
  field := some "Fruit"
  outer := []

/-- A test that excludes one fruit by its name. -/
def noBanana : Test := ⟨"no banana", .exclude, .exact "banana"⟩

theorem bananas_left_out :
    Test.passes [noBanana] (.list [.str "apple", .str "banana", .str "cherry"]) = true ∧
      (((fillField (fruits [noBanana]) market).on untouched).1.toOption.map fun ctx =>
          ctx.record.facts.properties.map fun e => (e.1, e.2.text)) =
        some [("Fruit", "apple"), ("Fruit2", "cherry")] := by
  have hfilters : ([noBanana].map Test.filter) = [noBanana].map Test.filter := rfl
  have hlist : market.formed { location := "fruits", filters := [noBanana].map Test.filter } =
      .ok (some (.list [.str "apple", .str "banana", .str "cherry"])) := rfl
  refine ⟨rfl, ?_⟩
  rw [fillField_of_list (.inr rfl) rfl rfl hfilters hlist]
  decide +kernel

/-- A test that lets only fruits of one letter pass. -/
def early : Test := ⟨"early", .include, .startsWith "a"⟩

/-- **An element that passes is lost** because the list that it stands in does not pass: its text
starts with a bracket. -/
theorem apple_lost :
    market.formed { location := "fruits", filters := [early.filter] } =
        .ok (some (.list [.str "apple", .str "banana", .str "cherry"])) ∧
      Test.passes [early] (.str "apple") = true ∧
      ((fillField (fruits [early]) market).on untouched).1 = .ok market ∧
      market.record.get? "Fruit" = none :=
  ⟨rfl, rfl, rfl, rfl⟩

end Parser

end Intake
