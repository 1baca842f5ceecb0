import Intake.Proofs.Elements
import Intake.Proofs.Naming

/-!
# What a record holds of a value that is spread

* `Record.applyAll_of_plain`: properties under different names are all there in the end.
* `Context.spread_keeps_all`: **a record holds all elements of a value that is spread, each under a
  name of its own**, if numbers tell their names apart.
* `Context.reading_overwritten`: otherwise one element may take the place of another.
-/

namespace Intake

/-- A field that makes a property of one value: it is no slot, its values are no codes, and it has
at most one locator. -/
structure Field.Plain (f : Field) : Prop where
  slot : Slot.ofName? f.name = none
  enumeration : f.isEnumeration = false
  locators : f.locators.length ≤ 1

namespace Field

variable {f : Field}

theorem Plain.normalize (h : f.Plain) (l : Locator) (v : Value) : f.normalize l v = .ok v := by
  have hcodified : f.codified v = v := by
    unfold codified
    cases v <;> simp [h.enumeration]
  unfold Field.normalize
  rw [hcodified, slot?, h.slot]

/-- Several values for a plain field can be joined, as none of them is changed, unless one of them
cannot be written. -/
theorem Plain.joined (h : f.Plain) (first : Locator) (items : List Value) :
    FailsOnly Failure.IsUnprintable (f.joined first items) := by
  have hone : ¬ (decide (1 < f.locators.length) && f.locators.length != items.length) = true := by
    simp [Nat.not_lt.2 h.locators]
  unfold Field.joined
  rw [h.enumeration, if_neg Bool.false_ne_true, if_neg hone]
  refine (FailsOnly.mapM fun part _ => ?_).bind fun normalized => ?_
  · simp only [h.normalize]
    exact .ok _
  · split
    · exact .ok _
    · exact (FailsOnly.mapM fun part _ => partText_fails part.1 part.2).bind fun _ => .ok _

/-- A plain field takes every value that can be written, and as it is if it is no list. -/
theorem Plain.settled (h : f.Plain) (v : Value) :
    (∃ pattern, f.settled v = .error (.fault (.unprintable pattern))) ∨
      ∃ w, f.settled v = .ok w ∧ ((∀ items, v ≠ .list items) → w = v) := by
  have hlength := h.locators
  unfold Field.settled
  split
  · exact .inr ⟨_, rfl, fun hv => absurd rfl (hv _)⟩
  · exact .inr ⟨_, rfl, fun _ => rfl⟩
  · next first rest items _ =>
    cases hjoined : f.joined first items with
    | error e =>
      obtain ⟨pattern, rfl⟩ := h.joined first items e hjoined
      exact .inl ⟨pattern, rfl⟩
    | ok w => exact .inr ⟨w, rfl, fun hv => absurd rfl (hv _)⟩
  · exact .inr ⟨_, h.normalize _ _, fun _ => rfl⟩
  · exact .inr ⟨_, rfl, fun _ => rfl⟩

end Field

namespace Record

/-- The value of the element is a list with an instant that cannot be written under this pattern. -/
def Unwritable (e : Field × Value) (pattern : String) : Prop :=
  e.1.settled (Field.unwrapped e.2) = .error (.fault (.unprintable pattern))

/-- A plain field makes a property, and changes nothing else, unless its value cannot be written. -/
theorem apply_of_plain {f : Field} (h : f.Plain) (r : Record) (v : Value) :
    (∃ pattern, Unwritable (f, v) pattern ∧
        r.apply f v = .error (.fault (.unprintable pattern))) ∨
      ∃ w, f.settled (Field.unwrapped v) = .ok w ∧
        ((∀ items, Field.unwrapped v ≠ .list items) → w = Field.unwrapped v) ∧
        r.apply f v = .ok (r.withFacts
          { r.facts with properties := Keyed.insert f.name w r.facts.properties }) := by
  unfold apply
  rcases h.settled (Field.unwrapped v) with ⟨x, hx⟩ | ⟨w, hw, hself⟩
  · refine .inl ⟨x, hx, ?_⟩
    rw [hx]
    rfl
  · refine .inr ⟨w, hw, hself, ?_⟩
    unfold Facts.setAs
    rw [hw, h.slot]
    rfl

/-- What the record holds of an element: a list of several values as the field settles it, and all
else as it is. -/
def Holds (r : Record) (e : Field × Value) : Prop :=
  ∃ w, e.1.settled (Field.unwrapped e.2) = .ok w ∧
    ((∀ items, Field.unwrapped e.2 ≠ .list items) → w = Field.unwrapped e.2) ∧
    Keyed.get? e.1.name r.facts.properties = some w

/-- **Properties under different names are all there in the end**, and those under other names are
as they were, unless the value of one of them cannot be written. -/
theorem applyAll_of_plain {elements : List (Field × Value)} (hplain : ∀ e ∈ elements, e.1.Plain)
    (hnames : (elements.map (·.1.name)).Nodup) (r : Record) :
    (∃ e ∈ elements, ∃ pattern, Unwritable e pattern ∧
        r.applyAll elements = .error (.fault (.unprintable pattern))) ∨
      ∃ r', r.applyAll elements = .ok r' ∧ (∀ e ∈ elements, r'.Holds e) ∧
        ∀ name ∉ elements.map (·.1.name),
          Keyed.get? name r'.facts.properties = Keyed.get? name r.facts.properties := by
  induction elements generalizing r with
  | nil => exact .inr ⟨r, rfl, fun e he => absurd he List.not_mem_nil, fun _ _ => rfl⟩
  | cons e rest ih =>
    obtain ⟨f, v⟩ := e
    rw [List.map_cons, List.nodup_cons] at hnames
    rcases apply_of_plain (hplain (f, v) List.mem_cons_self) r v with
      ⟨x, hx, happly⟩ | ⟨w, hw, hself, happly⟩
    · refine .inl ⟨(f, v), List.mem_cons_self, x, hx, ?_⟩
      unfold applyAll
      rw [List.foldlM_cons, happly]
      rfl
    have hstep : r.applyAll ((f, v) :: rest) = (r.withFacts
        { r.facts with properties := Keyed.insert f.name w r.facts.properties }).applyAll rest := by
      unfold applyAll
      rw [List.foldlM_cons, happly]
      rfl
    rw [hstep]
    rcases ih (fun e he => hplain e (List.mem_cons_of_mem _ he)) hnames.2
      (r.withFacts { r.facts with properties := Keyed.insert f.name w r.facts.properties }) with
      ⟨e, he, x, hx, hfault⟩ | ⟨r', hr', hholds, hothers⟩
    · exact .inl ⟨e, List.mem_cons_of_mem _ he, x, hx, hfault⟩
    refine .inr ⟨r', hr', ?_, ?_⟩
    · intro e he
      rcases List.mem_cons.1 he with rfl | he
      · refine ⟨w, hw, hself, ?_⟩
        -- no later element has this name
        rw [hothers f.name hnames.1]
        exact (Keyed.get?_insert _ _ _ _).trans (if_pos rfl)
      · exact hholds e he
    · intro name hname
      rw [List.map_cons, List.mem_cons, not_or] at hname
      rw [hothers name hname.2]
      exact (Keyed.get?_insert _ _ _ _).trans (if_neg fun heq => hname.1 heq.symm)

end Record

namespace Context

variable {ctx : Context} {f : Field} {values : Keyed Value}

/-- The names that the elements of a value have by themselves. -/
def ownNames (f : Field) (values : Keyed Value) (index : Nat) (entries : List (String × Value)) :
    List String :=
  (entries.zipIdx index).map fun e => (f.forElement values e.2 e.1.1).name

theorem elementFields_names (index : Nat) (naming : Naming) (entries : List (String × Value)) :
    (elementFields f values index naming entries).map (·.1.name) =
      naming.giveAll (ownNames f values index entries) := by
  induction entries generalizing index naming with
  | nil => rfl
  | cons entry rest ih =>
    rw [elementFields, List.map_cons, ih]
    rfl

theorem elementFields_values (index : Nat) (naming : Naming) (entries : List (String × Value)) :
    (elementFields f values index naming entries).map (·.2) = entries.map (·.2) := by
  induction entries generalizing index naming with
  | nil => rfl
  | cons entry rest ih =>
    rw [elementFields, List.map_cons, List.map_cons, ih]

/-- The field of an element is plain if no name is that of a slot. -/
theorem elementFields_plain (henumeration : f.isEnumeration = false)
    (hlocators : f.locators.length ≤ 1) {index : Nat} {naming : Naming}
    {entries : List (String × Value)}
    (hslots : ∀ name ∈ ownNames f values index entries, Slot.ofName? name = none)
    {e : Field × Value} (he : e ∈ elementFields f values index naming entries) : e.1.Plain := by
  induction entries generalizing index naming with
  | nil => exact absurd he List.not_mem_nil
  | cons entry rest ih =>
    obtain ⟨key, v⟩ := entry
    rw [elementFields] at he
    rcases List.mem_cons.1 he with rfl | he
    · have hown : Slot.ofName? (f.forElement values index key).name = none :=
        hslots _ List.mem_cons_self
      have hcode : (f.forElement values index key).isEnumeration = false := by
        change (f.isEnumeration || (Slot.ofName? (f.forElement values index key).name).any
          (·.isEnumeration)) = false
        rw [henumeration, hown]
        rfl
      -- a name that is told apart by a number is not that of a slot either
      have hgiven : Slot.ofName? (naming.give (f.forElement values index key).name).1 = none := by
        rcases naming.give_cases (f.forElement values index key).name with
          ⟨-, hgive⟩ | ⟨-, hgive⟩
        · rw [hgive, hown]
        · rw [hgive, Slot.ofName?_numbered]
      exact ⟨hgiven, hcode, by simpa [Field.forElement] using hlocators⟩
    · exact ih (fun name hname => hslots name (List.mem_cons_of_mem _ hname)) he

/-- **A record holds all elements of a value that is spread, each under a name of its own**, if no
name is that of a slot and no name that comes again is, with a number at its end, an earlier one.
The field has at most one locator, without filters, and its values are no codes. Only an element
that is a list of several values, one of which cannot be written as text, stops the program. -/
theorem spread_keeps_all {v : Value} (hlocators : f.locators.length ≤ 1)
    (henumeration : f.isEnumeration = false) (hfilters : ∀ l ∈ f.locators, l.filters = [])
    (hvalues : (ctx.placeholderValues f).value = .ok values)
    (hslots : ∀ name ∈ ownNames f values 0 v.elements, Slot.ofName? name = none)
    (hnames : Naming.ToldApart v.elements.length [] (ownNames f values 0 v.elements)) :
    ((elementFields f values 0 {} v.elements).map (·.1.name)).Nodup ∧
      (elementFields f values 0 {} v.elements).map (·.2) = v.elements.map (·.2) ∧
      ((∃ e ∈ elementFields f values 0 {} v.elements, ∃ pattern, Record.Unwritable e pattern ∧
          (ctx.spread f v).value = .error (.fault (.unprintable pattern))) ∨
        ∃ r, (ctx.spread f v).value = .ok r ∧
          ∀ e ∈ elementFields f values 0 {} v.elements, r.Holds e) := by
  have hlength : (ownNames f values 0 v.elements).length = v.elements.length := by
    simp [ownNames]
  have hnodup : ((elementFields f values 0 {} v.elements).map (·.1.name)).Nodup := by
    rw [elementFields_names]
    exact Naming.nodup_giveAll (by rwa [hlength])
  -- no filters are no tests, and those let every element pass
  have hnone : elementFilters f = ([] : List Test).map Test.filter := by
    unfold elementFilters
    cases hhead : f.locators.head? with
    | none => rfl
    | some l => exact hfilters l (List.mem_of_head? hhead)
  refine ⟨hnodup, elementFields_values _ _ _, ?_⟩
  have hall : (elementFields f values 0 {} v.elements).filter (fun e => Test.passes [] e.2) =
      elementFields f values 0 {} v.elements := List.filter_eq_self.2 fun _ _ => rfl
  have hspread : (ctx.spread f v).value =
      ctx.record.applyAll (elementFields f values 0 {} v.elements) := by
    rw [spread_of_tests hnone, hvalues]
    exact congrArg ctx.record.applyAll hall
  rw [hspread]
  rcases Record.applyAll_of_plain
    (fun e he => elementFields_plain henumeration hlocators hslots he) hnodup ctx.record with
    hfault | ⟨r, hr, hholds, -⟩
  · exact .inl hfault
  · exact .inr ⟨r, hr, hholds⟩

/-- A field for each reading, under the name that stands at the same place in a list of names. -/
def sensor : Field where
  name := "${Name}"
  locators := [{ location := "readings" }]
  nameLocators := [("Name", { location := "names" })]

/-- A context in which there are names for readings. -/
def panel (names : List String) : Context where
  host := { now := ⟨0⟩, env := fun _ => none }
  cache := default
  profile := ⟨"panel", {}, .map⟩
  source := { name := "test" }
  raw := .text ""
  data := .map [("names", .list (names.map .str))]
  metadata := []
  record := .blank
  field := some "${Name}"
  outer := []

/-- Three readings. -/
def readings : Value := .list [.str "1", .str "2", .str "3"]

theorem readings_apart :
    ((elementFields sensor [("Name", .list [.str "cpu", .str "mem", .str "cpu"])] 0 {}
        readings.elements).map (·.1.name)) = ["cpu", "mem", "cpu1"] ∧
      ∃ r, ((panel ["cpu", "mem", "cpu"]).spread sensor readings).value = .ok r ∧
        ∀ e ∈ elementFields sensor [("Name", .list [.str "cpu", .str "mem", .str "cpu"])] 0 {}
          readings.elements, r.Holds e := by
  have hvalues : ((panel ["cpu", "mem", "cpu"]).placeholderValues sensor).value =
      .ok [("Name", .list [.str "cpu", .str "mem", .str "cpu"])] := rfl
  obtain ⟨-, -, hspread⟩ := spread_keeps_all (v := readings) (by decide) rfl (by simp [sensor])
    hvalues (by decide +kernel) (by decide +kernel)
  have hsome : ((panel ["cpu", "mem", "cpu"]).spread sensor readings).value.toOption.isSome = true :=
    by decide +kernel
  refine ⟨by decide +kernel, hspread.resolve_left ?_⟩
  rintro ⟨e, -, x, -, hfault⟩
  rw [hfault] at hsome
  cases hsome

/-- **One element takes the place of another**: the second of two names that are the same gets a
number at its end, and a name like that is there already. -/
theorem reading_overwritten :
    ((elementFields sensor [("Name", .list [.str "cpu1", .str "cpu", .str "cpu"])] 0 {}
        readings.elements).map (·.1.name)) = ["cpu1", "cpu", "cpu1"] ∧
      ((panel ["cpu1", "cpu", "cpu"]).placeholderValues sensor).value =
        .ok [("Name", .list [.str "cpu1", .str "cpu", .str "cpu"])] ∧
      (((panel ["cpu1", "cpu", "cpu"]).spread sensor readings).value.toOption.map fun r =>
          r.facts.properties.map fun e => (e.1, e.2.text)) =
        some [("cpu", "2"), ("cpu1", "3")] :=
  ⟨by decide +kernel, rfl, by decide +kernel⟩

end Context

end Intake
