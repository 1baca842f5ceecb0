import Mathlib.Data.List.Forall2
import Intake.Proofs.Parallel
import Intake.Proofs.Pointing

/-!
# Steps that always fail

Transforms and value filters that are given from outside may fail on every value. Locators that have
such steps besides their own find what they find without them.

* `Padded`: a list with entries of some kind inserted anywhere.
* `Transform.IsFutile`, `ValueFilter.IsFutile`: steps that always fail and read no fields.
* `Locator.Padded`, `Field.Padded`: futile steps are inserted into locators.
* `Context.resolveField_padded`: a field comes to the same value.
* `Record.apply_padded`, `Context.spread_padded`: a record takes the value of a field in the same
  way, also element by element.
-/

namespace Intake

variable {α β : Type}

/-- A list with more entries of some kind, anywhere among its own. -/
inductive Padded (extra : α → Prop) : List α → List α → Prop
  | nil : Padded extra [] []
  | keep {a : α} {l l' : List α} : Padded extra l l' → Padded extra (a :: l) (a :: l')
  | insert {a : α} {l l' : List α} : extra a → Padded extra l l' → Padded extra l (a :: l')

namespace Padded

variable {extra : α → Prop} {l l' : List α}

theorem filter (h : Padded extra l l') (p : α → Bool) :
    Padded extra (l.filter p) (l'.filter p) := by
  induction h with
  | nil => exact .nil
  | @keep a _ _ _ ih =>
    by_cases hp : p a = true
    · rw [List.filter_cons_of_pos hp, List.filter_cons_of_pos hp]
      exact .keep ih
    · rw [List.filter_cons_of_neg hp, List.filter_cons_of_neg hp]
      exact ih
  | @insert a _ _ ha _ ih =>
    by_cases hp : p a = true
    · rw [List.filter_cons_of_pos hp]
      exact .insert ha ih
    · rw [List.filter_cons_of_neg hp]
      exact ih

/-- More entries that change nothing make no difference to what a list is folded into. -/
theorem foldl_eq {f : β → α → β} (h : Padded extra l l') (hf : ∀ a, extra a → ∀ b, f b a = b)
    (b : β) : l'.foldl f b = l.foldl f b := by
  induction h generalizing b with
  | nil => rfl
  | keep _ ih => exact ih _
  | insert ha _ ih => rw [List.foldl_cons, hf _ ha, ih]

theorem flatMap_eq {f : α → List β} (h : Padded extra l l') (hf : ∀ a, extra a → f a = []) :
    l'.flatMap f = l.flatMap f := by
  induction h with
  | nil => rfl
  | keep _ ih => rw [List.flatMap_cons, List.flatMap_cons, ih]
  | insert ha _ ih => rw [List.flatMap_cons, hf _ ha, ih, List.nil_append]

end Padded

section Pairs

variable {γ : Type} {R : α → β → Prop} {l : List α} {l' : List β}

/-- Functions that agree on pairs make the same list of lists that are related pair by pair. -/
theorem map_eq_of_pairs {g : α → γ} {g' : β → γ} (h : List.Forall₂ R l l')
    (hg : ∀ a b, R a b → g' b = g a) : l'.map g' = l.map g := by
  induction h with
  | nil => rfl
  | cons hab _ ih => rw [List.map_cons, List.map_cons, hg _ _ hab, ih]

theorem mapM_eq_of_pairs {ε : Type} {g : α → Except ε γ} {g' : β → Except ε γ}
    (h : List.Forall₂ R l l') (hg : ∀ a b, R a b → g' b = g a) : l'.mapM g' = l.mapM g := by
  induction h with
  | nil => rfl
  | cons hab _ ih => rw [List.mapM_cons, List.mapM_cons, hg _ _ hab, ih]

theorem any_eq_of_pairs {g : α → Bool} {g' : β → Bool} (h : List.Forall₂ R l l')
    (hg : ∀ a b, R a b → g' b = g a) : l'.any g' = l.any g := by
  have hany := congrArg (fun bs => bs.any id) (map_eq_of_pairs h hg)
  simpa only [List.any_map, Function.id_comp] using hany

theorem flatMap_eq_of_pairs {g : α → List γ} {g' : β → List γ} (h : List.Forall₂ R l l')
    (hg : ∀ a b, R a b → g' b = g a) : l'.flatMap g' = l.flatMap g := by
  rw [List.flatMap_def, List.flatMap_def, map_eq_of_pairs h hg]

theorem findSome?_eq_of_pairs {g : α → Option γ} {g' : β → Option γ} (h : List.Forall₂ R l l')
    (hg : ∀ a b, R a b → g' b = g a) : l'.findSome? g' = l.findSome? g := by
  have hfind := congrArg (fun os => os.findSome? id) (map_eq_of_pairs h hg)
  simpa only [List.findSome?_map, Function.id_comp] using hfind

theorem forall₂_zipIdx (h : List.Forall₂ R l l') (k : Nat) :
    List.Forall₂ (fun a b => R a.1 b.1 ∧ a.2 = b.2) (l.zipIdx k) (l'.zipIdx k) := by
  induction h generalizing k with
  | nil => exact .nil
  | cons hab _ ih => exact .cons ⟨hab, rfl⟩ (ih (k + 1))

/-- At every place stands a pair, or nothing. -/
theorem rel_getElem? (h : List.Forall₂ R l l') (i : Nat) : Option.Rel R l[i]? l'[i]? := by
  induction h generalizing i with
  | nil => exact .none
  | cons hab _ ih =>
    cases i with
    | zero => exact .some hab
    | succ i => exact ih i

end Pairs

namespace SameOutcome

variable {γ δ : Type}

theorem bind {R : α → β → Prop} {S : γ → δ → Prop} {x : Except Failure α} {y : Except Failure β}
    {f : α → Except Failure γ} {g : β → Except Failure δ} (h : SameOutcome R x y)
    (hfg : ∀ a b, R a b → SameOutcome S (f a) (g b)) : SameOutcome S (x >>= f) (y >>= g) := by
  cases h with
  | error e => exact .error e
  | ok hab => exact hfg _ _ hab

/-- Runs through a list that go alike step by step come to related lists. -/
theorem mapM {R : β → γ → Prop} {g : α → Except Failure β} {g' : α → Except Failure γ} (l : List α)
    (h : ∀ a, SameOutcome R (g a) (g' a)) :
    SameOutcome (List.Forall₂ R) (l.mapM g) (l.mapM g') := by
  induction l with
  | nil => exact .ok .nil
  | cons a l ih =>
    rw [List.mapM_cons, List.mapM_cons]
    exact (h a).bind fun _ _ hab => ih.bind fun _ _ hrest => .ok (.cons hab hrest)

end SameOutcome

/-- The transform fails on every value and reads no fields. -/
structure Transform.IsFutile (t : Transform) : Prop where
  references : t.references = []
  fails : ∀ v b, ∃ e, t.run v b = .error e

/-- The filter fails on every value and reads no fields. -/
structure ValueFilter.IsFutile (f : ValueFilter) : Prop where
  references : f.references = []
  fails : ∀ v b, ∃ e, f.excludes v b = .error e

namespace Locator

/-- Futile transforms and filters are inserted into a locator. -/
inductive Padded (l : Locator) : Locator → Prop
  | intro {transforms : List Transform} {filters : List ValueFilter} :
    Intake.Padded Transform.IsFutile l.transforms transforms →
      Intake.Padded ValueFilter.IsFutile l.filters filters →
        Padded l { l with transforms, filters }

variable {l l' : Locator}

theorem Padded.pointsAlike (h : l.Padded l') : l.PointsAlike l' := by
  obtain ⟨-, -⟩ := h
  exact ⟨rfl, rfl, rfl, rfl, rfl, rfl, rfl⟩

theorem Padded.isRequired_eq (h : l.Padded l') (default : Bool) :
    l'.isRequired default = l.isRequired default := by
  obtain ⟨-, -⟩ := h
  rfl

theorem Padded.transforms (h : l.Padded l') :
    Intake.Padded Transform.IsFutile l.transforms l'.transforms := by
  obtain ⟨htransforms, -⟩ := h
  exact htransforms

theorem Padded.filters (h : l.Padded l') :
    Intake.Padded ValueFilter.IsFutile l.filters l'.filters := by
  obtain ⟨-, hfilters⟩ := h
  exact hfilters

/-- Futile steps read no fields. -/
theorem Padded.references_eq (h : l.Padded l') : l'.references = l.references := by
  unfold references ownReferences
  rw [h.pointsAlike.kind, h.pointsAlike.location,
    h.transforms.flatMap_eq fun _ ht => ht.references,
    h.filters.flatMap_eq fun _ hf => hf.references]

theorem Padded.filled (h : l.Padded l') (lookup : String → Option String) :
    (l.filled lookup).Padded (l'.filled lookup) := by
  obtain ⟨htransforms, hfilters⟩ := h
  exact .intro (l := l.filled lookup) htransforms hfilters

end Locator

namespace Context

variable {ctx : Context} {l l' : Locator}

/-- What one transform makes of a value, or the value if it fails. -/
def stepped (ctx : Context) (v : Option Value) (t : Transform) : Option Value :=
  match t.run v ctx.bindings with
  | .ok next => next
  | .error _ => v

theorem value_transformed (ctx : Context) (l : Locator) (phase : Phase) (v : Option Value) :
    (ctx.transformed l phase v).value = (l.transformsOf phase).foldl ctx.stepped v := by
  unfold transformed
  induction l.transformsOf phase generalizing v with
  | nil => rfl
  | cons t rest ih =>
    rw [List.foldlM_cons, Noted.value_bind, List.foldl_cons, ih]
    congr 1
    unfold stepped
    cases t.run v ctx.bindings with
    | ok next => rfl
    | error e => rfl

/-- Futile transforms leave a value to the other ones. -/
theorem transformed_padded (ctx : Context) (h : l.Padded l') (phase : Phase) (v : Option Value) :
    (ctx.transformed l' phase v).value = (ctx.transformed l phase v).value := by
  rw [value_transformed, value_transformed]
  refine (h.transforms.filter _).foldl_eq ?_ v
  intro t ht v
  obtain ⟨e, he⟩ := ht.fails v ctx.bindings
  unfold stepped
  rw [he]

/-- Futile filters leave the verdict to the other ones. -/
theorem excludes_padded (ctx : Context) {fs fs' : List ValueFilter}
    (h : Padded ValueFilter.IsFutile fs fs') (v : Option Value) :
    (ctx.excludes fs' v).value = (ctx.excludes fs v).value := by
  induction h with
  | nil => rfl
  | @keep f _ _ _ ih =>
    rw [excludes, excludes]
    rcases f.excludes v ctx.bindings with e | _ | _
    · exact ih
    · exact ih
    · rfl
  | @insert f _ _ hf _ ih =>
    obtain ⟨e, he⟩ := hf.fails v ctx.bindings
    rw [excludes, he]
    exact ih

/-- **A locator finds the same without its futile steps.** -/
theorem resolve_padded (ctx : Context) (h : l.Padded l') :
    (ctx.resolve l').value = (ctx.resolve l).value := by
  have halike := h.pointsAlike
  unfold resolve
  simp only [Resolving.value_bind, Resolving.value_noted, Resolving.value_except,
    halike.lookup_eq, halike.withoutBlank_eq, halike.formatted_eq, transformed_padded ctx h,
    excludes_padded ctx h.filters]

end Context

namespace Field

/-- Futile steps are inserted into the locators of a field, both those for its value and those for
its placeholders. -/
inductive Padded (f : Field) : Field → Prop
  | intro {locators : List Locator} {nameLocators : Keyed Locator} :
    List.Forall₂ Locator.Padded f.locators locators →
      List.Forall₂ (fun e e' => e.1 = e'.1 ∧ e.2.Padded e'.2) f.nameLocators nameLocators →
        Padded f { f with locators, nameLocators }

variable {f f' : Field}

theorem Padded.locators (h : f.Padded f') : List.Forall₂ Locator.Padded f.locators f'.locators := by
  obtain ⟨hlocators, -⟩ := h
  exact hlocators

theorem Padded.nameLocators (h : f.Padded f') :
    List.Forall₂ (fun e e' => e.1 = e'.1 ∧ e.2.Padded e'.2) f.nameLocators f'.nameLocators := by
  obtain ⟨-, hnames⟩ := h
  exact hnames

theorem Padded.name_eq (h : f.Padded f') : f'.name = f.name := by
  obtain ⟨-, -⟩ := h
  rfl

theorem Padded.requiredDefault_eq (h : f.Padded f') : f'.requiredDefault = f.requiredDefault := by
  obtain ⟨-, -⟩ := h
  rfl

theorem Padded.isSplit_eq (h : f.Padded f') : f'.isSplit = f.isSplit := by
  obtain ⟨-, -⟩ := h
  rfl

theorem Padded.isDynamic_eq (h : f.Padded f') : f'.isDynamic = f.isDynamic := by
  have hnone : f'.nameLocators.isEmpty = f.nameLocators.isEmpty := by
    have hnames := h.nameLocators
    generalize f.nameLocators = entries at hnames ⊢
    generalize f'.nameLocators = entries' at hnames ⊢
    cases hnames with
    | nil => rfl
    | cons _ _ => rfl
  unfold isDynamic
  rw [hnone, h.name_eq]

theorem Padded.named (h : f.Padded f') (name : String) :
    Padded { f with name } { f' with name } := by
  obtain ⟨hlocators, hnames⟩ := h
  exact .intro (f := { f with name }) hlocators hnames

end Field

variable {f f' : Field}

/-- Runs through lists come to the same if their steps do, pair by pair. -/
theorem Resolving.value_mapM_congr {R : α → α → Prop} {g g' : α → Resolving β} {l l' : List α}
    (h : List.Forall₂ R l l') (hg : ∀ a a', R a a' → (g' a').value = (g a).value) :
    (l'.mapM g').value = (l.mapM g).value := by
  induction h with
  | nil => rfl
  | cons ha _ ih =>
    rw [List.mapM_cons, List.mapM_cons]
    simp only [Resolving.value_bind, hg _ _ ha, ih]

namespace Context

variable {ctx : Context}

theorem resolveFor_padded {l l' : Locator} (h : f.Padded f') (hl : l.Padded l') :
    (ctx.resolveFor f' l').value = (ctx.resolveFor f l).value := by
  unfold resolveFor Field.requires
  rw [h.name_eq, h.requiredDefault_eq, hl.pointsAlike.location, Resolving.value_bind,
    Resolving.value_bind, ctx.resolve_padded hl]
  simp only [hl.isRequired_eq]

/-- **A field comes to the same value without its futile steps**, or fails in the same way. -/
theorem resolveField_padded (h : f.Padded f') :
    (ctx.resolveField f').value = (ctx.resolveField f).value := by
  unfold resolveField
  rw [Resolving.value_bind, Resolving.value_bind]
  congr 1
  exact Resolving.value_mapM_congr h.locators fun _ _ hl => resolveFor_padded h hl

theorem placeholderValues_padded (h : f.Padded f') :
    (ctx.placeholderValues f').value = (ctx.placeholderValues f).value := by
  have hnames := h.nameLocators
  unfold placeholderValues
  generalize ([] : Keyed Value) = acc
  generalize f.nameLocators = entries at hnames ⊢
  generalize f'.nameLocators = entries' at hnames ⊢
  induction hnames generalizing acc with
  | nil => rfl
  | @cons e e' _ _ he _ ih =>
    obtain ⟨id, l⟩ := e
    obtain ⟨id', l'⟩ := e'
    obtain ⟨rfl, hl⟩ := he
    rw [List.foldlM_cons, List.foldlM_cons]
    simp only [Resolving.value_bind, ctx.resolve_padded hl]
    congr 1
    funext next
    exact ih next

end Context

namespace Field

theorem normalize_padded {l l' : Locator} (h : f.Padded f') (hl : l.Padded l') (v : Value) :
    f'.normalize l' v = f.normalize l v := by
  unfold normalize
  rw [hl.pointsAlike.units]
  obtain ⟨-, -⟩ := h
  rfl

theorem partText_padded {l l' : Locator} (hl : l.Padded l') (v : Value) :
    partText l' v = partText l v := by
  unfold partText
  rw [hl.pointsAlike.timeFormat_eq]

/-- The locator of the value at a place among several ones. -/
def located (f : Field) (first : Locator) (i : Nat) : Locator :=
  (f.locators[i]?).getD first

/-- Several values in the forms in which the field keeps them, with their locators. -/
def placed (f : Field) (first : Locator) (items : List Value) :
    Except Failure (List (Locator × Value)) :=
  items.zipIdx.mapM fun (v, i) =>
    (f.normalize (f.located first i) v).map fun v => (f.located first i, v)

/-- Several values, in the forms in which the field keeps them, as one. -/
def gathered (f : Field) (parts : List (Locator × Value)) : Except Failure Value :=
  if f.isCollection then .ok (.list (parts.map (·.2)))
  else (parts.mapM fun part => partText part.1 part.2).map fun texts =>
    .str (String.intercalate f.separator texts)

theorem joined_eq (f : Field) (first : Locator) (items : List Value) :
    f.joined first items = (do
      if f.isEnumeration then throw (f.failure "enumeration field resolved to multiple values")
      if 1 < f.locators.length && f.locators.length != items.length then
        throw (f.failure s!"{f.locators.length} locators produced {items.length} values")
      f.gathered (← f.placed first items)) := by
  unfold joined gathered
  cases f.isCollection with
  | true => rfl
  | false =>
    simp only [if_neg Bool.false_ne_true]
    rfl

theorem located_padded {first first' : Locator} (h : f.Padded f') (hfirst : first.Padded first')
    (i : Nat) : (f.located first i).Padded (f'.located first' i) := by
  have hplace := rel_getElem? h.locators i
  unfold located
  generalize f.locators[i]? = at_place at hplace ⊢
  generalize f'.locators[i]? = at_place' at hplace ⊢
  cases hplace with
  | some hl => exact hl
  | none => exact hfirst

theorem placed_padded {first first' : Locator} (h : f.Padded f') (hfirst : first.Padded first')
    (items : List Value) :
    SameOutcome (List.Forall₂ fun a b => a.1.Padded b.1 ∧ a.2 = b.2)
      (f.placed first items) (f'.placed first' items) := by
  refine .mapM _ ?_
  rintro ⟨v, i⟩
  have hl := located_padded h hfirst i
  simp only [normalize_padded h hl]
  cases f.normalize (f.located first i) v with
  | error e => exact .error e
  | ok v => exact .ok ⟨hl, rfl⟩

theorem gathered_padded {parts parts' : List (Locator × Value)} (h : f.Padded f')
    (hparts : List.Forall₂ (fun a b => a.1.Padded b.1 ∧ a.2 = b.2) parts parts') :
    f'.gathered parts' = f.gathered parts := by
  obtain ⟨-, -⟩ := h
  have hvalues : parts'.map (·.2) = parts.map (·.2) :=
    map_eq_of_pairs hparts fun _ _ hpart => hpart.2.symm
  have htexts : (parts'.mapM fun part => partText part.1 part.2) =
      parts.mapM fun part => partText part.1 part.2 := by
    refine mapM_eq_of_pairs hparts fun part part' hpart => ?_
    rw [partText_padded hpart.1, hpart.2]
  unfold gathered
  rw [hvalues, htexts]

/-- Several values are joined in the same way. -/
theorem joined_padded {first first' : Locator} (h : f.Padded f') (hfirst : first.Padded first')
    (items : List Value) : f'.joined first' items = f.joined first items := by
  have hgathered : f'.placed first' items >>= f'.gathered =
      f.placed first items >>= f.gathered := by
    have hplaced := placed_padded h hfirst items
    generalize f.placed first items = own at hplaced ⊢
    generalize f'.placed first' items = padded at hplaced ⊢
    cases hplaced with
    | error e => rfl
    | ok hparts => exact gathered_padded h hparts
  rw [joined_eq, joined_eq, h.locators.length_eq, hgathered]
  obtain ⟨-, -⟩ := h
  rfl

theorem settled_padded (h : f.Padded f') (v : Value) : f'.settled v = f.settled v := by
  have hjoined : ∀ {l l' : Locator}, l.Padded l' → ∀ items, f'.joined l' items = f.joined l items :=
    fun hl items => joined_padded h hl items
  have hnormalize : ∀ {l l' : Locator}, l.Padded l' → ∀ v, f'.normalize l' v = f.normalize l v :=
    fun hl v => normalize_padded h hl v
  have hlocators := h.locators
  unfold settled
  generalize f.locators = locators at hlocators ⊢
  generalize f'.locators = locators' at hlocators ⊢
  cases hlocators with
  | nil => cases v <;> rfl
  | cons hl hrest =>
    cases v with
    | list items => exact hjoined hl items
    | _ =>
      cases hrest with
      | nil => exact hnormalize hl _
      | cons _ _ => rfl

end Field

/-- **A record takes the value of a field in the same way**, whatever futile steps the field has. -/
theorem Record.apply_padded (r : Record) (h : f.Padded f') (v : Value) :
    r.apply f' v = r.apply f v := by
  unfold apply
  have hformat : f'.locators.head?.map Locator.timeFormat =
      f.locators.head?.map Locator.timeFormat := by
    rw [← List.head?_map, ← List.head?_map,
      map_eq_of_pairs h.locators fun _ _ hl => hl.pointsAlike.timeFormat_eq]
  rw [Field.settled_padded h, h.name_eq, hformat]

namespace Context

variable {ctx : Context}

/-- The field for an element has the futile steps of its field. -/
theorem forElement_padded (h : f.Padded f') (values : Keyed Value) (index : Nat) (key : String) :
    (f.forElement values index key).Padded (f'.forElement values index key) := by
  obtain ⟨hlocators, -⟩ := h
  refine .intro (f := f.forElement values index key) ?_ ?_
  · exact List.forall₂_map_left_iff.2 (List.forall₂_map_right_iff.2
      (hlocators.imp fun _ _ hl => hl.filled _))
  · exact List.forall₂_nil_left_iff.2 rfl

theorem elementFields_padded (h : f.Padded f') (values : Keyed Value) (index : Nat)
    (naming : Naming) (elements : List (String × Value)) :
    List.Forall₂ (fun e e' => e.1.Padded e'.1 ∧ e.2 = e'.2)
      (elementFields f values index naming elements)
      (elementFields f' values index naming elements) := by
  induction elements generalizing index naming with
  | nil => exact .nil
  | cons element rest ih =>
    obtain ⟨key, v⟩ := element
    have hown := forElement_padded h values index key
    rw [elementFields, elementFields, hown.name_eq]
    exact .cons ⟨hown.named _, rfl⟩ (ih _ _)

theorem elementFilters_padded (h : f.Padded f') :
    Intake.Padded ValueFilter.IsFutile (elementFilters f) (elementFilters f') := by
  have hlocators := h.locators
  unfold elementFilters
  generalize f.locators = locators at hlocators ⊢
  generalize f'.locators = locators' at hlocators ⊢
  cases hlocators with
  | nil => exact .nil
  | cons hl _ => exact hl.filters

theorem applyElements_padded {elements elements' : List (Field × Value)}
    (h : List.Forall₂ (fun e e' => e.1.Padded e'.1 ∧ e.2 = e'.2) elements elements') :
    (ctx.applyElements elements').value = (ctx.applyElements elements).value := by
  induction h generalizing ctx with
  | nil => rfl
  | @cons e e' _ _ he _ ih =>
    obtain ⟨f, v⟩ := e
    obtain ⟨f', v'⟩ := e'
    obtain ⟨hf, rfl⟩ := he
    rw [applyElements, applyElements, hf.name_eq]
    simp only [Resolving.value_bind, Resolving.value_noted,
      excludes_padded _ (elementFilters_padded hf), ctx.record.apply_padded hf]
    congr 1
    funext excluded
    -- An element that is excluded leaves the record as it was: the rest starts from the same one.
    cases excluded with
    | true => exact ih
    | false =>
      rw [if_neg Bool.false_ne_true, if_neg Bool.false_ne_true, Resolving.value_bind,
        Resolving.value_bind]
      congr 1
      funext record
      exact ih

/-- **A value is spread over fields in the same way**, whatever futile steps its field has. -/
theorem spread_padded (h : f.Padded f') (v : Value) :
    (ctx.spread f' v).value = (ctx.spread f v).value := by
  unfold spread
  rw [Resolving.value_bind, Resolving.value_bind, placeholderValues_padded h]
  congr 1
  funext values
  exact applyElements_padded (elementFields_padded h values 0 {} v.elements)

end Context

end Intake
