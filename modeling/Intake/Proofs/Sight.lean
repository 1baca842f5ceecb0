import Intake.Proofs.Run
import Intake.Proofs.Template

/-!
# What a field sees

The references of a field are all that it reads of the record made so far.

* `Context.AgreeOn`: two contexts differ at most in what was kept between activities and in fields
  of the record that are not among some names.
* `Context.resolve_congr`: a locator without a look into the store finds the same in both, if its
  references are among the names.
* `Context.resolveField_congr`: **a field comes to the same in contexts that agree on its
  references**.
-/

namespace Intake

/-- Two views of the fields resolved so far agree on some names. -/
structure Bindings.AgreeOn (names : List String) (b b' : Bindings) : Prop where
  value : ∀ n ∈ names, b.value n = b'.value n
  field : b.field = b'.field
  property : b.property = b'.property

theorem Bindings.AgreeOn.mono {names names' : List String} {b b' : Bindings}
    (h : b.AgreeOn names b') (hsub : names' ⊆ names) : b.AgreeOn names' b' :=
  ⟨fun n hn => h.value n (hsub hn), h.field, h.property⟩

/-- A transform given from outside reads only the fields that it names. -/
def Transform.Honest : Transform → Prop
  | text _ _ => True
  | template _ => True
  | custom _ _ references run =>
    ∀ v b b', Bindings.AgreeOn references b b' → run v b = run v b'

/-- A filter given from outside reads only the fields that it names. -/
def ValueFilter.Honest : ValueFilter → Prop
  | condition _ _ _ => True
  | custom _ references run => ∀ v b b', Bindings.AgreeOn references b b' → run v b = run v b'

/-- The transforms and filters of a locator read only the fields that they name. -/
structure Locator.Honest (l : Locator) : Prop where
  transforms : ∀ t ∈ l.transforms, t.Honest
  filters : ∀ f ∈ l.filters, f.Honest

/-- Two contexts agree on all but the values kept between activities and on the fields of the
record that are not among some names. -/
structure Context.AgreeOn (names : List String) (a b : Context) : Prop where
  record : ∀ n ∈ names, a.record.get? n = b.record.get? n
  host : a.host = b.host
  profile : a.profile = b.profile
  source : a.source = b.source
  raw : a.raw = b.raw
  data : a.data = b.data
  metadata : a.metadata = b.metadata
  field : a.field = b.field
  outer : a.outer = b.outer

section Parts

variable {names : List String} {b b' : Bindings}

/-- A transform sees of the fields only its references, and the empty name. -/
theorem Transform.run_congr {t : Transform} (ht : t.Honest) (hempty : "" ∈ names)
    (hsub : t.references ⊆ names) (h : b.AgreeOn names b') (v : Option Value) :
    t.run v b = t.run v b' := by
  cases t with
  | text change phase => rfl
  | template template =>
    -- The template looks up its placeholders and, where one has no name, the empty name.
    have hfill : ∀ n, n = "" ∨ n ∈ Template.vars template →
        (if n = currentName then v.map Value.text else (b.value n).map Value.text) =
          if n = currentName then v.map Value.text else (b'.value n).map Value.text := by
      intro n hn
      by_cases hcurrent : n = currentName
      · rw [if_pos hcurrent, if_pos hcurrent]
      · rw [if_neg hcurrent, if_neg hcurrent]
        have hmem : n ∈ names := by
          rcases hn with rfl | hn
          · exact hempty
          · exact hsub (List.mem_filter.2 ⟨hn, by simpa using hcurrent⟩)
        rw [h.value n hmem]
    simp only [run]
    rw [Template.fill_congr (hfill "" (.inl rfl)) fun n hn => hfill n (.inr hn)]
  | custom name phase references run =>
    simp only [Transform.run]
    rw [ht v b b' (h.mono hsub)]

/-- A filter sees of the fields only its references. -/
theorem ValueFilter.excludes_congr {f : ValueFilter} (hf : f.Honest) (hsub : f.references ⊆ names)
    (h : b.AgreeOn names b') (v : Option Value) : f.excludes v b = f.excludes v b' := by
  cases f with
  | condition name handling c => rfl
  | custom name references run =>
    simp only [ValueFilter.excludes]
    rw [hf v b b' (h.mono hsub)]

end Parts

theorem Field.mem_distinct {names : List String} {n : String} :
    n ∈ distinct names ↔ n ∈ names := by
  have hfold : ∀ acc, n ∈ names.foldl (fun acc n => if n ∈ acc then acc else acc ++ [n]) acc ↔
      n ∈ acc ∨ n ∈ names := by
    induction names with
    | nil => simp
    | cons m names ih =>
      intro acc
      rw [List.foldl_cons, ih, List.mem_cons]
      by_cases hm : m ∈ acc
      · rw [if_pos hm]
        constructor
        · rintro (h | h)
          · exact .inl h
          · exact .inr (.inr h)
        · rintro (h | rfl | h)
          · exact .inl h
          · exact .inl hm
          · exact .inr h
      · rw [if_neg hm, List.mem_append, List.mem_singleton, or_assoc]
  unfold distinct
  rw [hfold]
  simp

/-- The references of the locators that make the value are references of the field. -/
theorem Field.references_subset {f : Field} {l : Locator} (h : l ∈ f.locators) :
    l.references ⊆ f.references := by
  intro n hn
  have hall : l ∈ f.allLocators := List.mem_append_left _ h
  exact mem_distinct.2 (List.mem_flatMap.2 ⟨l, hall, hn⟩)

namespace Context

variable {names : List String} {a b : Context} {l : Locator}

/-- A name that does not point outwards stays as it is. -/
theorem outward_eq_self {cs : List Char} (h : (outward cs).1 = 0) : (outward cs).2 = cs := by
  unfold outward at h ⊢
  split
  · next rest =>
    simp only at h
    omega
  · rfl

theorem AgreeOn.bindings (h : a.AgreeOn names b) : a.bindings.AgreeOn names b.bindings := by
  refine ⟨h.record, h.field, ?_⟩
  unfold Context.bindings
  rw [h.profile]

/-- A field of a name that both know has the same value; those further out are the same anyway. -/
theorem fieldValue?_congr (h : a.AgreeOn names b) {name : String} (hname : name ∈ names) :
    a.fieldValue? name = b.fieldValue? name := by
  unfold fieldValue?
  cases hdepth : (outward name.toList).1 with
  | zero =>
    -- a name without a mark is looked up as it stands among the references
    have hown : String.ofList (outward name.toList).2 = name := by
      rw [outward_eq_self hdepth, String.ofList_toList]
    simp only [hdepth, hown]
    exact h.record name hname
  | succ depth =>
    simp only [hdepth, List.getElem?_cons_succ, h.outer]

theorem expressionValue_congr (h : a.AgreeOn names b) {template : String} (hempty : "" ∈ names)
    (hvars : Template.vars template ⊆ names) :
    a.expressionValue template = b.expressionValue template := by
  have hfill : Template.fill template (fun name => (a.fieldValue? name).map Value.text) =
      Template.fill template fun name => (b.fieldValue? name).map Value.text := by
    apply Template.fill_congr
    · rw [fieldValue?_congr h hempty]
    · intro n hn
      rw [fieldValue?_congr h (hvars hn)]
  unfold expressionValue
  rw [hfill]
  cases hsole : Template.soleVar? template with
  | none => rfl
  | some name =>
    have hname : name ∈ names := by
      apply hvars
      rw [Template.vars_of_soleVar? hsole]
      exact List.mem_singleton_self name
    rw [Option.bind_some, Option.bind_some, fieldValue?_congr h hname]

/-- The places that locators name look the same, but for the values kept between activities. -/
theorem namedValue_congr (h : a.AgreeOn names b) (hkind : l.kind ≠ .cache) (hempty : "" ∈ names)
    (hsub : l.ownReferences ⊆ names) : a.namedValue l = b.namedValue l := by
  unfold Locator.ownReferences at hsub
  unfold namedValue
  cases hl : l.kind with
  | cache => exact absurd hl hkind
  | activity =>
    simp only [hl] at hsub ⊢
    rw [fieldValue?_congr h (hsub (List.mem_singleton_self _))]
  | expression =>
    simp only [hl] at hsub ⊢
    rw [expressionValue_congr h hempty hsub]
  | streamProp => simp only [h.source]
  | parserProp => simp only [h.profile]
  | systemProp | envVariable => simp only [h.host]
  | label | index | regexGroupNum | regexMatchNum | regexGroupName | data | metadata =>
    simp only [h.profile, h.data]

theorem lookup_congr (h : a.AgreeOn names b) (hkind : l.kind ≠ .cache) (hempty : "" ∈ names)
    (hsub : l.ownReferences ⊆ names) : a.lookup l = b.lookup l := by
  unfold lookup
  rw [h.raw, h.profile, namedValue_congr h hkind hempty hsub]
  unfold metadataValue?
  rw [h.metadata, h.profile]

theorem transformed_congr (h : a.AgreeOn names b) (hempty : "" ∈ names)
    (hhonest : ∀ t ∈ l.transforms, t.Honest) (hsub : ∀ t ∈ l.transforms, t.references ⊆ names)
    (phase : Phase) (v : Option Value) : a.transformed l phase v = b.transformed l phase v := by
  have hmem : ∀ t ∈ l.transformsOf phase, t ∈ l.transforms := fun t ht => (List.mem_filter.1 ht).1
  unfold transformed
  rw [h.profile]
  generalize l.transformsOf phase = ts at hmem ⊢
  induction ts generalizing v with
  | nil => rfl
  | cons t rest ih =>
    -- one that fails keeps the value in both, so the rest starts from the same one
    have ht := hmem t List.mem_cons_self
    rw [List.foldlM_cons, List.foldlM_cons,
      Transform.run_congr (hhonest t ht) hempty (hsub t ht) h.bindings v]
    congr 1
    funext next
    exact ih next fun x hx => hmem x (List.mem_cons_of_mem _ hx)

theorem excludes_congr (h : a.AgreeOn names b) {filters : List ValueFilter}
    (hhonest : ∀ f ∈ filters, f.Honest) (hsub : ∀ f ∈ filters, f.references ⊆ names)
    (v : Option Value) : a.excludes filters v = b.excludes filters v := by
  induction filters with
  | nil => rfl
  | cons f rest ih =>
    have hrest := ih (fun x hx => hhonest x (List.mem_cons_of_mem _ hx))
      fun x hx => hsub x (List.mem_cons_of_mem _ hx)
    unfold excludes
    rw [ValueFilter.excludes_congr (hhonest f List.mem_cons_self) (hsub f List.mem_cons_self)
      h.bindings v, hrest, h.profile]

/-- A locator without a look into the store finds the same in contexts that agree on what it
reads. -/
theorem resolve_congr (h : a.AgreeOn names b) (hkind : l.kind ≠ .cache) (hhonest : l.Honest)
    (hempty : "" ∈ names) (hsub : l.references ⊆ names) : a.resolve l = b.resolve l := by
  have hown : l.ownReferences ⊆ names := fun n hn =>
    hsub (List.mem_append_left _ (List.mem_append_left _ hn))
  have htransforms : ∀ t ∈ l.transforms, t.references ⊆ names := fun t ht n hn =>
    hsub (List.mem_append_left _ (List.mem_append_right _ (List.mem_flatMap.2 ⟨t, ht, hn⟩)))
  have hfilters : ∀ f ∈ l.filters, f.references ⊆ names := fun f hf n hn =>
    hsub (List.mem_append_right _ (List.mem_flatMap.2 ⟨f, hf, hn⟩))
  unfold resolve
  rw [lookup_congr h hkind hempty hown]
  simp only [transformed_congr h hempty hhonest.transforms htransforms,
    excludes_congr h hhonest.filters hfilters]

/-- **A field comes to the same in contexts that agree on its references** and on the empty name:
to the same value, to none, or to the same failure, with the same readings. What was kept between
activities may differ, as long as no locator of the field looks there; transforms and filters given
from outside have to name the fields that they read. -/
theorem resolveField_congr {f : Field} (hkind : ∀ l ∈ f.locators, l.kind ≠ .cache)
    (hhonest : ∀ l ∈ f.locators, l.Honest) (h : a.AgreeOn ("" :: f.references) b) :
    a.resolveField f = b.resolveField f := by
  have hfor : ∀ l ∈ f.locators, a.resolveFor f l = b.resolveFor f l := by
    intro l hl
    unfold resolveFor
    rw [resolve_congr h (hkind l hl) (hhonest l hl) List.mem_cons_self
      (List.subset_cons_of_subset _ (Field.references_subset hl)), h.profile]
  unfold resolveField
  rw [mapM_congr hfor]

/-- A field that reads one field of the record, one of the record around it, and through a filter
given from outside a third one. -/
def greeting : Field where
  name := "Message"
  locators :=
    [{ kind := .expression
       location := "${User} at ${^.ServerName}"
       transforms := [.template "<${$value}>"]
       filters := [.custom "closed" ["Closed"] fun _ b => .ok (b.value "Closed").isSome] }]

/-- A context with a further field in the record, which `greeting` does not read. -/
def withMood (mood : String) : Context where
  host := { now := ⟨0⟩, env := fun _ => none }
  cache := default
  profile := ⟨"greeter", {}, .json⟩
  source := { name := "test" }
  raw := .text ""
  data := .json .null
  metadata := []
  record := .mk { properties := [("Mood", .str mood), ("User", .str "ann")] } []
  field := some "Message"
  outer := [.mk { serverName := some "home" } []]

theorem greeting_unmoved :
    (withMood "glad").record.get? "Mood" = some (.str "glad") ∧
      (withMood "sad").record.get? "Mood" = some (.str "sad") ∧
      (withMood "glad").resolveField greeting = (withMood "sad").resolveField greeting := by
  refine ⟨rfl, rfl, resolveField_congr (by decide) ?_ ?_⟩
  · intro l hl
    obtain rfl := List.mem_singleton.1 hl
    refine ⟨?_, ?_⟩
    · intro t ht
      obtain rfl := List.mem_singleton.1 ht
      trivial
    · intro f hf
      obtain rfl := List.mem_singleton.1 hf
      intro v b b' h
      simp only [h.value "Closed" (List.mem_singleton_self _)]
  · have hnames : greeting.references = ["User", "^.ServerName", "Closed"] := by decide +kernel
    rw [hnames]
    refine ⟨?_, rfl, rfl, rfl, rfl, rfl, rfl, rfl, rfl⟩
    intro n hn
    simp only [List.mem_cons, List.not_mem_nil, or_false] at hn
    rcases hn with rfl | rfl | rfl | rfl <;> rfl

end Context

end Intake
