import Intake.Proofs.Filling

/-!
# Successive matches

The successive matches of a regular expression are read by the locators that count them, and by
nothing else.

* `Resolver.locate_collecting`: what a locator finds among other matches, if it does not count them.
* `Resolver.prepare_collecting`: an item is made ready in the same way, whether or not matches are
  collected, but for the matches.
* `Context.resolveField_collecting`, `Context.spread_collecting`: what becomes of a field that does
  not count matches does not depend on them.
-/

namespace Intake

/-- The field does not count matches, or none are given in place of those that it counts. -/
def Field.Heedless (hits? : Option (List String)) (f : Field) : Prop :=
  ∀ l ∈ f.allLocators, Resolver.countsMatches l = true → hits? = none

namespace Resolver

/-- The resolver that collects successive matches in any case. -/
def collecting : Resolver → Resolver
  | regex pattern whole _ => regex pattern whole true
  | r => r

/-- The item with other successive matches, if some are given and it is read by a regular
expression. -/
def withHits (r : Resolver) (hits? : Option (List String)) (data : Prepared) : Prepared :=
  match r, data with
  | regex _ _ _, .captures c => .captures { c with hits := hits?.getD c.hits }
  | _, data => data

@[simp] theorem withHits_none (r : Resolver) (data : Prepared) : r.withHits none data = data := by
  cases r <;> cases data <;> rfl

/-- If the field counts matches, the resolver collects them. -/
def Serves (r : Resolver) (f : Field) : Prop :=
  match r with
  | regex _ _ collects => f.allLocators.any countsMatches = true → collects = true
  | _ => True

theorem unsupported_collecting (r : Resolver) : r.collecting.unsupported = r.unsupported := by
  cases r <;> rfl

/-- The message of an item does not depend on successive matches. -/
theorem defaultMessage?_collecting (r : Resolver) (hits? : Option (List String))
    (data : Prepared) :
    r.collecting.defaultMessage? (r.withHits hits? data) = r.defaultMessage? data := by
  cases r <;> cases data <;> rfl

/-- Among what a regular expression found, only a locator that counts matches sees them. -/
theorem findInCaptures_withHits {hits : List String} {l : Locator} (h : countsMatches l = false)
    (c : Captures) : findInCaptures { c with hits } l = findInCaptures c l := by
  have hkind : l.kind ≠ .regexMatchNum := by simpa [countsMatches] using h
  unfold findInCaptures
  cases hk : l.kind with
  | regexMatchNum => exact absurd hk hkind
  | _ => rfl

/-- What a locator finds does not depend on matches that it does not count. -/
theorem locate_collecting (r : Resolver) {hits? : Option (List String)} {l : Locator}
    (h : countsMatches l = true → hits? = none) (data : Prepared) (delim : String) :
    r.collecting.locate (r.withHits hits? data) delim l = r.locate data delim l := by
  cases r with
  | json => cases data <;> rfl
  | map => cases data <;> rfl
  | custom own => cases data <;> rfl
  | regex pattern whole collects =>
    cases data with
    | json doc => rfl
    | map entries => rfl
    | text s => rfl
    | captures c =>
      -- Only captures can hold matches, and then this locator is not one that counts them.
      cases hits? with
      | none => rfl
      | some hits =>
        have hcounts : countsMatches l = false := by
          cases hl : countsMatches l with
          | false => rfl
          | true => cases h hl
        change ((findInCaptures { c with hits } l).map _).map _ = _
        rw [findInCaptures_withHits hcounts]
        rfl

/-- **An item is made ready in the same way by a resolver that always collects matches**, but for
matches that no field counts that the resolver serves. -/
theorem prepare_collecting {r : Resolver} {fs : List Field} (h : ∀ f ∈ fs, r.Serves f)
    (raw : RawData) :
    ∃ hits?, (∀ f ∈ fs, f.Heedless hits?) ∧
      r.collecting.prepare raw = (r.prepare raw).map (Option.map (r.withHits hits?)) := by
  have hsame (x : Except Failure (Option Prepared)) :
      x = x.map (Option.map (r.withHits none)) := by
    have hid : r.withHits none = id := funext r.withHits_none
    rw [hid, Option.map_id]
    cases x <;> rfl
  cases r with
  | json => exact ⟨none, fun _ _ _ _ _ => rfl, hsame _⟩
  | map => exact ⟨none, fun _ _ _ _ _ => rfl, hsame _⟩
  | custom own => exact ⟨none, fun _ _ _ _ _ => rfl, hsame _⟩
  | regex pattern whole collects =>
    cases collects with
    | true => exact ⟨none, fun _ _ _ _ _ => rfl, hsame _⟩
    | false =>
      -- no field counts matches, so those that are collected now may be any
      have hnone : ∀ f ∈ fs, ∀ hits?, f.Heedless hits? := by
        intro f hf hits? l hl hcounts
        exact absurd (h f hf (List.any_eq_true.2 ⟨l, hl, hcounts⟩)) Bool.false_ne_true
      cases hs : raw.characters? with
      | none =>
        refine ⟨none, fun f hf => hnone f hf none, ?_⟩
        simp only [collecting, prepare, hs]
        rfl
      | some s =>
        refine ⟨some (hitsOf pattern s.toList.toArray), fun f hf => hnone f hf _, ?_⟩
        simp only [collecting, prepare, hs, captures?]
        by_cases hempty : s.isEmpty = true
        · simp only [hempty]
          rfl
        · simp only [hempty]
          cases whole.matchFrom? s.toList.toArray 0 <;> rfl

end Resolver

/-- The profile with a resolver that always collects matches. -/
def Profile.collecting (p : Profile) : Profile :=
  { p with resolver := p.resolver.collecting }

namespace Context

/-- The context of a parser that always collects matches. -/
def collecting (hits? : Option (List String)) (ctx : Context) : Context :=
  { ctx with
    profile := ctx.profile.collecting
    data := ctx.profile.resolver.withHits hits? ctx.data }

variable (ctx : Context) {hits? : Option (List String)}

theorem lookup_collecting {l : Locator} (h : Resolver.countsMatches l = true → hits? = none) :
    (ctx.collecting hits?).lookup l = ctx.lookup l := by
  have hnamed : (ctx.collecting hits?).namedValue l = ctx.namedValue l := by
    have hlocate :=
      ctx.profile.resolver.locate_collecting h ctx.data ctx.profile.properties.pathDelim
    unfold namedValue
    cases l.kind with
    | streamProp | parserProp | systemProp | envVariable | cache | activity | expression => rfl
    | _ => exact congrArg (fun x => ExceptT.mk (pure x)) hlocate
  unfold lookup
  rw [hnamed]
  rfl

theorem excludes_collecting (hits? : Option (List String)) (filters : List ValueFilter) :
    (ctx.collecting hits?).excludes filters = ctx.excludes filters := by
  funext v
  induction filters with
  | nil => rfl
  | cons f rest ih =>
    unfold excludes
    rw [ih]
    rfl

theorem resolve_collecting {l : Locator} (h : Resolver.countsMatches l = true → hits? = none) :
    (ctx.collecting hits?).resolve l = ctx.resolve l := by
  have htransformed : (ctx.collecting hits?).transformed l = ctx.transformed l := rfl
  unfold resolve
  rw [lookup_collecting ctx h, htransformed, excludes_collecting]

variable {f : Field}

theorem resolveField_collecting (h : f.Heedless hits?) :
    (ctx.collecting hits?).resolveField f = ctx.resolveField f := by
  have hfor : ∀ l ∈ f.locators,
      (ctx.collecting hits?).resolveFor f l = ctx.resolveFor f l := by
    intro l hl
    unfold resolveFor
    rw [resolve_collecting ctx (h l (List.mem_append_left _ hl))]
    rfl
  unfold resolveField
  rw [mapM_congr hfor]

theorem placeholderValues_collecting (h : f.Heedless hits?) :
    (ctx.collecting hits?).placeholderValues f = ctx.placeholderValues f := by
  have hplaceholder : ∀ e ∈ f.nameLocators,
      (ctx.collecting hits?).resolve e.2 = ctx.resolve e.2 := by
    intro e he
    exact resolve_collecting ctx (h e.2 (List.mem_append_right _ (List.mem_map_of_mem he)))
  unfold placeholderValues
  generalize ([] : Keyed Value) = acc
  generalize f.nameLocators = entries at hplaceholder
  induction entries generalizing acc with
  | nil => rfl
  | cons e rest ih =>
    obtain ⟨id, l⟩ := e
    have hfirst : (ctx.collecting hits?).resolve l = ctx.resolve l :=
      hplaceholder (id, l) List.mem_cons_self
    rw [List.foldlM_cons, List.foldlM_cons]
    simp only [hfirst]
    congr 1
    funext acc'
    exact ih acc' fun e he => hplaceholder e (List.mem_cons_of_mem _ he)

theorem applyElements_collecting (hits? : Option (List String)) (elements : List (Field × Value)) :
    (ctx.collecting hits?).applyElements elements = ctx.applyElements elements := by
  induction elements generalizing ctx with
  | nil => rfl
  | cons e rest ih =>
    obtain ⟨f, v⟩ := e
    have hexcludes := congrFun
      (excludes_collecting (ctx.atField f.name) hits? (elementFilters f)) (some v)
    have hrest : ∀ record, applyElements { ctx.collecting hits? with record } rest =
        applyElements { ctx with record } rest := fun record => ih { ctx with record }
    rw [applyElements, applyElements]
    simp only [hrest]
    exact congrArg (fun x => liftM x >>= _) hexcludes

theorem spread_collecting (h : f.Heedless hits?) (v : Value) :
    (ctx.collecting hits?).spread f v = ctx.spread f v := by
  unfold spread
  simp only [placeholderValues_collecting ctx h, applyElements_collecting]

end Context

end Intake
