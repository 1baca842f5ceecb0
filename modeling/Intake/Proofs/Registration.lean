import Intake.Proofs.References

/-!
# Accepting fields

When a list of fields passes the checks that come before their arrangement.

* `checkFields_ok_iff`: each field has to be acceptable by itself, and one that gathers no values
  must not stand after another field of its name.
* `checkFields_of_perm`: fields that were accepted in one order are accepted in every order in
  which none that gathers no values stands after another one of its name.
-/

namespace Intake

namespace Resolver

/-- The resolvers differ at most in whether successive matches are collected. -/
def Alike : Resolver → Resolver → Prop
  | regex pattern whole _, regex pattern' whole' _ => pattern = pattern' ∧ whole = whole'
  | json, json => True
  | map, map => True
  | custom own, custom own' => own = own'
  | _, _ => False

theorem Alike.refl (r : Resolver) : r.Alike r := by
  cases r <;> simp [Alike]

theorem Alike.symm {r r' : Resolver} (h : r.Alike r') : r'.Alike r := by
  cases r <;> cases r' <;> simp_all [Alike]

theorem Alike.unsupported_eq {r r' : Resolver} (h : r.Alike r') :
    r.unsupported = r'.unsupported := by
  cases r <;> cases r' <;> simp_all [Alike, unsupported]

/-- Locators that count matches and locators that mean groups are not mixed, or the resolver from
outside has nothing against the field. -/
def Unmixed : Resolver → Field → Prop
  | regex _ _ _, f => ¬ (f.locators.any countsMatches = true ∧ f.locators.any meansGroup = true)
  | custom own, f => own.objection? f.bare = none
  | _, _ => True

theorem Alike.unmixed_iff {r r' : Resolver} (h : r.Alike r') (f : Field) :
    r.Unmixed f ↔ r'.Unmixed f := by
  cases r <;> cases r' <;> simp_all [Alike, Unmixed]

theorem accept_alike {r r' : Resolver} {f : Field} (h : r.accept f = .ok r') : r.Alike r' := by
  cases r with
  | json => exact Except.ok.inj h ▸ Alike.refl _
  | map => exact Except.ok.inj h ▸ Alike.refl _
  | regex pattern whole collects =>
    rw [accept] at h
    split at h
    · cases h
    · exact Except.ok.inj h ▸ ⟨rfl, rfl⟩
  | custom own =>
    rw [accept] at h
    split at h
    · cases h
    · exact Except.ok.inj h ▸ Alike.refl _

theorem accept_ok_iff {r : Resolver} {f : Field} : (∃ r', r.accept f = .ok r') ↔ r.Unmixed f := by
  cases r with
  | json => exact ⟨fun _ => trivial, fun _ => ⟨_, rfl⟩⟩
  | map => exact ⟨fun _ => trivial, fun _ => ⟨_, rfl⟩⟩
  | regex pattern whole collects =>
    rw [accept, Unmixed, ← Bool.and_eq_true]
    split
    · next h => exact ⟨fun ⟨_, h'⟩ => (nomatch h'), fun h' => absurd h h'⟩
    · next h => exact ⟨fun _ => h, fun _ => ⟨_, rfl⟩⟩
  | custom own =>
    rw [accept, Unmixed]
    cases own.objection? f.bare with
    | none => exact ⟨fun _ => rfl, fun _ => ⟨_, rfl⟩⟩
    | some reason => exact ⟨fun ⟨_, h'⟩ => (nomatch h'), fun h' => (nomatch h')⟩

end Resolver

namespace Blueprint

/-- A field that a resolver accepts, whatever other fields there are. -/
structure Acceptable (r : Resolver) (f : Field) : Prop where
  supported : ∀ l ∈ f.allLocators, l.kind ∉ r.unsupported
  single : f.isEnumeration = true → f.locators.length ≤ 1
  unmixed : r.Unmixed f

theorem Acceptable.of_alike {r r' : Resolver} {f : Field} (h : Acceptable r f)
    (halike : r.Alike r') : Acceptable r' f :=
  ⟨halike.unsupported_eq ▸ h.supported, h.single, (halike.unmixed_iff f).1 h.unmixed⟩

/-- The second field may stand after the first. -/
def MayFollow (g f : Field) : Prop := f.isCollection = false → g.name ≠ f.name

/-- The checks on one field, one after the other. -/
theorem checkField_eq (r : Resolver) (before : List Field) (f : Field) :
    checkField r before f =
      match (f.allLocators.map (·.kind)).find? (· ∈ r.unsupported) with
      | some kind => .error (.unsupportedLocator f.name kind.name)
      | none =>
        if !f.isCollection && before.any (·.name == f.name) then .error (.duplicateField f.name)
        else if f.isEnumeration && 1 < f.locators.length then
          .error (.conflictingMapping f.name "enumeration field must have a single locator")
        else r.accept f := by
  unfold checkField
  cases (f.allLocators.map (·.kind)).find? (· ∈ r.unsupported) with
  | some kind => rfl
  | none =>
    by_cases hdup : (!f.isCollection && before.any (·.name == f.name)) = true
    · simp only [hdup]
      rfl
    · by_cases hmulti : (f.isEnumeration && decide (1 < f.locators.length)) = true
      · simp only [hdup, hmulti]
        rfl
      · simp only [hdup, hmulti]
        rfl

theorem mayFollow_iff {before : List Field} {f : Field} :
    ¬ (!f.isCollection && before.any (·.name == f.name)) = true ↔ ∀ g ∈ before, MayFollow g f := by
  unfold MayFollow
  cases f.isCollection <;> simp

/-- One field passes exactly if it is acceptable and may follow all fields before it. -/
theorem checkField_ok_iff {r r' : Resolver} {before : List Field} {f : Field} :
    checkField r before f = .ok r' ↔
      Acceptable r f ∧ (∀ g ∈ before, MayFollow g f) ∧ r.accept f = .ok r' := by
  -- the three checks, each of which refuses on its own
  rw [checkField_eq]
  constructor
  · intro h
    split at h
    · cases h
    next hkinds =>
    split at h
    · cases h
    next hdup =>
    split at h
    · cases h
    next hmulti =>
    refine ⟨⟨?_, ?_, Resolver.accept_ok_iff.1 ⟨r', h⟩⟩, mayFollow_iff.1 hdup, h⟩
    · simpa using hkinds
    · simpa using hmulti
  · rintro ⟨⟨hkinds, hsingle, -⟩, hdup, h⟩
    have hnone : (f.allLocators.map (·.kind)).find? (· ∈ r.unsupported) = none := by
      simpa using hkinds
    have hmulti : ¬ (f.isEnumeration && decide (1 < f.locators.length)) = true := by
      simpa using hsingle
    rw [hnone]
    dsimp only
    rw [if_neg (mayFollow_iff.2 hdup), if_neg hmulti, h]

/-- **A list of fields passes** exactly if each is acceptable and may follow those before it. -/
theorem checkFields_ok_iff {r : Resolver} {before fs : List Field} :
    (∃ r', checkFields r before fs = .ok r') ↔
      (∀ f ∈ fs, Acceptable r f) ∧ (∀ g ∈ before, ∀ f ∈ fs, MayFollow g f) ∧
        fs.Pairwise MayFollow := by
  induction fs generalizing r before with
  | nil => simp [checkFields]
  | cons f rest ih =>
    -- each field is checked by the resolver that accepting those before it has left
    have hcons : (∃ r', checkFields r before (f :: rest) = .ok r') ↔
        ∃ r₁, checkField r before f = .ok r₁ ∧
          ∃ r', checkFields r₁ (before ++ [f]) rest = .ok r' := by
      rw [checkFields]
      constructor
      · rintro ⟨r', h⟩
        obtain ⟨r₁, hr₁, hrest⟩ := bind_eq_ok.1 h
        exact ⟨r₁, hr₁, r', hrest⟩
      · rintro ⟨r₁, hr₁, r', hrest⟩
        exact ⟨r', bind_eq_ok.2 ⟨r₁, hr₁, hrest⟩⟩
    rw [hcons]
    constructor
    · rintro ⟨r₁, hr₁, hrest⟩
      obtain ⟨hf, hbefore, haccept⟩ := checkField_ok_iff.1 hr₁
      obtain ⟨hall, hfollow, hpair⟩ := ih.1 hrest
      have halike := Resolver.accept_alike haccept
      refine ⟨?_, ?_, List.pairwise_cons.2 ⟨fun g hg => hfollow f (by simp) g hg, hpair⟩⟩
      · intro g hg
        rcases List.mem_cons.1 hg with rfl | hg
        · exact hf
        · exact (hall g hg).of_alike halike.symm
      · intro g hg h hh
        rcases List.mem_cons.1 hh with rfl | hh
        · exact hbefore g hg
        · exact hfollow g (List.mem_append_left _ hg) h hh
    · rintro ⟨hall, hfollow, hpair⟩
      obtain ⟨hf, hpair⟩ := List.pairwise_cons.1 hpair
      have hok := hall f List.mem_cons_self
      obtain ⟨r₁, hr₁⟩ := Resolver.accept_ok_iff.2 hok.unmixed
      refine ⟨r₁, checkField_ok_iff.2 ⟨hok, fun g hg => hfollow g hg f List.mem_cons_self, hr₁⟩, ?_⟩
      refine ih.2 ⟨?_, ?_, hpair⟩
      · intro g hg
        exact (hall g (List.mem_cons_of_mem _ hg)).of_alike (Resolver.accept_alike hr₁)
      · intro g hg h hh
        rcases List.mem_append.1 hg with hg | hg
        · exact hfollow g hg h (List.mem_cons_of_mem _ hh)
        · obtain rfl := List.mem_singleton.1 hg
          exact hf h hh

/-- Fields that were accepted in one order are accepted in every order in which each may follow
those before it. -/
theorem checkFields_of_perm {r r' : Resolver} {fs fs' : List Field} (hperm : fs'.Perm fs)
    (hpair : fs'.Pairwise MayFollow) (h : checkFields r [] fs = .ok r') :
    ∃ r'', checkFields r [] fs' = .ok r'' := by
  obtain ⟨hall, -, -⟩ := checkFields_ok_iff.1 ⟨r', h⟩
  refine checkFields_ok_iff.2 ⟨fun f hf => hall f (hperm.mem_iff.1 hf), ?_, hpair⟩
  intro g hg
  exact absurd hg List.not_mem_nil

end Blueprint

end Intake
