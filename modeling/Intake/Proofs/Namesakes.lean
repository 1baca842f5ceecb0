import Intake.Proofs.Precedence

/-!
# Fields of one name

A field that gathers values may take the name of any field before it, also of one that gathers
none; a field that gathers none needs a name of its own when it is declared. So the order in which
namesakes are declared matters, and only that.

* `checkFields_of_acceptable`: fields that are acceptable each by itself pass, or one that gathers
  no values is refused for a name that stands before it.
* `namesakes_of_build`: at most one of the fields of a name gathers no values, and it is declared
  first; the same fields are accepted in exactly the orders in which that is so.
-/

namespace Intake

namespace Blueprint

/-- Of two fields of one name, one gathers values. -/
def Distinct (g f : Field) : Prop :=
  g.name = f.name → g.isCollection = true ∨ f.isCollection = true

theorem Distinct.symm {g f : Field} (h : Distinct g f) : Distinct f g :=
  fun hname => (h hname.symm).symm

theorem MayFollow.distinct {g f : Field} (h : MayFollow g f) : Distinct g f := by
  intro hname
  cases hf : f.isCollection with
  | true => exact .inr rfl
  | false => exact absurd hname (h hf)

/-- Fields that share a name both gather values. -/
def GatherBoth (g f : Field) : Prop :=
  g.name = f.name → g.isCollection = true ∧ f.isCollection = true

theorem GatherBoth.symm {g f : Field} (h : GatherBoth g f) : GatherBoth f g :=
  fun hname => (h hname.symm).symm

theorem GatherBoth.mayFollow {g f : Field} (h : GatherBoth g f) : MayFollow g f := by
  intro hf hname
  exact absurd ((h hname).2.symm.trans hf) (by decide)

theorem gatherBoth_of_mayFollow {g f : Field} (hgf : MayFollow g f) (hfg : MayFollow f g) :
    GatherBoth g f := by
  intro hname
  constructor
  · exact (Bool.not_eq_false _).mp fun hg => hfg hg hname.symm
  · exact (Bool.not_eq_false _).mp fun hf => hgf hf hname

/-- The field is the first one of `fs` that gathers no values although another one of its name
stands before it, among `before` or in `fs`. -/
def Clashes (before fs : List Field) (f : Field) : Prop :=
  ∃ front back, fs = front ++ f :: back ∧ (before ++ front).Pairwise MayFollow ∧
    f.isCollection = false ∧ ∃ g ∈ before ++ front, g.name = f.name

/-- Fields that are acceptable each by itself pass, or one that gathers no values is refused for a
name that stands before it. -/
theorem checkFields_of_acceptable {r : Resolver} {before fs : List Field}
    (hbefore : before.Pairwise MayFollow) (hall : ∀ f ∈ fs, Acceptable r f) :
    (∃ r', checkFields r before fs = .ok r') ∨
      ∃ f, Clashes before fs f ∧ checkFields r before fs = .error (.duplicateField f.name) := by
  induction fs generalizing r before with
  | nil => exact .inl ⟨r, rfl⟩
  | cons f rest ih =>
    have hf := hall f List.mem_cons_self
    rw [checkFields]
    by_cases hfollow : ∀ g ∈ before, MayFollow g f
    -- the field joins those before it, and the rest decides
    · obtain ⟨r₁, haccept⟩ := Resolver.accept_ok_iff.2 hf.unmixed
      have hcheck : checkField r before f = .ok r₁ := checkField_ok_iff.2 ⟨hf, hfollow, haccept⟩
      have hbefore' : (before ++ [f]).Pairwise MayFollow := by
        refine List.pairwise_append.2 ⟨hbefore, List.pairwise_singleton _ _, fun g hg h hh => ?_⟩
        obtain rfl := List.mem_singleton.1 hh
        exact hfollow g hg
      rw [hcheck]
      rcases ih hbefore' fun g hg =>
          (hall g (List.mem_cons_of_mem _ hg)).of_alike (Resolver.accept_alike haccept) with
        hok | ⟨h, ⟨front, back, rfl, hpair, hsingle, hname⟩, herror⟩
      · exact .inl hok
      · rw [List.append_assoc] at hpair hname
        exact .inr ⟨h, ⟨f :: front, back, rfl, hpair, hsingle, hname⟩, herror⟩
    · have hdup : (!f.isCollection && before.any (·.name == f.name)) = true :=
        not_not.1 fun h => hfollow (mayFollow_iff.1 h)
      have hkinds : (f.allLocators.map (·.kind)).find? (· ∈ r.unsupported) = none := by
        simpa using hf.supported
      have hcheck : checkField r before f = .error (.duplicateField f.name) := by
        rw [checkField_eq, hkinds]
        dsimp only
        rw [if_pos hdup]
      rw [Bool.and_eq_true, Bool.not_eq_true', List.any_eq_true] at hdup
      obtain ⟨hsingle, g, hg, hname⟩ := hdup
      have hclash : Clashes before (f :: rest) f :=
        ⟨[], rest, rfl, by simpa using hbefore, by simpa using hsingle, g, by simpa using hg,
          by simpa using hname⟩
      refine .inr ⟨f, hclash, ?_⟩
      rw [hcheck]
      rfl

variable {b : Blueprint} {p : Parser} {fields : List (ParserField Parser)}

/-- Fields that build a parser build one in another order too, or a name that stands twice is
reported. -/
theorem build_perm_cases (hb : b.build = .ok p) (hperm : fields.Perm b.fields) :
    ((own fields).Pairwise MayFollow ∧ ∃ p', { b with fields }.build = .ok p') ∨
      ∃ f, Clashes [] (own fields) f ∧
        { b with fields }.build = .error (.duplicateField f.name) := by
  obtain ⟨properties, resolver, _, hp, hr, -, -⟩ := build_ok hb
  obtain ⟨hall, -, -⟩ := checkFields_ok_iff.1 ⟨resolver, hr⟩
  have hall' : ∀ f ∈ own fields, Acceptable b.resolver f :=
    fun f hf => hall f ((hperm.map _).mem_iff.1 hf)
  rcases checkFields_of_acceptable List.Pairwise.nil hall' with ⟨r', hr'⟩ | ⟨f, hclash, hr'⟩
  · obtain ⟨-, -, hpair⟩ := checkFields_ok_iff.1 ⟨r', hr'⟩
    obtain ⟨p', hb', -⟩ := build_of_perm hb hperm hpair
    exact .inl ⟨hpair, p', hb'⟩
  · refine .inr ⟨f, hclash, ?_⟩
    exact bind_eq_error.2 (.inr ⟨properties, hp, bind_eq_error.2 (.inl hr')⟩)

theorem pairwise_of_build (hb : b.build = .ok p) : (own b.fields).Pairwise MayFollow := by
  obtain ⟨_, resolver, _, -, hr, -, -⟩ := build_ok hb
  exact (checkFields_ok_iff.1 ⟨resolver, hr⟩).2.2

/-- Every order of the fields builds a parser exactly if no name is shared by one that gathers no
values. -/
theorem build_every_order_iff (hb : b.build = .ok p) :
    (∀ fields, fields.Perm b.fields → ∃ p', { b with fields }.build = .ok p') ↔
      (own b.fields).Pairwise GatherBoth := by
  constructor
  · intro h
    -- backwards, the other one of two namesakes stands last
    obtain ⟨p', hb'⟩ := h b.fields.reverse (List.reverse_perm _)
    have hback := pairwise_of_build hb'
    unfold own at hback
    rw [List.map_reverse, List.pairwise_reverse] at hback
    exact ((pairwise_of_build hb).and hback).imp fun hgf => gatherBoth_of_mayFollow hgf.1 hgf.2
  · intro h fields hperm
    have hpair := ((hperm.map _).pairwise_iff GatherBoth.symm).2 h
    obtain ⟨p', hb', -⟩ := build_of_perm hb hperm (hpair.imp GatherBoth.mayFollow)
    exact ⟨p', hb'⟩

/-- **Namesakes.** In a parser that was built, of any two fields of one name one gathers values; as
they were declared, it is the later one. The same fields in another order build a parser exactly if
the later one does there too; else the first name for which it does not is reported. So every order
is accepted exactly if all fields that share a name gather values. -/
theorem namesakes_of_build (hb : b.build = .ok p) :
    (own p.fields).Pairwise Distinct ∧ (own b.fields).Pairwise MayFollow ∧
      (∀ fields, fields.Perm b.fields →
        ((∃ p', { b with fields }.build = .ok p') ↔ (own fields).Pairwise MayFollow) ∧
          (¬ (own fields).Pairwise MayFollow → ∃ f, Clashes [] (own fields) f ∧
            { b with fields }.build = .error (.duplicateField f.name))) ∧
      ((∀ fields, fields.Perm b.fields → ∃ p', { b with fields }.build = .ok p') ↔
        (own b.fields).Pairwise GatherBoth) := by
  have hdeclared := pairwise_of_build hb
  obtain ⟨-, -, hperm, -⟩ := fields_of_build hb
  refine ⟨((hperm.map _).pairwise_iff Distinct.symm).2 (hdeclared.imp MayFollow.distinct),
    hdeclared, fun fields hperm' => ⟨?_, fun hpair => ?_⟩, build_every_order_iff hb⟩
  · exact ⟨fun ⟨p', hb'⟩ => pairwise_of_build hb', fun hpair =>
      let ⟨p', hb', _⟩ := build_of_perm hb hperm' hpair
      ⟨p', hb'⟩⟩
  · exact (build_perm_cases hb hperm').resolve_left fun h => hpair h.1

/-- A field for one value. -/
def lone : ParserField Parser := ⟨{ name := "X", locators := [{ location := "a" }] }, []⟩

/-- A field of the same name that gathers values. -/
def gathering : ParserField Parser :=
  ⟨{ name := "X", isCollection := true, locators := [{ location := "b" }] }, []⟩

/-- A blueprint with both. -/
def shared : Blueprint where
  name := "p"
  resolver := .json
  fields := [lone, gathering]

theorem build_shared : shared.build = .ok (.mk ⟨"p", {}, .json⟩ [] [] [lone, gathering]) := by
  have hp : shared.base.setAll shared.properties = .ok {} := rfl
  have hr : checkFields shared.resolver [] (own shared.fields) = .ok .json := rfl
  rw [build_eq hp hr,
    arranged_of_no_edges (unknownReference?_eq_none_iff.1 (by decide)) (by decide)]
  rfl

/-- The other order of the two is refused. -/
theorem shared_refused_reversed :
    ∃ f, Clashes [] (own [gathering, lone]) f ∧
      { shared with fields := [gathering, lone] }.build = .error (.duplicateField f.name) := by
  refine ((namesakes_of_build build_shared).2.2.1 [gathering, lone] (.swap _ _ _)).2 fun h => ?_
  exact (List.pairwise_cons.1 h).1 lone.field List.mem_cons_self rfl rfl

/-- **A field for one value may share its name** with one that gathers values, but only if it is
declared first. -/
theorem shared_accepted :
    ∃ p, shared.build = .ok p ∧ p.fields = [lone, gathering] ∧
      lone.field.name = gathering.field.name ∧ lone.field.isCollection = false ∧
      { shared with fields := [gathering, lone] }.build = .error (.duplicateField "X") :=
  ⟨_, build_shared, rfl, rfl, rfl, rfl⟩

end Blueprint

end Intake
