import Mathlib.Data.List.Induction
import Intake.Proofs.Precedence
import Intake.Proofs.Stacking

/-!
# Building registries

The parsers of a registry are those that the definitions ask for, whatever the order in which the
definitions were read.

* `Definition.build_congr`: the parser of a definition depends on the parsers of the names that it
  stacks, and on no others.
* `Solves`: each definition builds its parser from the parsers of all definitions. Any order with
  the stacked definitions first leads there (`Solves.of_buildAll`), and from there every such order
  leads to the same parsers (`Solves.buildAll_eq`).
* `build_cases`, `build_of_definitions`: what building a registry comes to.
-/

namespace Intake

open Relation

namespace Definition

variable {d : Definition} {built built' : Keyed Parser} {base : Properties}

theorem mem_stackedNames {f : FieldRule} {s : StackedRule} (hf : f ∈ d.fields)
    (hs : s ∈ f.stacked) : s.parser ∈ d.stackedNames :=
  List.mem_flatMap.2 ⟨f, hf, List.mem_map_of_mem hs⟩

/-- **The parser of a definition depends on the parsers that it stacks**, and on no others. -/
theorem build_congr (h : ∀ name ∈ d.stackedNames, Keyed.get? name built = Keyed.get? name built') :
    d.build built base = d.build built' base := by
  have hstacked : ∀ f ∈ d.fields, f.stacked.mapM (d.buildStacked built f.name) =
      f.stacked.mapM (d.buildStacked built' f.name) := by
    intro f hf
    refine mapM_congr fun s hs => ?_
    unfold buildStacked
    rw [h _ (mem_stackedNames hf hs)]
  have hblueprint : d.blueprint built base = d.blueprint built' base := by
    unfold blueprint
    congr 1
    funext resolver
    congr 1
    refine mapM_congr fun f hf => ?_
    rw [hstacked f hf]
  unfold build
  rw [hblueprint]

end Definition

namespace Registry

variable {base : Properties} {ds order : List Definition} {built m : Keyed Parser} {name : String}

/-! ### Steps of the loop -/

theorem buildAll_append (xs ys : List Definition) :
    buildAll base built (xs ++ ys) =
      buildAll base built xs >>= fun next => buildAll base next ys := by
  induction xs generalizing built with
  | nil => rfl
  | cons d xs ih =>
    rw [List.cons_append, buildAll, buildAll]
    cases d.build built base with
    | error e => rfl
    | ok p => exact ih

/-- One step: the definition is built from the parsers there are, and its parser is added. -/
theorem buildAll_cons_ok {d : Definition} {rest : List Definition} :
    buildAll base built (d :: rest) = .ok m ↔ ∃ p, d.build built base = .ok p ∧
      buildAll base (Keyed.insert d.name p built) rest = .ok m := by
  rw [buildAll]
  exact bind_eq_ok

theorem sorted_of_buildAll (h : buildAll base built ds = .ok m) (hsorted : Keyed.Sorted built) :
    Keyed.Sorted m := by
  induction ds generalizing built with
  | nil => exact Except.ok.inj h ▸ hsorted
  | cons d rest ih =>
    obtain ⟨p, -, hrest⟩ := buildAll_cons_ok.1 h
    exact ih hrest (Keyed.sorted_insert hsorted)

/-- Definitions of other names leave what a lookup finds. -/
theorem get?_of_buildAll (h : buildAll base built ds = .ok m) (hname : name ∉ names ds) :
    Keyed.get? name m = Keyed.get? name built := by
  induction ds generalizing built with
  | nil => exact Except.ok.inj h ▸ rfl
  | cons d rest ih =>
    obtain ⟨p, -, hrest⟩ := buildAll_cons_ok.1 h
    obtain ⟨hne, hname⟩ := not_or.1 (mt List.mem_cons.2 hname)
    rw [ih hrest hname, Keyed.get?_insert, if_neg (Ne.symm hne)]

/-- Every definition that was built is found under its name. -/
theorem isSome_of_buildAll (h : buildAll base built ds = .ok m) (hname : name ∈ names ds) :
    ∃ p, Keyed.get? name m = some p := by
  induction ds generalizing built with
  | nil => exact absurd hname List.not_mem_nil
  | cons d rest ih =>
    obtain ⟨p, -, hrest⟩ := buildAll_cons_ok.1 h
    by_cases hlater : name ∈ names rest
    · exact ih hrest hlater
    · obtain rfl : name = d.name := (List.mem_cons.1 hname).resolve_right hlater
      exact ⟨p, by rw [get?_of_buildAll hrest hlater, Keyed.get?_insert, if_pos rfl]⟩

/-! ### What every order leads to -/

/-- Each definition builds its parser from the parsers of all definitions, and there are no
others. -/
structure Solves (base : Properties) (ds : List Definition) (m : Keyed Parser) : Prop where
  sorted : Keyed.Sorted m
  known : ∀ name p, Keyed.get? name m = some p → name ∈ names ds
  built : ∀ d ∈ ds, ∃ p, Keyed.get? d.name m = some p ∧ d.build m base = .ok p

theorem Solves.of_perm {ds' : List Definition} (h : Solves base ds m) (hperm : ds'.Perm ds) :
    Solves base ds' m := by
  refine ⟨h.sorted, ?_, fun d hd => h.built d (hperm.mem_iff.1 hd)⟩
  intro name p hname
  exact (hperm.map _).mem_iff.2 (h.known name p hname)

/-- **Where an order with the stacked definitions first leads.** A parser is not replaced once it
is there, so each definition saw what stands under its names in the end. -/
theorem Solves.of_buildAll (hnodup : (names order).Nodup) (hfirst : StackedFirst order)
    (h : buildAll base [] order = .ok m) : Solves base order m := by
  refine ⟨sorted_of_buildAll h .nil, ?_, ?_⟩
  · intro name p hname
    by_contra hnot
    rw [get?_of_buildAll h hnot] at hname
    cases hname
  · intro d hd
    obtain ⟨before, after, rfl⟩ := List.append_of_mem hd
    have hsubset := hfirst before d after rfl
    rw [names, List.map_append, List.map_cons, List.nodup_append] at hnodup
    obtain ⟨-, hafter, hdisjoint⟩ := hnodup
    rw [buildAll_append] at h
    obtain ⟨built, -, h⟩ := bind_eq_ok.1 h
    obtain ⟨p, hp, hrest⟩ := buildAll_cons_ok.1 h
    refine ⟨p, ?_, ?_⟩
    · rw [get?_of_buildAll hrest (List.nodup_cons.1 hafter).1, Keyed.get?_insert, if_pos rfl]
    · rw [← hp]
      -- from here on nothing is built under a name that the definition stacks
      refine Definition.build_congr fun name hname => ?_
      have hnot : name ∉ names (d :: after) := fun hmem =>
        hdisjoint name (hsubset hname) name hmem rfl
      exact get?_of_buildAll h hnot

/-- On the way through an order with the stacked definitions first, the parsers there are are those
of the definitions so far. -/
theorem Solves.buildAll_prefix (h : Solves base ds m) (hsub : order ⊆ ds)
    (hfirst : StackedFirst order) {before after : List Definition} (heq : order = before ++ after) :
    ∃ built, buildAll base [] before = .ok built ∧
      ∀ name, Keyed.get? name built = if name ∈ names before then Keyed.get? name m else none := by
  induction before using List.reverseRecOn generalizing after with
  | nil => exact ⟨[], rfl, fun name => (if_neg List.not_mem_nil).symm⟩
  | append_singleton before d ih =>
    rw [List.append_assoc, List.singleton_append] at heq
    obtain ⟨built, hbuilt, hget⟩ := ih heq
    obtain ⟨p, hp, hbuild⟩ := h.built d (hsub (heq ▸ List.mem_append_right _ List.mem_cons_self))
    -- all that the definition stacks is there already, so it builds what it builds in the end
    have hstep : d.build built base = .ok p := by
      rw [← hbuild]
      refine Definition.build_congr fun name hname => ?_
      rw [hget, if_pos (hfirst before d after heq hname)]
    refine ⟨Keyed.insert d.name p built, ?_, ?_⟩
    · rw [buildAll_append, hbuilt]
      exact buildAll_cons_ok.2 ⟨p, hstep, rfl⟩
    · intro name
      have hsnoc : name ∈ names (before ++ [d]) ↔ name ∈ names before ∨ name = d.name := by
        simp [names]
      rw [Keyed.get?_insert, hget]
      by_cases hname : d.name = name
      · subst hname
        rw [if_pos rfl, if_pos (hsnoc.2 (.inr rfl)), hp]
      · simp only [hsnoc, hname, Ne.symm hname, or_false, if_false]

/-- **Every order with the stacked definitions first leads to the same parsers.** -/
theorem Solves.buildAll_eq (h : Solves base ds m) (hperm : order.Perm ds)
    (hfirst : StackedFirst order) : buildAll base [] order = .ok m := by
  obtain ⟨built, hbuilt, hget⟩ := h.buildAll_prefix hperm.subset hfirst (List.append_nil _).symm
  have hsame : built = m := by
    refine Keyed.ext_of_sorted (sorted_of_buildAll hbuilt .nil) h.sorted fun name => ?_
    rw [hget]
    split
    · rfl
    · next hnot =>
      cases hname : Keyed.get? name m with
      | none => rfl
      | some p => exact absurd ((hperm.map _).mem_iff.2 (h.known name p hname)) hnot
  rw [hbuilt, hsame]

/-! ### What building a registry comes to -/

variable {e : EngineSettings} {d : Definition}

theorem build_of_duplicate (h : duplicate? [] ds = some d) :
    build ds e = .error (d.failure s!"duplicate parser name '{d.name}'") := by
  simp only [build, h]
  rfl

theorem build_of_undefined {f : Failure} (hnone : duplicate? [] ds = none)
    (h : undefined? ds = some f) : build ds e = .error f := by
  simp only [build, hnone, h]
  rfl

theorem build_of_circle {place : Nat} (hnone : duplicate? [] ds = none)
    (hdefined : undefined? ds = none) (horder : (references ds).order = .error place)
    (hplace : ds[place]? = some d) :
    build ds e = .error (.definition d.name "cyclic stacked parser references") := by
  simp only [build, hnone, hdefined, horder, hplace]
  rfl

theorem build_of_order {places : List Nat} (hnone : duplicate? [] ds = none)
    (hdefined : undefined? ds = none) (horder : (references ds).order = .ok places) :
    build ds e = (buildAll e.properties [] (places.filterMap fun i => ds[i]?)).map
      fun parsers => { parsers, cache := cacheOf? ds e.cacheCapacity } := by
  simp only [build, hnone, hdefined, horder]
  cases buildAll e.properties [] (places.filterMap fun i => ds[i]?) <;> rfl

/-- **All that can come of building a registry.** -/
theorem build_cases (ds : List Definition) (e : EngineSettings) :
    (¬ (names ds).Nodup ∧ ∃ before d after, ds = before ++ d :: after ∧ d.name ∈ names before ∧
      build ds e = .error (d.failure s!"duplicate parser name '{d.name}'")) ∨
    ((names ds).Nodup ∧ ∃ d ∈ ds, ∃ name ∈ d.stackedNames, name ∉ names ds ∧
      build ds e = .error (d.failure s!"undefined stacked parser '{name}'")) ∨
    ((names ds).Nodup ∧ (∀ d ∈ ds, d.stackedNames ⊆ names ds) ∧ ∃ d, Below ds d d ∧
      build ds e = .error (.definition d.name "cyclic stacked parser references")) ∨
    (Sound ds ∧ ∃ order : List Definition, order.Perm ds ∧ StackedFirst order ∧
      build ds e = (buildAll e.properties [] order).map
        fun parsers => { parsers, cache := cacheOf? ds e.cacheCapacity }) := by
  -- the checks in the order in which they are made
  cases hduplicate : duplicate? [] ds with
  | some d =>
    obtain ⟨before, after, rfl, hseen | hbefore⟩ := duplicate?_eq_some hduplicate
    · exact absurd hseen List.not_mem_nil
    · refine .inl ⟨?_, before, d, after, rfl, hbefore, build_of_duplicate hduplicate⟩
      intro hnodup
      rw [duplicate?_eq_none_iff.2 ⟨hnodup, fun _ _ => List.not_mem_nil⟩] at hduplicate
      cases hduplicate
  | none =>
    have hnodup := (duplicate?_eq_none_iff.1 hduplicate).1
    cases hundefined : undefined? ds with
    | some f =>
      obtain ⟨d, hd, name, hname, hunknown, rfl⟩ := undefined?_eq_some hundefined
      exact .inr (.inl ⟨hnodup, d, hd, name, hname, hunknown,
        build_of_undefined hduplicate hundefined⟩)
    | none =>
      have hdefined := undefined?_eq_none_iff.1 hundefined
      rcases order_cases hnodup hdefined with ⟨place, d, horder, hplace, hcircle⟩ |
          ⟨hsound, places, horder, hperm, hfirst⟩
      · exact .inr (.inr (.inl ⟨hnodup, hdefined, d, hcircle,
          build_of_circle hduplicate hundefined horder hplace⟩))
      · exact .inr (.inr (.inr ⟨hsound, _, hperm, hfirst,
          build_of_order hduplicate hundefined horder⟩))

/-- Sound definitions are built one after the other, those that are stacked first. -/
theorem build_of_sound (h : Sound ds) (e : EngineSettings) :
    ∃ order : List Definition, order.Perm ds ∧ StackedFirst order ∧
      build ds e = (buildAll e.properties [] order).map
        fun parsers => { parsers, cache := cacheOf? ds e.cacheCapacity } := by
  rcases build_cases ds e with ⟨hdup, -⟩ | ⟨-, d, hd, name, hname, hunknown, -⟩ |
      ⟨-, -, d, hcircle, -⟩ | ⟨-, horder⟩
  · exact absurd h.nodup hdup
  · exact absurd (h.defined d hd hname) hunknown
  · exact absurd hcircle (h.acyclic d)
  · exact horder

/-- A registry that was built holds what its definitions ask for. -/
theorem solves_of_build {r : Registry} (h : build ds e = .ok r) :
    Sound ds ∧ Solves e.properties ds r.parsers := by
  rcases build_cases ds e with ⟨-, _, _, _, -, -, herror⟩ | ⟨-, _, -, _, -, -, herror⟩ |
      ⟨-, -, _, -, herror⟩ | ⟨hsound, order, hperm, hfirst, heq⟩
  · cases h.symm.trans herror
  · cases h.symm.trans herror
  · cases h.symm.trans herror
  · obtain ⟨parsers, hbuilt, rfl⟩ := map_eq_ok.1 (heq.symm.trans h)
    have hnodup : (names order).Nodup := (hperm.map _).nodup_iff.2 hsound.nodup
    exact ⟨hsound, (Solves.of_buildAll hnodup hfirst hbuilt).of_perm hperm.symm⟩

/-- **What sound definitions ask for is what their registry holds**, whatever their order. -/
theorem build_of_solves (hsound : Sound ds) (h : Solves e.properties ds m) :
    build ds e = .ok { parsers := m, cache := cacheOf? ds e.cacheCapacity } := by
  obtain ⟨order, hperm, hfirst, heq⟩ := build_of_sound hsound e
  rw [heq, h.buildAll_eq hperm hfirst]
  rfl

theorem build_of_perm {ds' : List Definition} {r : Registry} (hperm : ds'.Perm ds)
    (h : build ds e = .ok r) : ∃ r', build ds' e = .ok r' ∧ r'.parsers = r.parsers := by
  obtain ⟨hsound, hsolves⟩ := solves_of_build h
  exact ⟨_, build_of_solves (hsound.of_perm hperm) (hsolves.of_perm hperm), rfl⟩

/-- **What building a registry comes to**, for every list of definitions. A name that two of them
have is reported, else a stacked parser without a definition, else the name of a definition on a
circle. If nothing of this is wrong, the definitions are built one after the other, each when all
that it stacks is there, so no stacked parser is missed then. Whether a registry is built, and what
its parsers are, does not depend on the order in which the definitions are listed. -/
theorem build_of_definitions (ds : List Definition) (e : EngineSettings) :
    (¬ (names ds).Nodup → ∃ before d after, ds = before ++ d :: after ∧ d.name ∈ names before ∧
      build ds e = .error (d.failure s!"duplicate parser name '{d.name}'")) ∧
    ((names ds).Nodup → (∃ d ∈ ds, ∃ name ∈ d.stackedNames, name ∉ names ds) →
      ∃ d ∈ ds, ∃ name ∈ d.stackedNames, name ∉ names ds ∧
        build ds e = .error (d.failure s!"undefined stacked parser '{name}'")) ∧
    ((names ds).Nodup → (∀ d ∈ ds, d.stackedNames ⊆ names ds) → (∃ d, Below ds d d) →
      ∃ d, Below ds d d ∧
        build ds e = .error (.definition d.name "cyclic stacked parser references")) ∧
    (Sound ds → ∃ order : List Definition, order.Perm ds ∧ StackedFirst order ∧
      build ds e = (buildAll e.properties [] order).map
        (fun parsers => { parsers, cache := cacheOf? ds e.cacheCapacity }) ∧
      ∀ before d after built, order = before ++ d :: after →
        buildAll e.properties [] before = .ok built → ∀ f ∈ d.fields, ∀ s ∈ f.stacked,
          ∃ p, Keyed.get? s.parser built = some p ∧ d.buildStacked built f.name s =
            .ok { parser := p, aggregation := s.aggregation, flatten := s.flatten }) ∧
    (∀ ds' : List Definition, ds'.Perm ds →
      ((∃ r', build ds' e = .ok r') ↔ ∃ r, build ds e = .ok r) ∧
      ∀ r' r, build ds' e = .ok r' → build ds e = .ok r →
        r'.parsers = r.parsers ∧
          ∀ name, (∃ p, Keyed.get? name r.parsers = some p) ↔ name ∈ names ds) := by
  -- of all that can come of it, the premises of each of the first parts leave one
  refine ⟨?_, ?_, ?_, ?_, ?_⟩
  · intro hdup
    rcases build_cases ds e with ⟨-, h⟩ | ⟨hnodup, -⟩ | ⟨hnodup, -⟩ | ⟨hsound, -⟩
    · exact h
    · exact absurd hnodup hdup
    · exact absurd hnodup hdup
    · exact absurd hsound.nodup hdup
  · rintro hnodup ⟨d, hd, name, hname, hunknown⟩
    rcases build_cases ds e with ⟨hdup, -⟩ | ⟨-, h⟩ | ⟨-, hdefined, -⟩ | ⟨hsound, -⟩
    · exact absurd hnodup hdup
    · exact h
    · exact absurd (hdefined d hd hname) hunknown
    · exact absurd (hsound.defined d hd hname) hunknown
  · rintro hnodup hdefined ⟨d, hcircle⟩
    rcases build_cases ds e with ⟨hdup, -⟩ | ⟨-, d', hd', name, hname, hunknown, -⟩ |
        ⟨-, -, h⟩ | ⟨hsound, -⟩
    · exact absurd hnodup hdup
    · exact absurd (hdefined d' hd' hname) hunknown
    · exact h
    · exact absurd hcircle (hsound.acyclic d)
  · intro hsound
    obtain ⟨order, hperm, hfirst, heq⟩ := build_of_sound hsound e
    refine ⟨order, hperm, hfirst, heq, ?_⟩
    intro before d after built horder hbuilt f hf s hs
    obtain ⟨p, hp⟩ := isSome_of_buildAll hbuilt
      (hfirst before d after horder (Definition.mem_stackedNames hf hs))
    refine ⟨p, hp, ?_⟩
    unfold Definition.buildStacked
    rw [hp]
  · intro ds' hperm
    refine ⟨⟨?_, ?_⟩, ?_⟩
    · rintro ⟨r', h'⟩
      obtain ⟨r, h, -⟩ := build_of_perm hperm.symm h'
      exact ⟨r, h⟩
    · rintro ⟨r, h⟩
      obtain ⟨r', h', -⟩ := build_of_perm hperm h
      exact ⟨r', h'⟩
    · -- the registries are equal, and not only alike: parsers are kept in the order of their names
      intro r' r h' h
      obtain ⟨r'', h'', heq⟩ := build_of_perm hperm h
      obtain rfl : r' = r'' := Except.ok.inj (h'.symm.trans h'')
      refine ⟨heq, fun name => ⟨fun ⟨p, hp⟩ => (solves_of_build h).2.known name p hp, ?_⟩⟩
      intro hname
      obtain ⟨d, hd, rfl⟩ := List.mem_map.1 hname
      obtain ⟨p, hp, -⟩ := (solves_of_build h).2.built d hd
      exact ⟨p, hp⟩

/-! ### Two definitions -/

/-- A definition with one field, on which others are stacked. -/
def stacking (name : String) (below : List String) : Definition where
  name := name
  resolver := .json
  fields := [{ name := "data", stacked := below.map fun parser => { parser } }]

/-- The parser of such a definition. -/
def stackingParser (name : String) (below : List Parser) : Parser :=
  .mk ⟨name, {}, .json⟩ [] [] [⟨.ofName "data", below.map fun parser => { parser }⟩]

/-- A definition and, after it, the one that is stacked on it. -/
def pair : List Definition := [stacking "outer" ["inner"], stacking "inner" []]

/-- The parsers of the two. -/
def pairParsers : Keyed Parser :=
  [("inner", stackingParser "inner" []),
    ("outer", stackingParser "outer" [stackingParser "inner" []])]

theorem sound_pair : Sound pair := by
  refine ⟨by decide, by decide, fun d hd => ?_⟩
  -- the first on a circle would be stacked on another one, and have another one stacked on it
  have hends : ∀ a ∈ pair, ∀ b ∈ pair, Under a b → a.name = "inner" ∧ b.name = "outer" := by
    decide
  obtain ⟨x, hx, -⟩ := TransGen.head'_iff.1 hd
  obtain ⟨y, -, hy⟩ := TransGen.tail'_iff.1 hd
  have hinner := (hends _ hx.1 _ hx.2.1 hx.2.2).1
  have houter := (hends _ hy.1 _ hy.2.1 hy.2.2).2
  rw [hinner] at houter
  exact absurd houter (by decide)

open Blueprint in
theorem build_stacking {name : String} {below : List String} {parsers : List Parser}
    (h : (stacking name below).blueprint built {} = .ok
      { name, resolver := .json, fields := (stackingParser name parsers).fields }) :
    (stacking name below).build built {} = .ok (stackingParser name parsers) := by
  have hresolved : ¬ Unresolved (stackingParser name parsers).fields := by
    rintro ⟨⟨f, other, hmem, hneeds, -⟩, -⟩
    obtain rfl := List.mem_singleton.1 hmem
    exact absurd hneeds.refers List.not_mem_nil
  have hedges : (Blueprint.references (own (stackingParser name parsers).fields)).edges = [] := by
    change (Blueprint.references [.ofName "data"]).edges = []
    decide
  have hp : ({} : Properties).setAll [] = .ok {} := rfl
  have hr : checkFields .json [] (own (stackingParser name parsers).fields) = .ok .json := rfl
  unfold Definition.build
  rw [h]
  change Except.mapError _ (Blueprint.build _) = _
  rw [build_eq hp hr, arranged_of_no_edges hresolved hedges]
  rfl

theorem solves_pair : Solves {} pair pairParsers := by
  refine ⟨by decide, ?_, ?_⟩
  · intro name p h
    have hkeys : ∀ key ∈ Keyed.keys pairParsers, key ∈ names pair := by decide
    exact hkeys name (List.mem_map_of_mem (Keyed.mem_of_get? h))
  · intro d hd
    rcases List.mem_cons.1 hd with rfl | hd
    · exact ⟨_, rfl, build_stacking rfl⟩
    · obtain rfl := List.mem_singleton.1 hd
      exact ⟨_, rfl, build_stacking rfl⟩

/-- A definition that is stacked on itself. -/
def loop : Definition := stacking "loop" ["loop"]

theorem build_pair :
    (∃ r r', build pair {} = .ok r ∧ build pair.reverse {} = .ok r' ∧
      r.parsers = pairParsers ∧ r'.parsers = pairParsers) ∧
    (∃ order : List Definition, order.Perm pair ∧ StackedFirst order) ∧
    (∃ d : Definition, build (pair ++ pair) {} =
      .error (d.failure s!"duplicate parser name '{d.name}'")) ∧
    (∃ (d : Definition) (name : String), build [stacking "outer" ["inner"]] {} =
      .error (d.failure s!"undefined stacked parser '{name}'")) ∧
    ∃ d : Definition, build [loop] {} =
      .error (.definition d.name "cyclic stacked parser references") := by
  have hpair : build pair {} = .ok { parsers := pairParsers, cache := none } :=
    build_of_solves sound_pair solves_pair
  refine ⟨?_, ?_, ?_, ?_, ?_⟩
  · obtain ⟨-, -, -, -, hperm⟩ := build_of_definitions pair {}
    obtain ⟨hbuilt, hsame⟩ := hperm pair.reverse (List.reverse_perm pair)
    obtain ⟨r', hr'⟩ := hbuilt.2 ⟨_, hpair⟩
    exact ⟨_, r', hpair, hr', rfl, (hsame r' _ hr' hpair).1⟩
  · obtain ⟨-, -, -, horder, -⟩ := build_of_definitions pair {}
    obtain ⟨order, hperm, hfirst, -⟩ := horder sound_pair
    exact ⟨order, hperm, hfirst⟩
  · obtain ⟨hdup, -⟩ := build_of_definitions (pair ++ pair) {}
    obtain ⟨-, d, -, -, -, h⟩ := hdup (by decide)
    exact ⟨d, h⟩
  · obtain ⟨-, hundefined, -⟩ := build_of_definitions [stacking "outer" ["inner"]] {}
    obtain ⟨d, -, name, -, -, h⟩ := hundefined (by decide)
      ⟨_, List.mem_singleton_self _, "inner", by decide, by decide⟩
    exact ⟨d, name, h⟩
  · obtain ⟨-, -, hcircle, -⟩ := build_of_definitions [loop] {}
    have hself : Graph.Between [loop] Under loop loop :=
      ⟨List.mem_singleton_self _, List.mem_singleton_self _, by decide⟩
    obtain ⟨d, -, h⟩ := hcircle (by decide) (by decide) ⟨loop, .single hself⟩
    exact ⟨d, h⟩

end Registry

end Intake
