import Intake.Resolution
import Intake.Proofs.Template

/-!
# The grammar of templates

A template is a row of placeholders and of characters that stand for themselves. All that is done
with templates follows this one reading of them.

* `Reads`: how a text is read. Every text is read in exactly one way (`exists_reads`,
  `Reads.unique`).
* `fillM`: a template filled by a look-up that may do something of its own, so that what it is asked
  for can be noted (`noting`).
* `Reads.varsOf_eq`, `Reads.fillOf_eq`, `Reads.fillOfM_noting`: names, text and look-ups of a
  template by its parts.
* `soleVar?_eq_some_iff`: the template that is one placeholder.
* `scanners_agree`: **all that reads templates reads them alike.**
-/

namespace Intake.Template

/-- A part of a template. -/
inductive Part where
  /-- A character that stands for itself. -/
  | char (c : Char)
  | placeholder (name : String)
deriving DecidableEq, Repr

namespace Part

/-- The part as it is written. -/
def written : Part → List Char
  | char c => [c]
  | placeholder name => Template.written name

/-- The name of a placeholder. -/
def name? : Part → Option String
  | char _ => none
  | placeholder name => some name

/-- The part with the value of a placeholder in its place, just as it is, if there is one. -/
def filled (lookup : String → Option String) : Part → List Char
  | char c => [c]
  | placeholder name => ((lookup name).map String.toList).getD (Template.written name)

end Part

/-- The names of all placeholders in order, with those that have an empty one. -/
def names (parts : List Part) : List String :=
  parts.filterMap Part.name?

@[simp] theorem names_char (c : Char) (parts : List Part) :
    names (.char c :: parts) = names parts := rfl

@[simp] theorem names_placeholder (name : String) (parts : List Part) :
    names (.placeholder name :: parts) = name :: names parts := rfl

/-- How a run of characters is read: a placeholder goes up to the first closing brace, and where
none stands, a character stands for itself. -/
inductive Reads : List Char → List Part → Prop
  | nil : Reads [] []
  | placeholder {name : String} {after : List Char} {parts : List Part} :
    '}' ∉ name.toList → Reads after parts →
      Reads (written name ++ after) (.placeholder name :: parts)
  | char {c : Char} {rest : List Char} {parts : List Part} :
    (∀ name after, c :: rest ≠ written name ++ after) → Reads rest parts →
      Reads (c :: rest) (.char c :: parts)

section Look

variable {m : Type → Type} [Monad m]

/-- What a placeholder and what follows it come to, by the answer to its name. -/
def joined (name : List Char) (answer : Option String) (after : List Char × Bool) :
    List Char × Bool :=
  match answer with
  | some text => (text.toList ++ after.1, after.2)
  | none => ('$' :: '{' :: name ++ '}' :: after.1, false)

/-- A run of characters filled by a look-up that may do something of its own. -/
def fillOfM (ask : String → m (Option String)) : List Char → m (List Char × Bool)
  | '$' :: '{' :: rest =>
    match h : cutAtBrace rest with
    | some (name, after) => do
      have := length_of_cutAtBrace h
      let answer ← ask (String.ofList name)
      let filled ← fillOfM ask after
      return joined name answer filled
    | none => return ('$' :: '{' :: rest, true)
  | c :: rest => do
    let filled ← fillOfM ask rest
    return (c :: filled.1, filled.2)
  | [] => return ([], true)
termination_by cs => cs.length
decreasing_by all_goals (simp only [List.length_cons]; omega)

/-- A template filled by a look-up that may do something of its own. -/
def fillM (template : String) (ask : String → m (Option String)) : m (String × Bool) := do
  let r ← fillOfM ask template.toList
  return (String.ofList r.1, r.2)

/-- The look-up, which also notes at the end of a list what it is asked for. -/
def noting (ask : String → m (Option String)) (name : String) :
    StateT (List String) m (Option String) := do
  modify (· ++ [name])
  ask name

end Look

/-! ### Cutting at a brace -/

theorem eq_of_cutAtBrace {cs name rest : List Char} (h : cutAtBrace cs = some (name, rest)) :
    '}' ∉ name ∧ cs = name ++ '}' :: rest := by
  induction cs generalizing name with
  | nil => cases h
  | cons c cs ih =>
    by_cases hc : c = '}'
    · subst hc
      cases h
      exact ⟨List.not_mem_nil, rfl⟩
    · rw [cutAtBrace, Option.map_eq_some_iff] at h
      · obtain ⟨⟨tail, rest'⟩, htail, heq⟩ := h
        cases heq
        obtain ⟨hmem, rfl⟩ := ih htail
        exact ⟨by simp [hmem, Ne.symm hc], rfl⟩
      · exact hc

theorem not_mem_of_cutAtBrace {cs : List Char} (h : cutAtBrace cs = none) : '}' ∉ cs := by
  induction cs with
  | nil => exact List.not_mem_nil
  | cons c cs ih =>
    by_cases hc : c = '}'
    · subst hc
      cases h
    · rw [cutAtBrace, Option.map_eq_none_iff] at h
      · simp [ih h, Ne.symm hc]
      · exact hc

theorem written_append (name : String) (after : List Char) :
    written name ++ after = '$' :: '{' :: (name.toList ++ '}' :: after) := by
  simp [written]

/-- Where no placeholder stands, an opening brace is not closed. -/
theorem cutAtBrace_of_char {tail : List Char}
    (h : ∀ name after, '$' :: '{' :: tail ≠ written name ++ after) : cutAtBrace tail = none := by
  cases hcut : cutAtBrace tail with
  | none => rfl
  | some r =>
    obtain ⟨-, htail⟩ := eq_of_cutAtBrace hcut
    refine absurd ?_ (h (String.ofList r.1) r.2)
    rw [written_append, String.toList_ofList, htail]

/-! ### Readings -/

/-- At the start of a run of characters stands a placeholder, or a character for itself. -/
theorem placeholder_or_char (c : Char) (rest : List Char) :
    (∃ name after, '}' ∉ name.toList ∧ c :: rest = written name ++ after) ∨
      ∀ name after, c :: rest ≠ written name ++ after := by
  by_cases hopen : ∃ tail, c :: rest = '$' :: '{' :: tail ∧ '}' ∈ tail
  · obtain ⟨tail, heq, hmem⟩ := hopen
    cases hcut : cutAtBrace tail with
    | none => exact absurd hmem (not_mem_of_cutAtBrace hcut)
    | some r =>
      obtain ⟨hname, htail⟩ := eq_of_cutAtBrace hcut
      refine .inl ⟨String.ofList r.1, r.2, by simpa using hname, ?_⟩
      rw [written_append, String.toList_ofList, heq, htail]
  · refine .inr fun name after heq => hopen ⟨_, heq.trans (written_append name after), ?_⟩
    simp

/-- Every run of characters can be read. -/
theorem exists_reads (cs : List Char) : ∃ parts, Reads cs parts := by
  induction hn : cs.length using Nat.strongRecOn generalizing cs with
  | ind n ih =>
    cases cs with
    | nil => exact ⟨[], .nil⟩
    | cons c rest =>
      rcases placeholder_or_char c rest with ⟨name, after, hname, heq⟩ | hchar
      · rw [heq] at hn ⊢
        have hlt : after.length < n := by
          rw [← hn, written_append]
          simp only [List.length_cons, List.length_append]
          omega
        obtain ⟨parts, hparts⟩ := ih _ hlt after rfl
        exact ⟨_, .placeholder hname hparts⟩
      · obtain ⟨parts, hparts⟩ := ih _ (hn ▸ Nat.lt_succ_self _) rest rfl
        exact ⟨_, .char hchar hparts⟩

theorem written_inj {name name' : String} {after after' : List Char} (h : '}' ∉ name.toList)
    (h' : '}' ∉ name'.toList) (heq : written name ++ after = written name' ++ after') :
    name = name' ∧ after = after' := by
  rw [written_append, written_append] at heq
  have hcut := congrArg cutAtBrace (List.cons.inj (List.cons.inj heq).2).2
  rw [cutAtBrace_append h, cutAtBrace_append h', Option.some.injEq, Prod.mk.injEq] at hcut
  exact ⟨String.toList_injective hcut.1, hcut.2⟩

/-- **A run of characters is read in one way only.** -/
theorem Reads.unique {cs : List Char} {parts parts' : List Part} (h : Reads cs parts)
    (h' : Reads cs parts') : parts = parts' := by
  induction h generalizing parts' with
  | nil =>
    cases h'
    rfl
  | @placeholder name after parts hname hafter ih =>
    generalize hcs : written name ++ after = cs at h'
    cases h' with
    | nil => cases hcs
    | placeholder hname' hafter' =>
      obtain ⟨rfl, rfl⟩ := written_inj hname hname' hcs
      rw [ih hafter']
    -- A placeholder is no single character, and the other way round below.
    | char hchar _ => exact absurd hcs.symm (hchar _ _)
  | @char c rest parts hchar hrest ih =>
    generalize hcs : c :: rest = cs at h'
    cases h' with
    | nil => cases hcs
    | placeholder _ _ => exact absurd hcs (hchar _ _)
    | char _ hrest' =>
      obtain ⟨rfl, rfl⟩ := List.cons.inj hcs
      rw [ih hrest']

/-- The parts as they are written are the characters that were read. -/
theorem Reads.flatMap_written {cs : List Char} {parts : List Part} (h : Reads cs parts) :
    parts.flatMap Part.written = cs := by
  induction h with
  | nil => rfl
  | placeholder _ _ ih => rw [List.flatMap_cons, ih]; rfl
  | char _ _ ih => rw [List.flatMap_cons, ih]; rfl

theorem Reads.not_mem_of_mem_names {cs : List Char} {parts : List Part} (h : Reads cs parts) :
    ∀ n ∈ names parts, '}' ∉ n.toList := by
  induction h with
  | nil => exact fun n hn => absurd hn List.not_mem_nil
  | placeholder hname _ ih => exact List.forall_mem_cons.2 ⟨hname, ih⟩
  | char _ _ ih => exact ih

/-! ### Names -/

theorem varsOf_of_not_mem {cs : List Char} (h : '}' ∉ cs) : varsOf cs = [] := by
  fun_induction varsOf cs with
  | case1 rest name after hcut | case2 rest name after hcut =>
    obtain ⟨-, rfl⟩ := eq_of_cutAtBrace hcut
    exact absurd (by simp) h
  | case3 => rfl
  | case4 c rest _ ih => exact ih fun hmem => h (List.mem_cons_of_mem _ hmem)
  | case5 => rfl

theorem varsOf_char {c : Char} {rest : List Char}
    (h : ∀ name after, c :: rest ≠ written name ++ after) : varsOf (c :: rest) = varsOf rest := by
  by_cases hopen : ∃ tail, c = '$' ∧ rest = '{' :: tail
  · obtain ⟨tail, rfl, rfl⟩ := hopen
    have htail := not_mem_of_cutAtBrace (cutAtBrace_of_char h)
    rw [varsOf_of_not_mem (by simpa using htail), varsOf_of_not_mem (by simpa using htail)]
  · rw [varsOf]
    exact fun tail hc hrest => hopen ⟨tail, hc, hrest⟩

/-- The variables of a template are the names of its placeholders, without the empty ones. -/
theorem Reads.varsOf_eq {cs : List Char} {parts : List Part} (h : Reads cs parts) :
    varsOf cs = (names parts).filter (!·.isEmpty) := by
  induction h with
  | nil => rw [varsOf]; rfl
  | @placeholder name after parts hname _ ih =>
    rw [written_append, varsOf_placeholder (cutAtBrace_append hname after), String.ofList_toList,
      ih, names_placeholder, List.filter_cons]
    cases hempty : name.isEmpty <;> simp_all [String.isEmpty_iff]
  | char hchar _ ih =>
    rw [varsOf_char hchar, ih]
    rfl

/-! ### Text -/

section Fill

variable {f : String → Option String}

theorem fillOf_of_not_mem {cs : List Char} (h : '}' ∉ cs) : fillOf f cs = (cs, true) := by
  fun_induction varsOf cs with
  | case1 rest name after hcut | case2 rest name after hcut =>
    obtain ⟨-, rfl⟩ := eq_of_cutAtBrace hcut
    exact absurd (by simp) h
  | case3 rest hcut => exact fillOf_of_no_brace hcut
  | case4 c rest hc ih =>
    rw [fillOf_of_text hc, ih fun hmem => h (List.mem_cons_of_mem _ hmem)]
  | case5 => rw [fillOf]

theorem fillOf_char {c : Char} {rest : List Char}
    (h : ∀ name after, c :: rest ≠ written name ++ after) :
    fillOf f (c :: rest) = (c :: (fillOf f rest).1, (fillOf f rest).2) := by
  by_cases hopen : ∃ tail, c = '$' ∧ rest = '{' :: tail
  · obtain ⟨tail, rfl, rfl⟩ := hopen
    have htail := not_mem_of_cutAtBrace (cutAtBrace_of_char h)
    rw [fillOf_of_not_mem (by simpa using htail), fillOf_of_not_mem (by simpa using htail)]
  · exact fillOf_of_text fun tail hc hrest => hopen ⟨tail, hc, hrest⟩

theorem fillOf_written {name : String} (h : '}' ∉ name.toList) (after : List Char) :
    fillOf f (written name ++ after) =
      ((Part.placeholder name).filled f ++ (fillOf f after).1,
        (f name).isSome && (fillOf f after).2) := by
  rw [written_append, fillOf_placeholder (cutAtBrace_append h after), String.ofList_toList]
  unfold Part.filled
  cases hf : f name with
  | none => simp [hf, written]
  | some text => simp [hf]

/-- **A template is filled part by part**: what is put in place of a placeholder is not read
again. -/
theorem Reads.fillOf_eq {cs : List Char} {parts : List Part} (h : Reads cs parts)
    (f : String → Option String) :
    fillOf f cs =
      (parts.flatMap (Part.filled f), (names parts).all fun name => (f name).isSome) := by
  induction h with
  | nil => rw [fillOf]; rfl
  | placeholder hname _ ih => rw [fillOf_written hname, ih]; rfl
  | char hchar _ ih => rw [fillOf_char hchar, ih]; rfl

end Fill

/-! ### Look-ups -/

section Look

variable {m : Type → Type} [Monad m] {ask : String → m (Option String)}

theorem fillOfM_placeholder {rest name after : List Char}
    (h : cutAtBrace rest = some (name, after)) :
    fillOfM ask ('$' :: '{' :: rest) = (do
      let answer ← ask (String.ofList name)
      let filled ← fillOfM ask after
      return joined name answer filled) := by
  rw [fillOfM]
  split
  · next heq =>
    rw [h] at heq
    cases heq
    rfl
  · next heq =>
    rw [h] at heq
    cases heq

theorem fillOfM_of_no_brace {rest : List Char} (h : cutAtBrace rest = none) :
    fillOfM ask ('$' :: '{' :: rest) = pure ('$' :: '{' :: rest, true) := by
  rw [fillOfM]
  split
  · next heq =>
    rw [h] at heq
    cases heq
  · rfl

variable [LawfulMonad m]

theorem fillOfM_of_text {c : Char} {rest : List Char}
    (h : ∀ tail, c = '$' → rest = '{' :: tail → False) :
    fillOfM ask (c :: rest) = (fun filled => (c :: filled.1, filled.2)) <$> fillOfM ask rest := by
  rw [fillOfM, map_eq_pure_bind]
  exact h

theorem fillOfM_of_not_mem {cs : List Char} (h : '}' ∉ cs) :
    fillOfM ask cs = pure (cs, true) := by
  fun_induction varsOf cs with
  | case1 rest name after hcut | case2 rest name after hcut =>
    obtain ⟨-, rfl⟩ := eq_of_cutAtBrace hcut
    exact absurd (by simp) h
  | case3 rest hcut => exact fillOfM_of_no_brace hcut
  | case4 c rest hc ih =>
    rw [fillOfM_of_text hc, ih fun hmem => h (List.mem_cons_of_mem _ hmem), map_pure]
  | case5 => rw [fillOfM]

theorem fillOfM_char {c : Char} {rest : List Char}
    (h : ∀ name after, c :: rest ≠ written name ++ after) :
    fillOfM ask (c :: rest) = (fun filled => (c :: filled.1, filled.2)) <$> fillOfM ask rest := by
  by_cases hopen : ∃ tail, c = '$' ∧ rest = '{' :: tail
  · obtain ⟨tail, rfl, rfl⟩ := hopen
    have htail := not_mem_of_cutAtBrace (cutAtBrace_of_char h)
    rw [fillOfM_of_not_mem (by simpa using htail), fillOfM_of_not_mem (by simpa using htail),
      map_pure]
  · exact fillOfM_of_text fun tail hc hrest => hopen ⟨tail, hc, hrest⟩

/-- A look-up that does nothing of its own fills a run of characters as before. -/
theorem fillOfM_pure (f : String → Option String) (cs : List Char) :
    fillOfM (fun name => (pure (f name) : m _)) cs = pure (fillOf f cs) := by
  fun_induction varsOf cs with
  | case1 rest name after hcut _ _ ih | case2 rest name after hcut _ _ ih =>
    rw [fillOf_placeholder hcut, fillOfM_placeholder hcut, pure_bind, ih, pure_bind]
    cases f (String.ofList name) <;> rfl
  | case3 rest hcut => rw [fillOf_of_no_brace hcut, fillOfM_of_no_brace hcut]
  | case4 c rest hc ih => rw [fillOf_of_text hc, fillOfM_of_text hc, ih, map_pure]
  | case5 => rw [fillOf, fillOfM]

/-- Whatever a look-up does, it is asked for the names of the placeholders, one after the other. -/
theorem Reads.fillOfM_noting {cs : List Char} {parts : List Part} (h : Reads cs parts)
    (ask : String → m (Option String)) (asked : List String) :
    (fillOfM (noting ask) cs).run asked =
      (fun r => (r, asked ++ names parts)) <$> fillOfM ask cs := by
  induction h generalizing asked with
  | nil =>
    rw [fillOfM, fillOfM]
    simp [names]
  | @placeholder name after parts hname _ ih =>
    rw [written_append, fillOfM_placeholder (cutAtBrace_append hname after),
      fillOfM_placeholder (cutAtBrace_append hname after)]
    simp [noting, ih]
  | @char c rest parts hchar _ ih =>
    rw [fillOfM_char hchar, fillOfM_char hchar]
    simp [ih]

/-- A look-up that does nothing of its own fills a template as before. -/
theorem fillM_pure (template : String) (f : String → Option String) :
    fillM template (fun name => (pure (f name) : m _)) = pure (fill template f) := by
  unfold fillM fill
  rw [fillOfM_pure, pure_bind]

end Look

/-! ### Templates that are one placeholder -/

/-- A template is one placeholder exactly if it is written as one and has its name alone. -/
theorem soleVar?_eq_some_iff_vars {template name : String} :
    soleVar? template = some name ↔ template.toList = written name ∧ vars template = [name] := by
  constructor
  · intro h
    exact ⟨(soleVar?_eq_some_iff.1 h).1, vars_of_soleVar? h⟩
  · rintro ⟨htemplate, hvars⟩
    obtain ⟨parts, hparts⟩ := exists_reads template.toList
    have hname : name ∈ (names parts).filter (!·.isEmpty) := by
      rw [← hparts.varsOf_eq, ← vars, hvars]
      exact List.mem_singleton_self name
    obtain ⟨hmem, hne⟩ := List.mem_filter.1 hname
    refine soleVar?_eq_some_iff.2 ⟨htemplate, ?_, hparts.not_mem_of_mem_names name hmem⟩
    simpa using hne

/-- A template that is one placeholder comes to the value of that one, or stays as it is. -/
theorem fill_of_soleVar? {template name : String} (h : soleVar? template = some name)
    (f : String → Option String) :
    fill template f = ((f name).getD template, (f name).isSome) := by
  obtain ⟨htemplate, -, hmem⟩ := soleVar?_eq_some_iff.1 h
  have hreads : Reads template.toList [.placeholder name] := by
    rw [htemplate, ← List.append_nil (written name)]
    exact .placeholder hmem .nil
  unfold fill
  rw [hreads.fillOf_eq]
  cases hf : f name with
  | none => simp [Part.filled, names, Part.name?, hf, ← htemplate]
  | some value => simp [Part.filled, names, Part.name?, hf]

/-- A template of which no placeholder has a value stays as it is. -/
theorem fill_of_unresolved {template : String} {parts : List Part} {f : String → Option String}
    (hparts : Reads template.toList parts) (h : ∀ n ∈ names parts, f n = none) :
    (fill template f).1 = template := by
  have hwritten : ∀ part ∈ parts, part.filled f = part.written := by
    intro part hpart
    cases part with
    | char c => rfl
    | placeholder name =>
      rw [Part.filled, h name (List.mem_filterMap.2 ⟨_, hpart, rfl⟩)]
      rfl
  have htext : parts.flatMap (Part.filled f) = template.toList := by
    rw [List.flatMap_def, List.map_congr_left hwritten, ← List.flatMap_def,
      hparts.flatMap_written]
  unfold fill
  simp only [hparts.fillOf_eq, htext, String.ofList_toList]

/-- A text with placeholders shows the same, whether or not it is the value of one field. -/
theorem text_expressionValue (ctx : Context) (template : String) :
    (ctx.expressionValue template).text =
      (fill template fun name => (ctx.fieldValue? name).map Value.text).1 := by
  unfold Context.expressionValue
  cases hsole : soleVar? template with
  | none => rfl
  | some name =>
    rw [Option.bind_some, fill_of_soleVar? hsole]
    cases ctx.fieldValue? name <;> rfl

/-- A value that is kept shows the same, whether or not it is the value of one field. -/
theorem text_valueFor? (e : CacheEntry) (r : Record) :
    (e.valueFor? r).map Value.text = CacheEntry.fillFrom? e.value r := by
  have htext : ∀ s : Option String, (s.map Value.str).map Value.text = s := by
    intro s
    cases s <;> rfl
  unfold CacheEntry.valueFor?
  cases hsole : soleVar? e.value with
  | none => exact htext _
  | some name =>
    unfold CacheEntry.fillFrom?
    rw [fill_of_soleVar? hsole]
    cases hvalue : r.get? name <;> simp [hvalue]

/-- **All that reads templates reads them alike.** A template is read in one way, as placeholders
and characters that stand for themselves. Whatever the look-up does, filling a template asks it for
the names of the placeholders, one after the other; those that are not empty are its variables. All
placeholders are filled exactly if all these names have a value. Each value stands in the place of
its placeholder just as it is, and if there is none, the template stays as it was. The template that
is one placeholder is written as one and has its name as its only variable; it comes to the value of
that name, so that what takes this value as it is shows the same text. -/
theorem scanners_agree (template : String) :
    ∃ parts, (∀ parts', Reads template.toList parts' ↔ parts' = parts) ∧
      (∀ {m : Type → Type} [Monad m] [LawfulMonad m] (ask : String → m (Option String)) asked,
        (fillM template (noting ask)).run asked =
          (fun r => (r, asked ++ names parts)) <$> fillM template ask) ∧
      (∀ {m : Type → Type} [Monad m] [LawfulMonad m] (f : String → Option String),
        fillM template (fun n => (pure (f n) : m _)) = pure (fill template f)) ∧
      (names parts).filter (!·.isEmpty) = vars template ∧
      (∀ f, (fill template f).2 = true ↔ ∀ n ∈ names parts, (f n).isSome = true) ∧
      (∀ f, (fill template f).1.toList = parts.flatMap (Part.filled f)) ∧
      (∀ f, (∀ n ∈ names parts, f n = none) → (fill template f).1 = template) ∧
      (∀ n, soleVar? template = some n ↔ template.toList = written n ∧ vars template = [n]) ∧
      (∀ n f value, soleVar? template = some n → f n = some value →
        fill template f = (value, true)) ∧
      (∀ ctx : Context, (ctx.expressionValue template).text =
        (fill template fun n => (ctx.fieldValue? n).map Value.text).1) ∧
      ∀ (e : CacheEntry) (r : Record), e.value = template →
        (e.valueFor? r).map Value.text = CacheEntry.fillFrom? template r := by
  -- all scanners are compared with the one way to read the template
  obtain ⟨parts, hparts⟩ := exists_reads template.toList
  refine ⟨parts, ?_, ?_, ?_, hparts.varsOf_eq.symm, ?_, ?_, ?_, ?_, ?_, ?_, ?_⟩
  · intro parts'
    constructor
    · exact fun h => h.unique hparts
    · rintro rfl
      exact hparts
  · intro m _ _ ask asked
    unfold fillM
    rw [StateT.run_bind, hparts.fillOfM_noting]
    simp
  · exact fun f => fillM_pure template f
  · intro f
    unfold fill
    simp [hparts.fillOf_eq]
  · intro f
    unfold fill
    simp [hparts.fillOf_eq]
  · exact fun f h => fill_of_unresolved hparts h
  · exact fun n => soleVar?_eq_some_iff_vars
  · intro n f value hsole hf
    rw [fill_of_soleVar? hsole, hf]
    rfl
  · exact fun ctx => text_expressionValue ctx template
  · rintro e r rfl
    exact text_valueFor? e r

/-- What is kept of the user of a record. -/
def keptUser : CacheEntry where
  id := "user"
  key := "user"
  value := "$\x7bUserName\x7d"

/-- A value that looks like a placeholder is not filled again, and the template of an entry that
keeps a single field shows that field. -/
theorem user_shown_as_it_is :
    soleVar? keptUser.value = some "UserName" ∧
      fill keptUser.value (fun _ => some "$\x7bUserName\x7d!") = ("$\x7bUserName\x7d!", true) ∧
      (fill keptUser.value fun _ => none).1 = keptUser.value ∧
      ∀ r, (keptUser.valueFor? r).map Value.text = CacheEntry.fillFrom? keptUser.value r := by
  obtain ⟨parts, -, -, -, -, -, -, hnone, -, hsole, -, hkept⟩ := scanners_agree keptUser.value
  have hname : soleVar? keptUser.value = some "UserName" := by decide
  exact ⟨hname, hsole _ _ _ hname rfl, hnone _ fun _ _ => rfl, fun r => hkept keptUser r rfl⟩

end Intake.Template
