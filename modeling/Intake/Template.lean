import Intake.Text.Blank

/-!
# Templates

Texts with placeholders, each a name in braces after a dollar sign. The name ends at the first
closing brace; an opening without one is plain text.

* `vars`: the names of the placeholders.
* `fill`: the template with values in place of the placeholders that have one.
* `soleVar?`: the name of a template that is one placeholder and nothing else.
-/

namespace Intake.Template

/-- Cuts at the first closing brace, which belongs to neither part. -/
def cutAtBrace : List Char → Option (List Char × List Char)
  | [] => none
  | '}' :: rest => some ([], rest)
  | c :: rest => (cutAtBrace rest).map fun r => (c :: r.1, r.2)

theorem length_of_cutAtBrace {cs name rest : List Char} (h : cutAtBrace cs = some (name, rest)) :
    rest.length < cs.length := by
  induction cs generalizing name rest with
  | nil => simp [cutAtBrace] at h
  | cons c cs ih =>
    by_cases hc : c = '}'
    · subst hc
      simp only [cutAtBrace, Option.some.injEq, Prod.mk.injEq] at h
      rw [← h.2]
      simp
    · simp only [cutAtBrace, Option.map_eq_some_iff] at h
      obtain ⟨r, hr, heq⟩ := h
      have := ih hr
      simp only [Prod.mk.injEq] at heq
      rw [← heq.2, List.length_cons]
      omega

/-- The names of the placeholders in a run of characters, empty ones left out. -/
def varsOf : List Char → List String
  | '$' :: '{' :: rest =>
    match h : cutAtBrace rest with
    | some (name, after) =>
      have := length_of_cutAtBrace h
      if name.isEmpty then varsOf after else String.ofList name :: varsOf after
    | none => []
  | _ :: rest => varsOf rest
  | [] => []
termination_by cs => cs.length
decreasing_by all_goals (simp only [List.length_cons]; omega)

/-- The names of the placeholders, in order. -/
def vars (template : String) : List String :=
  varsOf template.toList

/-- A run of characters with its placeholders filled, and whether all of them had a value. -/
def fillOf (lookup : String → Option String) : List Char → List Char × Bool
  | '$' :: '{' :: rest =>
    match h : cutAtBrace rest with
    | some (name, after) =>
      have := length_of_cutAtBrace h
      let (out, complete) := fillOf lookup after
      match lookup (String.ofList name) with
      | some text => (text.toList ++ out, complete)
      | none => ('$' :: '{' :: name ++ '}' :: out, false)
    | none => ('$' :: '{' :: rest, true)
  | c :: rest =>
    let (out, complete) := fillOf lookup rest
    (c :: out, complete)
  | [] => ([], true)
termination_by cs => cs.length
decreasing_by all_goals (simp only [List.length_cons]; omega)

/-- The template with every placeholder that has a value replaced by it, and whether all had one. -/
def fill (template : String) (lookup : String → Option String) : String × Bool :=
  let r := fillOf lookup template.toList
  (String.ofList r.1, r.2)

/-- The name of a template that consists of one placeholder. -/
def soleVar? (template : String) : Option String :=
  match template.toList with
  | '$' :: '{' :: rest =>
    match rest.reverse with
    | '}' :: inner =>
      if inner.isEmpty || inner.contains '}' then none else some (String.ofList inner.reverse)
    | _ => none
  | _ => none

/-- What stands before the name of a field of the record that is being built around this one. -/
def parentMark : List Char := ['^', '.']

/-- The name of a field of an outer record, without its mark. -/
def parentField? (name : String) : Option String :=
  (Text.stripLead parentMark name.toList).map String.ofList

/-- The name is that of a field of an outer record. -/
def isParentRef (name : String) : Bool :=
  (parentField? name).isSome

/-- The name stands between dollar signs and means a whole input, not a field. -/
def isContextName (name : String) : Bool :=
  let cs := name.toList
  1 < cs.length && cs.head? == some '$' && cs.getLast? == some '$'

end Intake.Template
