import Intake.Condition
import Intake.Template

/-!
# The names that templates read

A filled template shows the values of its placeholders and of nothing else, but for a placeholder
without a name: `vars` leaves it out, and `fill` asks for its value.

* `fill_congr`: look-ups that agree on the placeholders fill a template alike.
* `fill_of_plain`: a text without any is filled as it is.
* `vars_of_soleVar?`: a template that is one placeholder has the name of that one.
-/

namespace Intake.Template

/-- A placeholder as it is written. -/
def written (name : String) : List Char :=
  '$' :: '{' :: name.toList ++ ['}']

/-- A name after its brace is cut off at the first closing one. -/
theorem cutAtBrace_append {name : List Char} (h : '}' ∉ name) (rest : List Char) :
    cutAtBrace (name ++ '}' :: rest) = some (name, rest) := by
  induction name with
  | nil => rfl
  | cons c name ih =>
    have hc : c ≠ '}' := fun hc => h (hc ▸ List.mem_cons_self)
    have hname : '}' ∉ name := fun hmem => h (List.mem_cons_of_mem _ hmem)
    rw [List.cons_append, cutAtBrace]
    · rw [ih hname]
      rfl
    · exact hc

theorem varsOf_placeholder {rest name after : List Char}
    (h : cutAtBrace rest = some (name, after)) :
    varsOf ('$' :: '{' :: rest) =
      if name.isEmpty then varsOf after else String.ofList name :: varsOf after := by
  rw [varsOf]
  split
  · next heq =>
    rw [h] at heq
    cases heq
    rfl
  · next heq =>
    rw [h] at heq
    cases heq

theorem fillOf_placeholder {f : String → Option String} {rest name after : List Char}
    (h : cutAtBrace rest = some (name, after)) :
    fillOf f ('$' :: '{' :: rest) =
      match f (String.ofList name) with
      | some text => (text.toList ++ (fillOf f after).1, (fillOf f after).2)
      | none => ('$' :: '{' :: name ++ '}' :: (fillOf f after).1, false) := by
  rw [fillOf]
  split
  · next heq =>
    rw [h] at heq
    cases heq
    rfl
  · next heq =>
    rw [h] at heq
    cases heq

theorem fillOf_of_no_brace {f : String → Option String} {rest : List Char}
    (h : cutAtBrace rest = none) : fillOf f ('$' :: '{' :: rest) = ('$' :: '{' :: rest, true) := by
  rw [fillOf]
  split
  · next heq =>
    rw [h] at heq
    cases heq
  · rfl

theorem fillOf_of_text {f : String → Option String} {c : Char} {rest : List Char}
    (h : ∀ tail, c = '$' → rest = '{' :: tail → False) :
    fillOf f (c :: rest) = (c :: (fillOf f rest).1, (fillOf f rest).2) := by
  rw [fillOf]
  exact h

/-- Look-ups that agree on the names in a run of characters, and on the empty one, fill it alike. -/
theorem fillOf_congr {f g : String → Option String} {cs : List Char} (hempty : f "" = g "")
    (h : ∀ n ∈ varsOf cs, f n = g n) : fillOf f cs = fillOf g cs := by
  fun_induction varsOf cs with
  | case1 rest name after hcut _ hname ih =>
    -- `varsOf` skips the empty name, which is why it has a hypothesis of its own
    obtain rfl := List.isEmpty_iff.1 hname
    rw [fillOf_placeholder hcut, fillOf_placeholder hcut, ih h]
    rw [show String.ofList [] = "" from rfl, hempty]
  | case2 rest name after hcut _ hname ih =>
    have hafter := ih fun n hn => h n (List.mem_cons_of_mem _ hn)
    rw [fillOf_placeholder hcut, fillOf_placeholder hcut, hafter, h _ List.mem_cons_self]
  | case3 rest hcut =>
    rw [fillOf_of_no_brace hcut, fillOf_of_no_brace hcut]
  | case4 c rest hc ih =>
    rw [fillOf_of_text hc, fillOf_of_text hc, ih h]
  | case5 =>
    rw [fillOf, fillOf]

/-- Look-ups that agree on the placeholders of a template, and on the empty name, fill it alike. -/
theorem fill_congr {f g : String → Option String} {template : String} (hempty : f "" = g "")
    (h : ∀ n ∈ vars template, f n = g n) : fill template f = fill template g := by
  unfold fill
  rw [fillOf_congr hempty h]

/-- A run of characters in which no placeholder opens is filled as it is. -/
theorem fillOf_of_plain {f : String → Option String} {cs : List Char}
    (h : Condition.isInfixOf ['$', '{'] cs = false) : fillOf f cs = (cs, true) := by
  induction cs with
  | nil => rw [fillOf]
  | cons c rest ih =>
    rw [Condition.isInfixOf, Bool.or_eq_false_iff] at h
    rw [fillOf_of_text, ih h.2]
    rintro tail rfl rfl
    cases h.1

/-- A text in which no placeholder opens is filled as it is. -/
theorem fill_of_plain {f : String → Option String} {template : String}
    (h : Condition.isInfixOf ['$', '{'] template.toList = false) :
    fill template f = (template, true) := by
  unfold fill
  simp only [fillOf_of_plain h, String.ofList_toList]

/-- A template is one placeholder if it is written as one, with a name that is not empty and has no
closing brace. -/
theorem soleVar?_eq_some_iff {template name : String} :
    soleVar? template = some name ↔
      template.toList = written name ∧ name ≠ "" ∧ '}' ∉ name.toList := by
  constructor
  · intro h
    unfold soleVar? at h
    split at h
    · next rest htemplate =>
      split at h
      · next inner hrest =>
        split at h
        · cases h
        · next hinner =>
          obtain rfl := Option.some.inj h
          rw [Bool.or_eq_true, not_or, List.isEmpty_iff, List.contains_iff_mem] at hinner
          -- the closing brace was looked for from the end
          have hwritten : rest = inner.reverse ++ ['}'] := by
            rw [← List.reverse_cons, ← hrest, List.reverse_reverse]
          refine ⟨?_, ?_, by simpa using hinner.2⟩
          · rw [htemplate, hwritten, written, String.toList_ofList]
            rfl
          · simpa [← String.toList_eq_nil_iff] using hinner.1
      · cases h
    · cases h
  · rintro ⟨htemplate, hne, hmem⟩
    unfold soleVar?
    have hreverse : (name.toList ++ ['}']).reverse = '}' :: name.toList.reverse := by simp
    have hinner : ¬ (name.toList.reverse.isEmpty || name.toList.reverse.contains '}') = true := by
      simp [hne, hmem]
    rw [htemplate, written, List.cons_append, List.cons_append]
    simp only [hreverse, if_neg hinner, List.reverse_reverse, String.ofList_toList]

/-- A template that is one placeholder has the name of that one. -/
theorem vars_of_soleVar? {template name : String} (h : soleVar? template = some name) :
    vars template = [name] := by
  obtain ⟨htemplate, hne, hmem⟩ := soleVar?_eq_some_iff.1 h
  have hcut : cutAtBrace (name.toList ++ ['}']) = some (name.toList, []) :=
    cutAtBrace_append hmem []
  rw [vars, htemplate, written, List.cons_append, List.cons_append, varsOf_placeholder hcut,
    if_neg (by simpa using hne), String.ofList_toList, varsOf]

end Intake.Template
