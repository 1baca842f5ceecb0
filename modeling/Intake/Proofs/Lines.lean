import Intake.Feed

/-!
# The lines of a text

A text is cut at its line feeds. Of its lines those are taken that are not blank, without what ends
them.

* `Text.unlines_linesOf`: a text is made of its lines.
* `Feed.takenOf`, `Feed.after`: the lines that are taken, and those left over when some of them have
  been.
* `Feed.takenOf_after`: what is taken of the lines left over is what was not taken before.
* `Feed.exists_unlines_eq`: the text in front of the lines left over holds just those that were
  taken.
-/

namespace Intake

namespace Text

/-- The lines of a text, without the line feeds between them. -/
def linesOf (cs : List Char) : List (List Char) := splitChars (· == '\n') cs

/-- Lines as a text again. -/
def unlines (lines : List (List Char)) : List Char := ['\n'].intercalate lines

variable {cs cs' line : List Char} {lines : List (List Char)}

theorem linesOf_ne_nil : linesOf cs ≠ [] := by
  unfold linesOf
  cases cs with
  | nil => exact List.cons_ne_nil _ _
  | cons c rest =>
    rw [splitChars]
    split
    · exact List.cons_ne_nil _ _
    · split
      · exact List.cons_ne_nil _ _
      · exact List.cons_ne_nil _ _

/-- A line feed between two texts is one between their lines. -/
theorem linesOf_append_cons : linesOf (cs ++ '\n' :: cs') = linesOf cs ++ linesOf cs' := by
  induction cs with
  | nil => rfl
  | cons c rest ih =>
    unfold linesOf at ih ⊢
    rw [List.cons_append, splitChars, splitChars, ih]
    split
    · rfl
    · cases hrest : splitChars (· == '\n') rest with
      | nil => exact absurd hrest linesOf_ne_nil
      | cons piece pieces => rfl

theorem linesOf_of_not_mem (h : '\n' ∉ cs) : linesOf cs = [cs] := by
  induction cs with
  | nil => rfl
  | cons c rest ih =>
    have hc : ¬ (c == '\n') = true := by
      intro heq
      exact h (by rw [eq_of_beq heq]; exact List.mem_cons_self)
    have hrest : splitChars (· == '\n') rest = [rest] := ih fun hmem => h (List.mem_cons_of_mem _ hmem)
    rw [linesOf, splitChars, if_neg hc, hrest]

theorem not_mem_of_mem_linesOf (h : line ∈ linesOf cs) : '\n' ∉ line := by
  induction cs generalizing line with
  | nil =>
    obtain rfl : line = [] := List.mem_singleton.1 h
    exact List.not_mem_nil
  | cons c rest ih =>
    unfold linesOf at ih h
    rw [splitChars] at h
    split at h
    · rcases List.mem_cons.1 h with rfl | h
      · exact List.not_mem_nil
      · exact ih h
    · next hc =>
      -- The character is put before the first of the lines that follow.
      cases hrest : splitChars (· == '\n') rest with
      | nil => exact absurd hrest linesOf_ne_nil
      | cons piece pieces =>
        rw [hrest] at h ih
        rcases List.mem_cons.1 h with rfl | h
        · intro hmem
          rcases List.mem_cons.1 hmem with heq | hmem
          · exact hc (by rw [← heq]; rfl)
          · exact ih List.mem_cons_self hmem
        · exact ih (List.mem_cons_of_mem _ h)

theorem unlines_cons_cons (next : List Char) :
    unlines (line :: next :: lines) = line ++ '\n' :: unlines (next :: lines) := by
  rw [unlines, List.intercalate_cons_cons, List.append_assoc]
  rfl

/-- A text is made of its lines. -/
theorem unlines_linesOf (cs : List Char) : unlines (linesOf cs) = cs := by
  induction cs with
  | nil => rfl
  | cons c rest ih =>
    unfold linesOf at ih ⊢
    rw [splitChars]
    cases hrest : splitChars (· == '\n') rest with
    | nil => exact absurd hrest linesOf_ne_nil
    | cons piece pieces =>
      rw [hrest] at ih
      split
      · next hc => rw [unlines_cons_cons, ih, eq_of_beq hc, List.nil_append]
      · rw [unlines, List.intercalate_cons_cons_left, ← unlines, ih]

end Text

namespace Feed

open Text

variable {line next : List Char} {lines : List (List Char)} {n : Nat}

/-- What is taken of a line: the line without what ends it, or nothing if it is blank. -/
def taken? (line : List Char) : Option String :=
  let s := chomp (String.ofList line)
  if isBlankText s then none else some s

/-- What is taken of lines. -/
def takenOf (lines : List (List Char)) : List String := lines.filterMap taken?

/-- The lines behind the first `n` of those that are taken. -/
def after : Nat → List (List Char) → List (List Char)
  | 0, lines => lines
  | _ + 1, [] => []
  | n + 1, line :: rest => if (taken? line).isSome then after n rest else after (n + 1) rest

theorem after_zero : after 0 lines = lines := by
  cases lines <;> rfl

theorem after_cons_of_some {s : String} (h : taken? line = some s) :
    after (n + 1) (line :: lines) = after n lines := by
  rw [after, h, Option.isSome_some, if_pos rfl]

theorem after_cons_of_none (h : taken? line = none) :
    after (n + 1) (line :: lines) = after (n + 1) lines := by
  rw [after, h, Option.isSome_none, if_neg Bool.false_ne_true]

theorem after_nil : after n [] = [] := by
  cases n <;> rfl

theorem after_after {m : Nat} : after m (after n lines) = after (n + m) lines := by
  induction lines generalizing n with
  | nil => rw [after_nil, after_nil, after_nil]
  | cons line rest ih =>
    cases n with
    | zero => rw [after_zero, Nat.zero_add]
    | succ n =>
      rw [Nat.add_right_comm]
      cases h : taken? line with
      | none => rw [after_cons_of_none h, after_cons_of_none h, ih, Nat.add_right_comm]
      | some s => rw [after_cons_of_some h, after_cons_of_some h, ih]

/-- What is taken of the lines left over is what was not taken before. -/
theorem takenOf_after : takenOf (after n lines) = (takenOf lines).drop n := by
  induction lines generalizing n with
  | nil => rw [after_nil, takenOf, List.filterMap_nil, List.drop_nil]
  | cons line rest ih =>
    cases n with
    | zero => rfl
    | succ n =>
      cases h : taken? line with
      | none => rw [after_cons_of_none h, ih, takenOf, takenOf, List.filterMap_cons_none h]
      | some s =>
        rw [after_cons_of_some h, ih, takenOf, takenOf, List.filterMap_cons_some h,
          List.drop_succ_cons]

theorem not_mem_of_mem_after (h : ∀ line ∈ lines, '\n' ∉ line) :
    ∀ line ∈ after n lines, '\n' ∉ line := by
  induction lines generalizing n with
  | nil =>
    rw [after_nil]
    exact h
  | cons first rest ih =>
    have hrest : ∀ line ∈ rest, '\n' ∉ line := fun line hline => h line (List.mem_cons_of_mem _ hline)
    cases n with
    | zero => exact h
    | succ n =>
      rw [after]
      split
      · exact ih hrest
      · exact ih hrest

/-- A text is cut behind the lines that were taken: of the part before the cut come exactly these
lines. -/
theorem exists_unlines_eq (h : ∀ line ∈ lines, '\n' ∉ line) (n : Nat) :
    ∃ front, unlines lines = front ++ unlines (after n lines) ∧
      takenOf (linesOf front) = (takenOf lines).take n := by
  have hnone : takenOf (linesOf []) = [] := rfl
  induction lines generalizing n with
  | nil => exact ⟨[], by rw [after_nil]; rfl, by rw [hnone, takenOf, List.filterMap_nil, List.take_nil]⟩
  | cons line rest ih =>
    cases n with
    | zero => exact ⟨[], rfl, by rw [hnone, List.take_zero]⟩
    | succ n =>
      have hline : linesOf line = [line] := linesOf_of_not_mem (h line List.mem_cons_self)
      -- what comes of the first line, and how many are taken of the others
      obtain ⟨m, hafter, htake⟩ : ∃ m, after (n + 1) (line :: rest) = after m rest ∧
          (takenOf (line :: rest)).take (n + 1) = takenOf [line] ++ (takenOf rest).take m := by
        simp only [takenOf]
        cases hs : taken? line with
        | none =>
          refine ⟨n + 1, after_cons_of_none hs, ?_⟩
          rw [List.filterMap_cons_none hs, List.filterMap_cons_none hs]
          rfl
        | some s =>
          refine ⟨n, after_cons_of_some hs, ?_⟩
          rw [List.filterMap_cons_some hs, List.filterMap_cons_some hs]
          rfl
      cases rest with
      | nil =>
        refine ⟨line, ?_, ?_⟩
        · rw [hafter, after_nil, unlines, List.intercalate_singleton, unlines,
            List.intercalate_nil, List.append_nil]
        · have hnil : takenOf [] = [] := rfl
          rw [hline, htake, hnil, List.take_nil, List.append_nil]
      | cons next rest =>
        obtain ⟨front, hfront, htaken⟩ :=
          ih (fun line hline => h line (List.mem_cons_of_mem _ hline)) m
        refine ⟨line ++ '\n' :: front, ?_, ?_⟩
        · rw [unlines_cons_cons, hfront, hafter, List.append_assoc, List.cons_append]
        · rw [linesOf_append_cons, hline, htake, ← htaken]
          exact List.filterMap_append

end Feed

end Intake
