import Mathlib.Data.List.Infix
import Intake.Path

/-!
# Joining and cutting paths

When a text that was joined from segments is cut into these segments again.

* `Joinable`: the delimiter stands nowhere in the joined text but where it was put.
* `parts_intercalate`, `segments_intercalate`: such texts are cut into what they were joined from.
* `joinable_singleton`: if the delimiter is one character, no segment may have it.
* `Memo.segments_after`: segments that were kept are the same as those cut anew.
-/

namespace Intake

namespace Path

variable {delim seg : List Char}

/-- The delimiter ends the segment: in the segment followed by the delimiter, it stands only at the
end. -/
abbrev Ends (delim seg : List Char) : Prop := ¬ delim <:+: seg ++ delim.dropLast

/-- Each segment is ended by the delimiter after it, and the last one has no delimiter. -/
def Joinable (delim : List Char) : List (List Char) → Prop
  | [] => True
  | [last] => ¬ delim <:+: last
  | seg :: next :: rest => Ends delim seg ∧ Joinable delim (next :: rest)

/-! ### Cutting characters -/

theorem cut_skip (skipped rest : List Char) :
    cut delim skipped.length (skipped ++ rest) = cut delim 0 rest := by
  induction skipped with
  | nil => rfl
  | cons c skipped ih =>
    rw [List.length_cons, List.cons_append, cut]
    exact ih

theorem cut_delim (hdelim : delim ≠ []) (rest : List Char) :
    cut delim 0 (delim ++ rest) = ([], (cut delim 0 rest).1 :: (cut delim 0 rest).2) := by
  cases delim with
  | nil => exact absurd rfl hdelim
  | cons c others =>
    have hprefix : (c :: others).isPrefixOf (c :: (others ++ rest)) = true :=
      List.isPrefixOf_iff_prefix.2 (List.prefix_append (c :: others) rest)
    rw [List.cons_append, cut, if_pos hprefix, List.length_cons, Nat.add_sub_cancel, cut_skip]

theorem cut_cons {c : Char} {rest : List Char} (h : ¬ delim <+: c :: rest) :
    cut delim 0 (c :: rest) = (c :: (cut delim 0 rest).1, (cut delim 0 rest).2) := by
  rw [cut, if_neg (mt List.isPrefixOf_iff_prefix.1 h)]

/-- A text without the delimiter is one part. -/
theorem cut_of_not_infix (h : ¬ delim <:+: seg) : cut delim 0 seg = (seg, []) := by
  induction seg with
  | nil => rfl
  | cons c seg ih =>
    have hrest : ¬ delim <:+: seg := fun hmore => h (hmore.trans (List.suffix_cons c seg).isInfix)
    rw [cut_cons fun hprefix => h hprefix.isInfix, ih hrest]

/-- **The first cut is after the segment**, if the delimiter after it ends it. -/
theorem cut_of_ends (hdelim : delim ≠ []) (h : Ends delim seg) (rest : List Char) :
    cut delim 0 (seg ++ (delim ++ rest)) =
      (seg, (cut delim 0 rest).1 :: (cut delim 0 rest).2) := by
  induction seg with
  | nil => exact cut_delim hdelim rest
  | cons c seg ih =>
    have hrest : Ends delim seg := fun hmore =>
      h (hmore.trans (List.suffix_cons c (seg ++ delim.dropLast)).isInfix)
    -- a delimiter at this place would stand before the end of the one that was put
    have hnot : ¬ delim <+: c :: (seg ++ (delim ++ rest)) := by
      intro hprefix
      have hshort : c :: (seg ++ delim.dropLast) <+: c :: (seg ++ (delim ++ rest)) := by
        rw [List.prefix_cons_inj, List.prefix_append_right_inj]
        exact (List.dropLast_prefix delim).trans (List.prefix_append delim rest)
      have hlength : delim.length ≤ (c :: (seg ++ delim.dropLast)).length := by
        rw [List.length_cons, List.length_append, List.length_dropLast]
        omega
      exact h (List.prefix_of_prefix_length_le hprefix hshort hlength).isInfix
    rw [List.cons_append, cut_cons hnot, ih hrest]

theorem parts_eq (hdelim : delim ≠ []) (cs : List Char) :
    parts delim cs = (cut delim 0 cs).1 :: (cut delim 0 cs).2 := by
  rw [parts, if_neg (by simpa using hdelim)]

/-- **A joined text is cut into what it was joined from.** -/
theorem parts_intercalate (hdelim : delim ≠ []) {segs : List (List Char)} (hsegs : segs ≠ [])
    (h : Joinable delim segs) : parts delim (delim.intercalate segs) = segs := by
  fun_induction Joinable delim segs with
  | case1 => exact absurd rfl hsegs
  | case2 last => rw [List.intercalate_singleton, parts_eq hdelim, cut_of_not_infix h]
  | case3 seg next rest ih =>
    have hrest := ih (List.cons_ne_nil _ _) h.2
    rw [parts_eq hdelim] at hrest
    rw [List.intercalate_cons_cons, List.append_assoc, parts_eq hdelim, cut_of_ends hdelim h.1,
      hrest]

theorem joinable_singleton {c : Char} {segs : List (List Char)} (h : ∀ seg ∈ segs, c ∉ seg) :
    Joinable [c] segs := by
  have hnot : ∀ seg ∈ segs, ¬ [c] <:+: seg := fun seg hseg hmore =>
    h seg hseg (hmore.subset List.mem_cons_self)
  fun_induction Joinable [c] segs with
  | case1 => trivial
  | case2 last => exact hnot last List.mem_cons_self
  | case3 seg next rest ih =>
    refine ⟨?_, ih (fun s hs => h s (List.mem_cons_of_mem _ hs))
      (fun s hs => hnot s (List.mem_cons_of_mem _ hs))⟩
    have hseg := hnot seg List.mem_cons_self
    rwa [Ends, List.dropLast_singleton, List.append_nil]

/-! ### Cutting texts -/

variable {d : String}

/-- **A path that was joined from segments has these segments.** -/
theorem segments_intercalate (hdelim : d ≠ "") {segs : List String} (hsegs : ∀ s ∈ segs, s ≠ "")
    (h : Joinable d.toList (segs.map String.toList)) : segments (d.intercalate segs) d = segs := by
  have hchars : d.toList ≠ [] := by simpa using hdelim
  rcases eq_or_ne segs [] with rfl | hne
  · rw [String.intercalate_nil, segments, parts_eq hchars]
    rfl
  · have hparts := parts_intercalate hchars (mt List.map_eq_nil_iff.1 hne) h
    have hfilter : (segs.map String.toList).filter (fun part => !part.isEmpty) =
        segs.map String.toList := by
      rw [List.filter_eq_self]
      intro part hpart
      obtain ⟨s, hs, rfl⟩ := List.mem_map.1 hpart
      simpa using hsegs s hs
    rw [segments, String.toList_intercalate, hparts, hfilter, List.map_map]
    exact List.map_id'' (fun _ => String.ofList_toList) segs

/-- A path without the delimiter is one segment. -/
theorem segments_of_not_infix {path : String} (hdelim : d ≠ "") (hpath : path ≠ "")
    (h : ¬ d.toList <:+: path.toList) : segments path d = [path] := by
  have hjoin : Joinable d.toList ([path].map String.toList) := h
  have hsegs := segments_intercalate hdelim (by simpa using hpath) hjoin
  rwa [String.intercalate_singleton] at hsegs

/-! ### Segments that were kept -/

/-- What is kept after paths were cut one after the other. -/
def Memo.after (delim : String) (paths : List String) : Memo :=
  paths.foldl (fun memo path => (memo.segments path delim).2) []

/-- All that is kept was cut at one delimiter. -/
def Memo.CutAt (delim : String) (memo : Memo) : Prop :=
  ∀ path found, Keyed.get? path memo = some found → found = Path.segments path delim

variable {memo : Memo}

theorem Memo.CutAt.segments (h : memo.CutAt d) (path : String) :
    (memo.segments path d).1 = Path.segments path d ∧ (memo.segments path d).2.CutAt d := by
  unfold Memo.segments
  cases hfound : Keyed.get? path memo with
  | some found => exact ⟨h path found hfound, h⟩
  | none =>
    refine ⟨rfl, fun other found hother => ?_⟩
    rw [Keyed.get?_insert] at hother
    split at hother
    · next heq => exact heq ▸ (Option.some.inj hother).symm
    · exact h other found hother

/-- **Segments that were kept are the same as those cut anew**, whatever was cut before. -/
theorem Memo.segments_after (delim : String) (paths : List String) (path : String) :
    ((Memo.after delim paths).segments path delim).1 = Path.segments path delim := by
  have hafter : ∀ memo : Memo, memo.CutAt delim →
      Memo.CutAt delim (paths.foldl (fun memo path => (memo.segments path delim).2) memo) := by
    induction paths with
    | nil => exact fun _ h => h
    | cons first rest ih => exact fun memo h => ih _ (h.segments first).2
  have hempty : Memo.CutAt delim [] := by
    intro path found h
    cases h
  exact ((hafter [] hempty).segments path).1

end Path

end Intake
