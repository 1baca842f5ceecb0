/-!
# Sets of characters

A set of characters as closed ranges of code points, in ascending order and apart.

* `ofRanges`: the set that ranges in any order give.
* `compl`, `union`, `inter`, `diff`, `symmDiff`: the operations on sets. Surrogates are no
  characters, so it does not matter whether a range spans them.
-/

namespace Intake.Text

/-- A set of characters. -/
structure CodeSet where
  ranges : List (Nat × Nat)
deriving DecidableEq, Repr

namespace CodeSet

/-- A code point lies in one of the ranges. The search ends before the first range behind it. -/
def inRanges : List (Nat × Nat) → Nat → Bool
  | [], _ => false
  | (lo, hi) :: rest, n => lo ≤ n && (n ≤ hi || inRanges rest n)

/-- The code point is in the set. -/
def has (s : CodeSet) (n : Nat) : Bool :=
  inRanges s.ranges n

/-- The character is in the set. -/
def contains (s : CodeSet) (c : Char) : Bool :=
  s.has c.toNat

/-- A range in front of ranges that start no earlier, joined with those that it touches. -/
def join (lo hi : Nat) : List (Nat × Nat) → List (Nat × Nat)
  | [] => [(lo, hi)]
  | (lo', hi') :: rest =>
    if lo' ≤ hi + 1 then join lo (max hi hi') rest else (lo, hi) :: join lo' hi' rest

/-- The set of all characters in some range. -/
def ofRanges (ranges : List (Nat × Nat)) : CodeSet :=
  match ranges.mergeSort fun a b => a.1 ≤ b.1 with
  | [] => ⟨[]⟩
  | (lo, hi) :: rest => ⟨join lo hi rest⟩

/-- The set without characters. -/
def empty : CodeSet :=
  ⟨[]⟩

/-- The characters from one to another. -/
def between (lo hi : Char) : CodeSet :=
  ⟨[(lo.toNat, hi.toNat)]⟩

/-- The set of one character. -/
def single (c : Char) : CodeSet :=
  between c c

/-- The last code point. -/
def last : Nat :=
  0x10FFFF

/-- The set of all characters. -/
def all : CodeSet :=
  ⟨[(0, last)]⟩

/-- What lies between ranges, from `start` on. -/
def gaps (start : Nat) : List (Nat × Nat) → List (Nat × Nat)
  | [] => if start ≤ last then [(start, last)] else []
  | (lo, hi) :: rest =>
    if start < lo then (start, lo - 1) :: gaps (hi + 1) rest else gaps (hi + 1) rest

/-- All other characters. -/
def compl (s : CodeSet) : CodeSet :=
  ⟨gaps 0 s.ranges⟩

/-- The characters of either set. -/
def union (s t : CodeSet) : CodeSet :=
  ofRanges (s.ranges ++ t.ranges)

/-- The characters of both sets. -/
def inter (s t : CodeSet) : CodeSet :=
  (s.compl.union t.compl).compl

/-- The characters of the first set that are not in the second. -/
def diff (s t : CodeSet) : CodeSet :=
  s.inter t.compl

/-- The characters of exactly one of the sets. -/
def symmDiff (s t : CodeSet) : CodeSet :=
  (s.union t).diff (s.inter t)

/-- All characters of the set are of ASCII. -/
def isAscii (s : CodeSet) : Bool :=
  s.ranges.all fun r => r.2 < 128

/-- The only character of the set. -/
def only? (s : CodeSet) : Option Nat :=
  match s.ranges with
  | [(lo, hi)] => if lo = hi then some lo else none
  | _ => none

end CodeSet

end Intake.Text
