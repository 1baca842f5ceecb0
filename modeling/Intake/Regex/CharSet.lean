import Intake.Text.Trait

/-!
# Character classes

The sets of characters that expressions name. They are those of the Unicode standard in its last
edition but one, except the named classes in double brackets, which are of ASCII.

* `folded`: a set with all characters that differ from one of its own only in case.
-/

namespace Intake.Regex

open Intake.Text (Category CodeSet Trait)

/-- Characters that belong to words. -/
def wordSet : CodeSet :=
  (Trait.alphabetic.set.union (Category.set [.mn, .mc, .me, .nd, .pc])).union Trait.joinControl.set

/-- Decimal digits of all scripts. -/
def decimalSet : CodeSet :=
  Category.set [.nd]

/-- Characters with the White_Space property. -/
def blankSet : CodeSet :=
  Trait.whiteSpace.set

/-- A letter, digit or underscore of ASCII. -/
def isAsciiWord (c : Char) : Bool :=
  c.isAlphanum || c == '_'

/-- The character is part of a word. -/
def isWord (c : Char) : Bool :=
  if c.toNat < 128 then isAsciiWord c else wordSet.contains c

/-- A named class of ASCII. -/
inductive AsciiClass where
  | alnum | alpha | ascii | blank | cntrl | digit | graph | lower | print | punct | space | upper
  | word | xdigit
deriving DecidableEq, Repr

namespace AsciiClass

/-- The class of this name. -/
def ofName? : String → Option AsciiClass
  | "alnum" => some alnum
  | "alpha" => some alpha
  | "ascii" => some ascii
  | "blank" => some blank
  | "cntrl" => some cntrl
  | "digit" => some digit
  | "graph" => some graph
  | "lower" => some lower
  | "print" => some print
  | "punct" => some punct
  | "space" => some space
  | "upper" => some upper
  | "word" => some word
  | "xdigit" => some xdigit
  | _ => none

/-- The characters of the class. -/
def set : AsciiClass → CodeSet
  | alnum => ⟨[(0x30, 0x39), (0x41, 0x5A), (0x61, 0x7A)]⟩
  | alpha => ⟨[(0x41, 0x5A), (0x61, 0x7A)]⟩
  | ascii => ⟨[(0, 0x7F)]⟩
  | blank => ⟨[(9, 9), (0x20, 0x20)]⟩
  | cntrl => ⟨[(0, 0x1F), (0x7F, 0x7F)]⟩
  | digit => ⟨[(0x30, 0x39)]⟩
  | graph => ⟨[(0x21, 0x7E)]⟩
  | lower => ⟨[(0x61, 0x7A)]⟩
  | print => ⟨[(0x20, 0x7E)]⟩
  | punct => ⟨[(0x21, 0x2F), (0x3A, 0x40), (0x5B, 0x60), (0x7B, 0x7E)]⟩
  | space => ⟨[(9, 13), (0x20, 0x20)]⟩
  | upper => ⟨[(0x41, 0x5A)]⟩
  | word => ⟨[(0x30, 0x39), (0x41, 0x5A), (0x5F, 0x5F), (0x61, 0x7A)]⟩
  | xdigit => ⟨[(0x30, 0x39), (0x41, 0x46), (0x61, 0x66)]⟩

end AsciiClass

/-- Code points that are not the one that stands for them and their variants in case, each with that
one. -/
def foldPairs : List (Nat × Nat) :=
  Text.Casing.foldRuns.flatMap (·.pairs)

/-- The pairs among letters of ASCII. -/
def asciiFoldPairs : List (Nat × Nat) :=
  foldPairs.filter fun p => p.1 < 128 && p.2 < 128

/-- A set with the variants in case of its characters, by pairs of a variant and the one that stands
for it. -/
def foldedBy (pairs : List (Nat × Nat)) (s : CodeSet) : CodeSet :=
  let heads := (pairs.filter fun p => s.has p.1 || s.has p.2).map fun p => (p.2, p.2)
  let headSet := CodeSet.ofRanges heads
  let tails := (pairs.filter fun p => headSet.has p.2).map fun p => (p.1, p.1)
  CodeSet.ofRanges (s.ranges ++ heads ++ tails)

/-- A set with all characters that differ from one of its own only in case. -/
def folded (s : CodeSet) : CodeSet :=
  foldedBy foldPairs s

/-- A character with its variants in case. -/
def variantsOf (c : Char) : CodeSet :=
  CodeSet.ofRanges ((Text.caseVariants c.toNat).map fun n => (n, n))

end Intake.Regex
