import Intake.Text.Casing.Table
import Intake.Text.CodeSet

/-!
# Letter case

Full case mapping of texts, in which one letter may become several and a sigma at the end of a word
has a form of its own, and the equivalence of letters that differ only in case.
-/

namespace Intake.Text

namespace Casing

/-- The run maps this code point. -/
def Run.covers (r : Run) (n : Nat) : Bool :=
  r.first ≤ n && n ≤ r.last && (n - r.first) % r.step == 0

/-- The image of a code point under runs; one that no run maps stays. -/
def image (runs : List Run) (n : Nat) : Nat :=
  match runs.find? (·.covers n) with
  | some r => r.target + (n - r.first)
  | none => n

/-- The code points that runs map to `n`. -/
def preimages (runs : List Run) (n : Nat) : List Nat :=
  runs.filterMap fun r =>
    let m := r.first + (n - r.target)
    if r.target ≤ n && r.covers m then some m else none

/-- The code points of a run, each with its image. -/
def Run.pairs (r : Run) : List (Nat × Nat) :=
  (List.range ((r.last - r.first) / r.step + 1)).map fun i =>
    (r.first + r.step * i, r.target + r.step * i)

/-- The character has a case. -/
def isCased (c : Char) : Bool :=
  CodeSet.inRanges casedRanges c.toNat

/-- The character is passed over when the end of a word is looked for. -/
def isIgnorable (c : Char) : Bool :=
  CodeSet.inRanges ignorableRanges c.toNat

/-- The upper-case form of one code point, itself if its form is longer. -/
def simpleUpper (n : Nat) : Nat :=
  image upperRuns n

/-- The lower-case form of one code point, itself if its form is longer. -/
def simpleLower (n : Nat) : Nat :=
  image lowerRuns n

end Casing

open Casing

/-- The upper-case form of a character. -/
def upperChar (c : Char) : List Char :=
  if c.toNat < 128 then [c.toUpper]
  else match upperExpansions.find? (·.1 == c.toNat) with
    | some e => e.2.map Char.ofNat
    | none => [Char.ofNat (simpleUpper c.toNat)]

/-- The lower-case form of a character that is not the last sigma of a word. -/
def lowerChar (c : Char) : List Char :=
  if c.toNat < 128 then [c.toLower]
  else if c.toNat = 0x130 then ['i', Char.ofNat 0x307]
  else [Char.ofNat (simpleLower c.toNat)]

/-- The first character that is not passed over has a case. -/
def nextIsCased (cs : List Char) : Bool :=
  ((cs.dropWhile isIgnorable).head?.map isCased).getD false

/-- Lower case of the rest of a text; `before` holds what stands before it, last character first. -/
def lowerFrom (before : List Char) : List Char → List Char
  | [] => []
  | c :: rest =>
    if c = 'Σ' then
      (if nextIsCased before && !nextIsCased rest then 'ς' else 'σ') :: lowerFrom (c :: before) rest
    else lowerChar c ++ lowerFrom (c :: before) rest

/-- The text in upper case. -/
def upper (s : String) : String :=
  String.ofList (s.toList.flatMap upperChar)

/-- The text in lower case. -/
def lower (s : String) : String :=
  String.ofList (lowerFrom [] s.toList)

/-- The one that stands for all code points that differ from this one only in case. -/
def foldCase (n : Nat) : Nat :=
  image foldRuns n

/-- All code points that differ from `n` at most in case. -/
def caseVariants (n : Nat) : List Nat :=
  foldCase n :: preimages foldRuns (foldCase n)

end Intake.Text
