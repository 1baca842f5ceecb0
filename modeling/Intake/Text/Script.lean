import Intake.Text.Category
import Intake.Text.Script.Table

/-!
# Scripts

The script that a character is written in. Some characters belong to several, or to none in
particular.

* `named?`: the characters of a script by one of its names, which are in small letters here and
  without separators.
* `extended?`: the characters that texts in a script use.
-/

namespace Intake.Text.Script

/-- The code of the script of this name. -/
def code? (name : String) : Option String :=
  (names.find? (·.contains name)).bind (·.head?)

/-- What lies between the start of the script and the next start, as often as it is listed. -/
def stretches (code : String) : List (Nat × String) → List (Nat × Nat)
  | [] => []
  | (lo, owner) :: rest =>
    let hi := match rest with
      | [] => CodeSet.last
      | (next, _) :: _ => next - 1
    if owner = code then (lo, hi) :: stretches code rest else stretches code rest

/-- The characters of a script by its code. Those not assigned belong to none, nor do those for
private use. -/
def set (code : String) : CodeSet :=
  ((CodeSet.mk (stretches code starts)).inter Category.assigned).diff (Category.set [.co])

/-- The characters that texts in a script use, by its code. -/
def extendedSet (code : String) : CodeSet :=
  let elsewhere := CodeSet.ofRanges (shared.map fun (lo, hi, _) => (lo, hi))
  let here := shared.filter fun (_, _, codes) => codes.contains code
  ((set code).diff elsewhere).union (CodeSet.ofRanges (here.map fun (lo, hi, _) => (lo, hi)))

/-- The characters of a script. -/
def named? (name : String) : Option CodeSet :=
  (code? name).map set

/-- The characters that texts in a script use. -/
def extended? (name : String) : Option CodeSet :=
  (code? name).map extendedSet

end Intake.Text.Script
