import Intake.Text.Category.Table
import Intake.Text.CodeSet

/-!
# General categories

What kind of character a code point is. A category has a name of two letters, the first of which
stands for the group that it belongs to.

* `assigned`: the characters that have a category.
* `named?`: the characters of a category or group by its name, which is in small letters here and
  without separators.
-/

namespace Intake.Text

/-- The categories of characters. Surrogates are none, and other code points are not assigned. -/
inductive Category where
  | lu | ll | lt | lm | lo
  | mn | mc | me
  | nd | nl | no
  | pc | pd | ps | pe | pi | pf | po
  | sm | sc | sk | so
  | zs | zl | zp
  | cc | cf | co
deriving DecidableEq, Repr

namespace Category

/-- Every second code point of the stretches, from their start or from the one behind it. -/
def everySecond (behind : Nat) (stretches : List (Nat × Nat)) : List (Nat × Nat) :=
  stretches.flatMap fun (first, last) =>
    (List.range ((last + 1 - first) / 2)).map fun i =>
      (first + 2 * i + behind, first + 2 * i + behind)

/-- The code points of a category. -/
def ranges : Category → List (Nat × Nat)
  | lu => everySecond 0 caseRuns ++ luRanges
  | ll => everySecond 1 caseRuns ++ llRanges
  | lt => ltRanges
  | lm => lmRanges
  | lo => loRanges
  | mn => mnRanges
  | mc => mcRanges
  | me => meRanges
  | nd => ndRanges
  | nl => nlRanges
  | no => noRanges
  | pc => pcRanges
  | pd => pdRanges
  | ps => psRanges
  | pe => peRanges
  | pi => piRanges
  | pf => pfRanges
  | po => poRanges
  | sm => smRanges
  | sc => scRanges
  | sk => skRanges
  | so => soRanges
  | zs => zsRanges
  | zl => zlRanges
  | zp => zpRanges
  | cc => ccRanges
  | cf => cfRanges
  | co => coRanges

/-- The characters of some categories. -/
def set (categories : List Category) : CodeSet :=
  CodeSet.ofRanges (categories.flatMap ranges)

/-- The categories and the groups of them that have names. Other characters, which include those
that are not assigned, are none of these. -/
def groups : List (List String × List Category) :=
  [(["l", "letter"], [lu, ll, lt, lm, lo]), (["lc", "casedletter"], [lu, ll, lt]),
    (["lu", "uppercaseletter"], [lu]), (["ll", "lowercaseletter"], [ll]),
    (["lt", "titlecaseletter"], [lt]), (["lm", "modifierletter"], [lm]),
    (["lo", "otherletter"], [lo]), (["m", "mark", "combiningmark"], [mn, mc, me]),
    (["mn", "nonspacingmark"], [mn]), (["mc", "spacingmark"], [mc]),
    (["me", "enclosingmark"], [me]), (["n", "number"], [nd, nl, no]),
    (["nd", "decimalnumber", "digit"], [nd]), (["nl", "letternumber"], [nl]),
    (["no", "othernumber"], [no]),
    (["p", "punctuation", "punct"], [pc, pd, ps, pe, pi, pf, po]),
    (["pc", "connectorpunctuation"], [pc]), (["pd", "dashpunctuation"], [pd]),
    (["ps", "openpunctuation"], [ps]), (["pe", "closepunctuation"], [pe]),
    (["pi", "initialpunctuation"], [pi]), (["pf", "finalpunctuation"], [pf]),
    (["po", "otherpunctuation"], [po]), (["s", "symbol"], [sm, sc, sk, so]),
    (["sm", "mathsymbol"], [sm]), (["sc", "currencysymbol"], [sc]),
    (["sk", "modifiersymbol"], [sk]), (["so", "othersymbol"], [so]),
    (["z", "separator"], [zs, zl, zp]), (["zs", "spaceseparator"], [zs]),
    (["zl", "lineseparator"], [zl]), (["zp", "paragraphseparator"], [zp]),
    (["cc", "control", "cntrl"], [cc]), (["cf", "format"], [cf]),
    (["co", "privateuse"], [co])]

/-- The characters that have a category. -/
def assigned : CodeSet :=
  set (groups.flatMap (·.2))

/-- The characters of a category or group. -/
def named? : String → Option CodeSet
  | "any" => some .all
  | "ascii" => some ⟨[(0, 0x7F)]⟩
  | "assigned" => some assigned
  | "cn" | "unassigned" => some assigned.compl
  | "c" | "other" => some (assigned.compl.union (set [cc, cf, co]))
  | name => (groups.find? fun g => g.1.contains name).map fun g => set g.2

end Category

end Intake.Text
