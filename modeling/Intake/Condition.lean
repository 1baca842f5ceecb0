import Intake.Record.Basic
import Intake.Transform

/-!
# Conditions and filters

Tests on texts, and the filters built from them: on the value of one locator and on a whole record.
A missing value matches no condition.

* `ValueFilter.excludes`: whether a filter excludes a value.
* `RecordFilter.excludes`: whether a filter excludes a record.
-/

namespace Intake

/-- How a text is compared. -/
inductive Modifier where
  | exact | contains | startsWith | endsWith | regex
deriving DecidableEq, Repr

/-- The name of a modifier. -/
def Modifier.name : Modifier → String
  | exact => "exact"
  | contains => "contains"
  | startsWith => "startswith"
  | endsWith => "endswith"
  | regex => "regex"

/-- All modifiers. -/
def Modifier.all : List Modifier := [exact, contains, startsWith, endsWith, regex]

/-- The modifier of this name. -/
def Modifier.ofName? (s : String) : Option Modifier := all.find? fun m => m.name == s

/-- What happens to what a filter matches. -/
inductive Handling where
  | include
  | exclude
deriving DecidableEq, Repr

/-- The name of a handling. -/
def Handling.name : Handling → String
  | .include => "include"
  | exclude => "exclude"

/-- The verdict on something that matches or not: true excludes it. -/
def Handling.excludes : Handling → (matched : Bool) → Bool
  | .include, matched => !matched
  | exclude, matched => matched

/-- A test on texts. -/
inductive Condition where
  | exact (s : String)
  | contains (s : String)
  | startsWith (s : String)
  | endsWith (s : String)
  | regex (pattern : Regex.Compiled)

namespace Condition

/-- The list `part` stands somewhere in the list `whole`. -/
def isInfixOf (part : List Char) : (whole : List Char) → Bool
  | [] => part.isEmpty
  | c :: rest => part.isPrefixOf (c :: rest) || isInfixOf part rest

/-- The condition of a modifier and a text; the text may be no regular expression. -/
def compile (m : Modifier) (s : String) : Except Failure Condition :=
  match m with
  | .exact => .ok (exact s)
  | .contains => .ok (contains s)
  | .startsWith => .ok (startsWith s)
  | .endsWith => .ok (endsWith s)
  | .regex => ((Regex.compile s).mapError .pattern).map regex

/-- The text satisfies the condition. -/
def holds : Condition → String → Bool
  | exact s, t => t == s
  | contains s, t => isInfixOf s.toList t.toList
  | startsWith s, t => s.toList.isPrefixOf t.toList
  | endsWith s, t => s.toList.isSuffixOf t.toList
  | regex pattern, t => pattern.isMatch t

end Condition

/-- A filter on the value of a locator. -/
inductive ValueFilter where
  | condition (name : String) (handling : Handling) (condition : Condition)
  /-- A test given from outside, with the fields that it reads; true excludes. -/
  | custom (name : String) (references : List String)
      (run : Option Value → Bindings → Except String Bool)

namespace ValueFilter

/-- A filter of one condition. -/
def ofCondition (h : Handling) (m : Modifier) (s : String) : Except Failure ValueFilter :=
  (Condition.compile m s).map fun c =>
    condition (Text.lower (h.name ++ ":" ++ m.name ++ ":" ++ s)) h c

/-- The name of a filter. -/
def name : ValueFilter → String
  | condition name _ _ => name
  | custom name _ _ => name

/-- The fields that a filter reads. -/
def references : ValueFilter → List String
  | condition _ _ _ => []
  | custom _ references _ => references

/-- The filter excludes the value. -/
def excludes (f : ValueFilter) (v : Option Value) (b : Bindings) : Except Failure Bool :=
  match f with
  | condition _ h c => .ok (h.excludes (v.any fun v => c.holds v.text))
  | custom name _ run => (run v b).mapError (.filter name)

end ValueFilter

/-- A condition on a field of a record. -/
structure FieldCondition where
  field : String
  condition : Condition

/-- A filter on records. -/
inductive RecordFilter where
  /-- All conditions have to hold for a match. -/
  | conditions (name : String) (handling : Handling) (conditions : List FieldCondition)
  /-- A test given from outside; true excludes. It learns how often it was asked before, counted
  under `counter`. -/
  | custom (name : String) (counter : Nat) (run : Nat → Record → Except String Bool)

namespace RecordFilter

/-- The name of a filter. -/
def name : RecordFilter → String
  | conditions name _ _ => name
  | custom name _ _ => name

/-- The record satisfies all conditions. -/
def matchesAll (conditions : List FieldCondition) (r : Record) : Bool :=
  conditions.all fun c => (r.get? c.field).any fun v => c.condition.holds v.text

/-- The filter excludes the record; `asked` says how often it was asked before. -/
def excludes (f : RecordFilter) (asked : Nat) (r : Record) : Except Failure Bool :=
  match f with
  | conditions _ h cs => .ok (h.excludes (matchesAll cs r))
  | custom name _ run => (run asked r).mapError (.filter name)

end RecordFilter

end Intake
