/-!
# Contents

Values that have the type that their own text gives them, whatever a reader expects.
-/

namespace Intake

/-- A value with the type of its own text. -/
inductive Content where
  | null
  | bool (b : Bool)
  /-- A whole number without a minus sign. -/
  | count (n : Nat)
  /-- A whole number with a minus sign, or one of a format that has no others. -/
  | int (i : Int)
  /-- A number with a fraction or an exponent. -/
  | float
  | text (s : String)
  | list (items : List Content)
  /-- Entries in the order in which they were written. -/
  | table (entries : List (Content × Content))
deriving Inhabited, Repr

namespace Content

/-- A text. -/
def text? : Content → Option String
  | text s => some s
  | _ => none

/-- One of some names, given as a text or by its number. -/
def name? (names : List String) : Content → Option String
  | text s => some s
  | count n => names[n]?
  | _ => none

/-- The key of a member, given as a text or by the number of one of the names. A number that no name
has is the key of a member that nobody asks for. -/
def key? (names : List String) : Content → Option String
  | text s => some s
  | count n => some (names.getD n (toString n))
  | _ => none

end Content

end Intake
