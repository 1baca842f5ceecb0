import Intake.Keyed

/-!
# JSON documents

Documents with members in key order. A number is an integer of 64 bits, signed or not, or else a
binary64 number.
-/

namespace Intake

/-- A JSON document. -/
inductive Json where
  | null
  | bool (b : Bool)
  | int (i : Int)
  | float (x : Float)
  | str (s : String)
  | arr (items : List Json)
  | obj (members : List (String × Json))
deriving Inhabited

namespace Json

/-- The value that stands for no value. -/
def isNull : Json → Bool
  | null => true
  | _ => false

/-- A text, or null. -/
def ofText? (s : Option String) : Json := s.elim .null .str

/-- A truth value, or null. -/
def ofBool? (b : Option Bool) : Json := b.elim .null .bool

end Json

end Intake
