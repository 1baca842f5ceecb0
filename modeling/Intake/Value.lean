import Intake.Instant
import Intake.Keyed
import Intake.Text.Number
import Intake.Text.Utf8
import Intake.Decimal.Layout

/-!
# Values

What locators find in raw data and what fields of a record hold. That nothing was found is `none`
of `Option Value`.

* `Value.text`: every value as text.
* `Value.toInt?`, `Value.toReal?`: the numbers that values stand for.
* `Value.simplify`: a list of findings as one value.
-/

namespace Intake

/-- A value. The keys of a map increase. -/
inductive Value where
  | bool (b : Bool)
  | int (i : Int64)
  | float (x : Float)
  | str (s : String)
  | bytes (bs : List UInt8)
  | instant (t : Instant)
  | list (items : List Value)
  | map (entries : List (String × Value))
deriving Inhabited

namespace Value

mutual

/-- The value as text: lists in brackets, maps in braces, bytes as UTF-8. -/
def text : Value → String
  | bool b => if b then "true" else "false"
  | int i => toString i.toInt
  | float x => Decimal.plainText x
  | str s => s
  | bytes bs => Text.Utf8.decodeLossy bs
  | instant t => t.text
  | list items => "[" ++ String.intercalate ", " (texts items) ++ "]"
  | map entries => "\x7b" ++ String.intercalate ", " (entryTexts entries) ++ "\x7d"

/-- The elements of a list as texts. -/
def texts : List Value → List String
  | [] => []
  | v :: rest => text v :: texts rest

/-- The entries of a map as texts. -/
def entryTexts : List (String × Value) → List String
  | [] => []
  | (key, v) :: rest => (key ++ "=" ++ text v) :: entryTexts rest

end

/-- The characters of a text value. -/
def str? : Value → Option String
  | str s => some s
  | _ => none

/-- The float has no fraction and is finite. -/
def isWhole (x : Float) : Bool :=
  x - (if x < 0 then x.ceil else x.floor) == 0

/-- The 64-bit integer nearest to the whole part of a float; zero for no number. -/
def truncate (x : Float) : Int64 :=
  x.toInt64

/-- The integer that the value stands for. -/
def toInt? : Value → Option Int64
  | int i => some i
  | float x => if isWhole x then some (truncate x) else none
  | str s => Text.int64? (Text.trim s)
  | bool b => some (if b then 1 else 0)
  | _ => none

/-- The real number that the value stands for. -/
def toReal? : Value → Option Float
  | int i => some i.toFloat
  | float x => some x
  | str s => Text.real? (Text.trim s)
  | _ => none

/-- The value is an integer or a float. -/
def isNumber : Value → Bool
  | int _ | float _ => true
  | _ => false

/-- The value is a list or a map. -/
def isIterable : Value → Bool
  | list _ | map _ => true
  | _ => false

mutual

/-- The value holds nothing: a blank text, no bytes, an empty map, or a list of such values. -/
def isBlank : Value → Bool
  | str s => Text.isBlankText s
  | bytes bs => bs.isEmpty
  | list items => allBlank items
  | map entries => entries.isEmpty
  | _ => false

/-- All of the values hold nothing. -/
def allBlank : List Value → Bool
  | [] => true
  | v :: rest => isBlank v && allBlank rest

end

/-- The elements of a list, the entries of a map without their keys, or the value itself. -/
def items : Value → List Value
  | list vs => vs
  | map entries => Keyed.values entries
  | v => [v]

/-- Findings as one value: none if nothing was found, a single finding as it is, and otherwise a
list with an empty text for each finding that is none. -/
def simplify (found : List (Option Value)) : Option Value :=
  if found.all Option.isNone then none
  else match found with
    | [v] => v
    | vs => some (list (vs.map fun v => v.getD (str "")))

mutual

/-- Equality. A float that is not a number equals nothing, itself included, and the two zeros are
equal. -/
def same : Value → Value → Bool
  | bool a, bool b => a == b
  | int a, int b => a == b
  | float a, float b => a == b
  | str a, str b => a == b
  | bytes a, bytes b => a == b
  | instant a, instant b => a == b
  | list a, list b => sameItems a b
  | map a, map b => sameEntries a b
  | _, _ => false

/-- Equality of lists of values. -/
def sameItems : List Value → List Value → Bool
  | [], [] => true
  | a :: as, b :: bs => same a b && sameItems as bs
  | _, _ => false

/-- Equality of entries of maps. -/
def sameEntries : List (String × Value) → List (String × Value) → Bool
  | [], [] => true
  | (k, a) :: as, (l, b) :: bs => k == l && same a b && sameEntries as bs
  | _, _ => false

end

/-- Equality of values that may be missing. -/
def sameOption : Option Value → Option Value → Bool
  | none, none => true
  | some a, some b => same a b
  | _, _ => false

end Value

end Intake
