import Intake.Content
import Intake.Text.Hex
import Intake.Text.Number

/-!
# Plain YAML scalars

What a scalar without quotes stands for where its type is left open: nothing, a truth value, a
number, or the text itself.

* `Plain.content?`: the value of a plain scalar.
-/

namespace Intake.Yaml.Plain

/-- The scalar is a word for nothing. -/
def isNull (s : String) : Bool :=
  ["~", "null", "Null", "NULL"].contains s

/-- The truth value that a scalar stands for. -/
def bool? (s : String) : Option Bool :=
  match s with
  | "true" | "True" | "TRUE" => some true
  | "false" | "False" | "FALSE" => some false
  | _ => none

/-- Digits after a needless zero, which make a text and no number. -/
def isPadded (cs : List Char) : Bool :=
  match Text.withoutSign cs with
  | '0' :: rest => !rest.isEmpty && rest.all Text.isDigit
  | _ => false

/-- The number that digits of a base give, at least one. -/
def digits? (base : Nat) (cs : List Char) : Option Nat :=
  let digit? (c : Char) : Option Nat := (Text.Hex.value? c).filter (· < base)
  if cs.isEmpty then none else cs.foldlM (fun n c => (digit? c).map (n * base + ·)) 0

/-- The whole number, without its sign, that a scalar is in one of four bases. -/
def magnitude? (cs : List Char) : Option Nat :=
  match Text.withoutSign cs with
  | '0' :: 'x' :: rest => digits? 16 rest
  | '0' :: 'o' :: rest => digits? 8 rest
  | '0' :: 'b' :: rest => digits? 2 rest
  | rest => if isPadded cs then none else digits? 10 rest

/-- The characters are a name of infinity or of no number. -/
def isSpecial (cs : List Char) : Bool :=
  [".inf", ".Inf", ".INF", "+.inf", "+.Inf", "+.INF", "-.inf", "-.Inf", "-.INF", ".nan", ".NaN",
    ".NAN"].contains (String.ofList cs)

/-- The characters are a finite decimal number. -/
def isDecimal (cs : List Char) : Bool :=
  let rest := match cs with
    | '+' :: rest => rest
    | cs => cs
  !(cs.head? == some '+' && rest.head?.any (fun c => c == '+' || c == '-')) &&
    (Text.real? (String.ofList rest)).any fun x => !x.isInf && !x.isNaN

/-- The characters are a number, whole or not. -/
def isFloat (cs : List Char) : Bool :=
  isSpecial cs || isDecimal cs

/-- A whole number: none if it is none, or as large that it has to be taken for a float. -/
inductive Whole where
  | fits (c : Content)
  /-- It needs more than 64 bits, and no more than 128. -/
  | wide

/-- The whole number that a scalar is. -/
def whole? (cs : List Char) : Option Whole :=
  let half := UInt64.size / 2
  (magnitude? cs).bind fun n =>
    if cs.head? == some '-' then
      if n ≤ half then some (.fits (.int (-(n : Int))))
      else if n ≤ half * UInt64.size then some .wide
      else none
    else if n < UInt64.size then some (.fits (.count n))
    else if n < UInt64.size * UInt64.size then some .wide
    else none

/-- The value of a scalar; none if it is a whole number that is too large. -/
def content? (s : String) : Option Content :=
  let cs := s.toList
  if s.isEmpty || isNull s then some .null
  else
    match bool? s, whole? cs with
    | some b, _ => some (.bool b)
    | none, some (.fits c) => some c
    | none, some .wide => none
    | none, none => some (if !isPadded cs && isFloat cs then .float else .text s)

end Intake.Yaml.Plain
