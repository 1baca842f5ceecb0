/-!
# Hexadecimal digits

Digits in either case, the numbers they give, and bytes written as two digits each.

* `char?`: the character whose number is written in some width, as in the escapes of many formats.
* `decode`, `encode`: bytes and their digits. An odd number of digits is found before a character
  that is no digit.
-/

namespace Intake.Text.Hex

/-- The value of a character that is a digit. -/
def value? (c : Char) : Option Nat :=
  if '0' ≤ c ∧ c ≤ '9' then some (c.toNat - 48)
  else if 'a' ≤ c ∧ c ≤ 'f' then some (c.toNat - 87)
  else if 'A' ≤ c ∧ c ≤ 'F' then some (c.toNat - 55)
  else none

/-- The number that digits give. -/
def number? (cs : List Char) : Option Nat :=
  cs.foldlM (fun n c => (value? c).map (n * 16 + ·)) 0

/-- The character whose number the first `width` characters give. -/
def char? (width : Nat) (cs : List Char) : Option Char := do
  let n ← number? (cs.take width)
  if width ≤ cs.length ∧ n.isValidChar then some (Char.ofNat n) else none

/-- How many digits follow a letter in an escape. -/
def escapeWidth? : Char → Option Nat
  | 'x' => some 2
  | 'u' => some 4
  | 'U' => some 8
  | _ => none

/-- The value of a byte that is a digit. -/
def digit? (b : UInt8) : Option UInt8 :=
  if 48 ≤ b ∧ b ≤ 57 then some (b - 48)
  else if 97 ≤ b ∧ b ≤ 102 then some (b - 87)
  else if 65 ≤ b ∧ b ≤ 70 then some (b - 55)
  else none

/-- Why a text is no run of digits. -/
inductive DecodeError where
  | oddLength
  | invalid (byte : UInt8) (index : Nat)
deriving DecidableEq, Repr

/-- A byte as a character in quotes, with the escapes of a character literal. -/
def quoteByte (b : UInt8) : String :=
  let c := Char.ofNat b.toNat
  let body :=
    if c = '\'' then "\\'"
    else if c = '\\' then "\\\\"
    else if c = '\n' then "\\n"
    else if c = '\r' then "\\r"
    else if c = '\t' then "\\t"
    else if c.toNat = 0 then "\\0"
    else if c.toNat < 32 || (127 ≤ c.toNat && c.toNat < 160) || c.toNat = 0xAD then
      "\\u\x7b" ++ String.ofList (Nat.toDigits 16 c.toNat) ++ "\x7d"
    else String.singleton c
  "'" ++ body ++ "'"

/-- The error in words. -/
def DecodeError.message : DecodeError → String
  | .oddLength => "Odd number of digits"
  | .invalid b i => "Invalid character " ++ quoteByte b ++ " at position " ++ toString i

/-- Reads pairs of digits; the first stands at `index`. -/
def decodeFrom : (index : Nat) → List UInt8 → Except DecodeError (List UInt8)
  | _, [] => .ok []
  | _, [_] => .error .oddLength
  | index, a :: b :: rest =>
    match digit? a, digit? b with
    | some x, some y => (decodeFrom (index + 2) rest).map ((16 * x + y) :: ·)
    | none, _ => .error (.invalid a index)
    | some _, none => .error (.invalid b (index + 1))

/-- The bytes that the digits stand for. -/
def decode (s : String) : Except DecodeError (List UInt8) :=
  let digits := s.toUTF8.toList
  if digits.length % 2 = 1 then .error .oddLength else decodeFrom 0 digits

/-- A digit in lower case. -/
def digitChar (n : Nat) : Char :=
  if n < 10 then Char.ofNat (48 + n) else Char.ofNat (87 + n)

/-- The digits of some bytes, in lower case. -/
def encode (bytes : List UInt8) : String :=
  String.ofList (bytes.flatMap fun b => [digitChar (b.toNat / 16), digitChar (b.toNat % 16)])

end Intake.Text.Hex
