/-!
# Base 64

Bytes written as characters of six bits, in groups of four, the last group padded with equals
signs. The padding is required, and the bits that it leaves over must be zero.
-/

namespace Intake.Text.Base64

/-- The six bits of a character. -/
def digit? (b : UInt8) : Option Nat :=
  let n := b.toNat
  if 65 ≤ n ∧ n ≤ 90 then some (n - 65)
  else if 97 ≤ n ∧ n ≤ 122 then some (n - 71)
  else if 48 ≤ n ∧ n ≤ 57 then some (n + 4)
  else if n = 43 then some 62
  else if n = 47 then some 63
  else none

/-- The padding character. -/
def pad : UInt8 := 61

/-- The bytes of the groups, or nothing if a group is no base 64. Only the last may be padded. -/
def decode : List UInt8 → Option (List UInt8)
  | [] => some []
  | a :: b :: c :: d :: rest => do
    let x ← digit? a
    let y ← digit? b
    let first := UInt8.ofNat (x * 4 + y / 16)
    if c = pad then
      if d = pad && rest.isEmpty && y % 16 = 0 then some [first] else none
    else
      let z ← digit? c
      let second := UInt8.ofNat (y % 16 * 16 + z / 4)
      if d = pad then
        if rest.isEmpty && z % 4 = 0 then some [first, second] else none
      else
        let w ← digit? d
        let third := UInt8.ofNat (z % 4 * 64 + w)
        (decode rest).map fun bytes => first :: second :: third :: bytes
  | _ => none

/-- The character of six bits. -/
def digitChar (n : Nat) : Char :=
  if n < 26 then Char.ofNat (65 + n)
  else if n < 52 then Char.ofNat (71 + n)
  else if n < 62 then Char.ofNat (n - 4)
  else if n = 62 then '+'
  else '/'

/-- The characters of some bytes. -/
def encodeChars : List UInt8 → List Char
  | [] => []
  | [a] => [digitChar (a.toNat / 4), digitChar (a.toNat % 4 * 16), '=', '=']
  | [a, b] =>
    [digitChar (a.toNat / 4), digitChar (a.toNat % 4 * 16 + b.toNat / 16),
      digitChar (b.toNat % 16 * 4), '=']
  | a :: b :: c :: rest =>
    digitChar (a.toNat / 4) :: digitChar (a.toNat % 4 * 16 + b.toNat / 16) ::
      digitChar (b.toNat % 16 * 4 + c.toNat / 64) :: digitChar (c.toNat % 64) :: encodeChars rest

/-- The text of some bytes. -/
def encode (bytes : List UInt8) : String :=
  String.ofList (encodeChars bytes)

end Intake.Text.Base64
