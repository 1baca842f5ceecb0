/-!
# UTF-8

Bytes read as text. A sequence that is no character is cut at the first byte that rules it out.

* `decodeLossy`: each such cut becomes one replacement character.
* `decode`: the first such cut is an error that says where it stands.
-/

namespace Intake.Text.Utf8

/-- What stands at the start of some bytes. -/
inductive Step where
  /-- A character of `width` bytes. -/
  | char (c : Char) (width : Nat)
  /-- `width` bytes that no character starts with, together with the byte after them. -/
  | invalid (width : Nat)
  /-- The bytes end inside a character. -/
  | cut

/-- The bytes allowed after the first byte of a character, and how many bytes it has. -/
def lead? (b : Nat) : Option (Nat × Nat × Nat) :=
  if 0xC2 ≤ b ∧ b ≤ 0xDF then some (2, 0x80, 0xBF)
  else if b = 0xE0 then some (3, 0xA0, 0xBF)
  else if b = 0xED then some (3, 0x80, 0x9F)
  else if 0xE1 ≤ b ∧ b ≤ 0xEF then some (3, 0x80, 0xBF)
  else if b = 0xF0 then some (4, 0x90, 0xBF)
  else if 0xF1 ≤ b ∧ b ≤ 0xF3 then some (4, 0x80, 0xBF)
  else if b = 0xF4 then some (4, 0x80, 0x8F)
  else none

/-- Reads the bytes after the first one: `owed` of them, the next between `lo` and `hi`. -/
def continuation (lo hi value width : Nat) : (owed : Nat) → List UInt8 → Step
  | 0, _ => .char (Char.ofNat value) width
  | _ + 1, [] => .cut
  | owed + 1, b :: rest =>
    if lo ≤ b.toNat ∧ b.toNat ≤ hi then
      continuation 0x80 0xBF (value * 64 + b.toNat % 64) (width + 1) owed rest
    else .invalid width

/-- What the bytes start with, the first byte given apart. -/
def step (b : UInt8) (rest : List UInt8) : Step :=
  let n := b.toNat
  if n < 0x80 then .char (Char.ofNat n) 1
  else match lead? n with
    | none => .invalid 1
    | some (width, lo, hi) =>
      let bits := if width = 2 then n % 32 else if width = 3 then n % 16 else n % 8
      continuation lo hi bits 1 (width - 1) rest

/-- The replacement character. -/
def replacement : Char := Char.ofNat 0xFFFD

/-- Reads on after passing over `skip` bytes of a character that was read already. -/
def decodeLossyFrom : (skip : Nat) → List UInt8 → List Char
  | _, [] => []
  | skip + 1, _ :: rest => decodeLossyFrom skip rest
  | 0, b :: rest =>
    match step b rest with
    | .char c width => c :: decodeLossyFrom (width - 1) rest
    | .invalid width => replacement :: decodeLossyFrom (width - 1) rest
    | .cut => [replacement]

/-- The text of some bytes, each cut replaced. -/
def decodeLossy (bytes : List UInt8) : String :=
  String.ofList (decodeLossyFrom 0 bytes)

/-- Bytes that are no text: where the first cut stands, and its width unless the bytes end there. -/
structure DecodeError where
  index : Nat
  width : Option Nat
deriving DecidableEq, Repr

/-- The error in words. -/
def DecodeError.message (e : DecodeError) : String :=
  match e.width with
  | some n => s!"invalid utf-8 sequence of {n} bytes from index {e.index}"
  | none => s!"incomplete utf-8 byte sequence from index {e.index}"

/-- Reads on at `index`, after passing over `skip` bytes. -/
def decodeFrom : (skip index : Nat) → List UInt8 → Except DecodeError (List Char)
  | _, _, [] => .ok []
  | skip + 1, index, _ :: rest => decodeFrom skip (index + 1) rest
  | 0, index, b :: rest =>
    match step b rest with
    | .char c width => (decodeFrom (width - 1) (index + 1) rest).map (c :: ·)
    | .invalid width => .error ⟨index, some width⟩
    | .cut => .error ⟨index, none⟩

/-- The text of some bytes, which must be UTF-8 throughout. -/
def decode (bytes : List UInt8) : Except DecodeError String :=
  (decodeFrom 0 0 bytes).map String.ofList

/-- The bytes of a text. -/
def encode (s : String) : List UInt8 :=
  s.toUTF8.toList

end Intake.Text.Utf8
