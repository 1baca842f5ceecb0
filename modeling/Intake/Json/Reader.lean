import Intake.Json.Basic
import Intake.Text.Hex
import Intake.Text.Number

/-!
# Reading JSON

The strict grammar: one value with blanks around it, no trailing commas, no leading zeros, at most
127 arrays and objects inside each other. Of two members with one key the later stays. Half a
surrogate pair is an error.

An integer that fits 64 bits is kept exactly. Any other number is its leading digits, as many as 64
bits hold, scaled by a power of ten in binary64 arithmetic; one that is too large is an error.
-/

namespace Intake.Json

/-- The blanks between the parts of a document. -/
def isBlank (c : Char) : Bool :=
  c == ' ' || c == '\n' || c == '\t' || c == '\r'

/-- Passes over blanks. -/
def skip (cs : List Char) : List Char :=
  cs.dropWhile isBlank

/-- Four hexadecimal digits. -/
def hex4? : List Char → Option (Nat × List Char)
  | a :: b :: c :: d :: rest => (Text.Hex.number? [a, b, c, d]).map (·, rest)
  | _ => none

/-- The character after `\u`, from one escape or two. -/
def unicodeEscape? (cs : List Char) : Option (Char × List Char) := do
  let (n, rest) ← hex4? cs
  if 0xDC00 ≤ n ∧ n ≤ 0xDFFF then none
  else if 0xD800 ≤ n ∧ n ≤ 0xDBFF then
    match rest with
    | '\\' :: 'u' :: more => do
      let (m, rest) ← hex4? more
      if 0xDC00 ≤ m ∧ m ≤ 0xDFFF then
        some (Char.ofNat (0x10000 + (n - 0xD800) * 1024 + (m - 0xDC00)), rest)
      else none
    | _ => none
  else some (Char.ofNat n, rest)

/-- The character that a letter after a backslash stands for. -/
def escape? : Char → Option Char
  | '"' => some '"'
  | '\\' => some '\\'
  | '/' => some '/'
  | 'b' => some '\x08'
  | 'f' => some '\x0c'
  | 'n' => some '\n'
  | 'r' => some '\r'
  | 't' => some '\t'
  | _ => none

/-- A string after its opening quote; `acc` holds its characters so far, last first. -/
def string? (acc : List Char) : (fuel : Nat) → List Char → Option (String × List Char)
  | 0, _ => none
  | _ + 1, [] => none
  | fuel + 1, c :: rest =>
    if c = '"' then some (String.ofList acc.reverse, rest)
    else if c.toNat < 0x20 then none
    else if c = '\\' then
      match rest with
      | 'u' :: more => do
        let (d, rest) ← unicodeEscape? more
        string? (d :: acc) fuel rest
      | e :: more => do
        let d ← escape? e
        string? (d :: acc) fuel more
      | [] => none
    else string? (c :: acc) fuel rest

/-- Greatest 64-bit number. -/
def maxWord : Nat := UInt64.size - 1

/-- Adds leading digits to a number while it fits a 64-bit word, and counts the others. -/
def leadingDigits (n : Nat) : List Char → Nat × Nat
  | [] => (n, 0)
  | c :: rest =>
    let m := 10 * n + Text.digitValue c
    if m ≤ maxWord then leadingDigits m rest else (n, rest.length + 1)

/-- Ten to the `k` in binary64. -/
def tenTo (k : Nat) : Float :=
  Float.ofBits (Decimal.nearestBits 1 k)

/-- Divides by ten to the 308 until the rest of the exponent is in reach, then by the rest. -/
def scaleDown (x : Float) : (fuel exponent : Nat) → Float
  | 0, _ => 0
  | fuel + 1, exponent =>
    if exponent ≤ 308 then x / tenTo exponent
    else if x == 0 then x
    else scaleDown (x / tenTo 308) fuel (exponent - 308)

/-- A word scaled by a power of ten in binary64 arithmetic; nothing if it is too large. -/
def scaled? (n : Nat) (exponent : Int) : Option Float :=
  let x := (UInt64.ofNat n).toFloat
  match exponent with
  | .ofNat k =>
    if k ≤ 308 then
      let y := x * tenTo k
      if y.isInf then none else some y
    else if n = 0 then some x
    else none
  | .negSucc k => some (scaleDown x 8 (k + 1))

/-- An exponent: sign and digits. -/
def exponent? (cs : List Char) : Option (Int × List Char) :=
  let (negative, cs) := match cs with
    | '+' :: rest => (false, rest)
    | '-' :: rest => (true, rest)
    | cs => (false, cs)
  let digits := cs.takeWhile Text.isDigit
  if digits.isEmpty then none
  else
    let n : Int := Text.digitsValue digits
    some (if negative then -n else n, cs.dropWhile Text.isDigit)

/-- A number without its sign. -/
def number? (negative : Bool) (cs : List Char) : Option (Json × List Char) := do
  let whole := cs.takeWhile Text.isDigit
  let rest := cs.dropWhile Text.isDigit
  if whole.isEmpty then none
  if whole.head? = some '0' ∧ whole.length > 1 then none
  let (n, cut) := leadingDigits 0 whole
  let (fraction, rest) ← match rest with
    | '.' :: more =>
      let digits := more.takeWhile Text.isDigit
      if digits.isEmpty then none else some (digits, more.dropWhile Text.isDigit)
    | rest => some ([], rest)
  let (m, cutFraction) := leadingDigits n fraction
  let point : Int := (cut : Int) - ((fraction.length - cutFraction : Nat) : Int)
  let hasExponent := match rest with
    | c :: _ => c == 'e' || c == 'E'
    | [] => false
  if fraction.isEmpty && !hasExponent && cut = 0 then
    if negative then
      if n = 0 ∨ n > minInt64.natAbs then some (.float (-(UInt64.ofNat n).toFloat), rest)
      else some (.int (-(n : Int)), rest)
    else some (.int n, rest)
  else
    let (e, rest) ← if hasExponent then exponent? (rest.drop 1) else some (0, rest)
    -- an exponent beyond 32 bits decides the number by its sign alone
    let x ←
      if e > 2147483647 then if m = 0 then some 0 else none
      else if e < -2147483647 then some 0
      else scaled? m (point + e)
    some (.float (if negative then -x else x), rest)

mutual

/-- A value with no blanks before it, inside fewer than `depth` arrays and objects. -/
def value? (fuel depth : Nat) (cs : List Char) : Option (Json × List Char) :=
  match fuel with
  | 0 => none
  | fuel + 1 =>
    match cs with
    | 'n' :: 'u' :: 'l' :: 'l' :: rest => some (.null, rest)
    | 't' :: 'r' :: 'u' :: 'e' :: rest => some (.bool true, rest)
    | 'f' :: 'a' :: 'l' :: 's' :: 'e' :: rest => some (.bool false, rest)
    | '"' :: rest => (string? [] (rest.length + 1) rest).map fun r => (.str r.1, r.2)
    | '[' :: rest =>
      if depth ≤ 1 then none
      else match skip rest with
        | ']' :: rest => some (.arr [], rest)
        | rest => elements? fuel (depth - 1) [] rest
    | '{' :: rest =>
      if depth ≤ 1 then none
      else match skip rest with
        | '}' :: rest => some (.obj [], rest)
        | rest => members? fuel (depth - 1) [] rest
    | '-' :: rest => number? true rest
    | cs => number? false cs

/-- The elements of an array from the next one on; `acc` holds the earlier ones, last first. -/
def elements? (fuel depth : Nat) (acc : List Json) (cs : List Char) :
    Option (Json × List Char) :=
  match fuel with
  | 0 => none
  | fuel + 1 => do
    let (item, rest) ← value? fuel depth (skip cs)
    match skip rest with
    | ',' :: rest => elements? fuel depth (item :: acc) rest
    | ']' :: rest => some (.arr (item :: acc).reverse, rest)
    | _ => none

/-- The members of an object from the next one on. -/
def members? (fuel depth : Nat) (acc : List (String × Json)) (cs : List Char) :
    Option (Json × List Char) :=
  match fuel with
  | 0 => none
  | fuel + 1 =>
    match skip cs with
    | '"' :: rest => do
      let (key, rest) ← string? [] (rest.length + 1) rest
      match skip rest with
      | ':' :: rest => do
        let (item, rest) ← value? fuel depth (skip rest)
        let acc := Keyed.insert key item acc
        match skip rest with
        | ',' :: rest => members? fuel depth acc rest
        | '}' :: rest => some (.obj acc, rest)
        | _ => none
      | _ => none
    | _ => none

end

/-- The document that a text holds. -/
def parse? (text : String) : Option Json := do
  let cs := text.toList
  let (doc, rest) ← value? (2 * cs.length + 2) 128 (skip cs)
  if (skip rest).isEmpty then some doc else none

end Intake.Json
