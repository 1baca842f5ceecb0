import Intake.Text.LineEnd
import Intake.Toml.Scalar
import Intake.Toml.Table

/-!
# Reading TOML

Lines that set keys or open tables, with arrays and inline tables among the values.

* `Datum.ofText?`: the value of a text.
-/

namespace Intake.Toml

/-- The characters after a comment, if one stands at the start; none if it has a control
character. -/
def afterComment? (cs : List Char) : Option (List Char) :=
  match cs with
  | '#' :: rest =>
    if (rest.takeWhile (· != '\n')).any isControl then none
    else some (rest.dropWhile (· != '\n'))
  | cs => some cs

/-- The characters after blanks, line ends and comments. -/
def afterLines? : (fuel : Nat) → List Char → Option (List Char)
  | 0, _ => none
  | fuel + 1, cs => do
    match ← afterComment? (cs.dropWhile fun c => isBlank c || c == '\n') with
    | '\n' :: rest => afterLines? fuel rest
    | rest => some rest

/-- The characters of the next line, after blanks and a comment at the end of this one. -/
def lineEnd? (cs : List Char) : Option (List Char) := do
  match ← afterComment? (cs.dropWhile isBlank) with
  | '\n' :: rest => some rest
  | [] => some []
  | _ => none

mutual

/-- The value at the start, inside `depth` arrays and inline tables. -/
def value? : (fuel : Nat) → (depth : Nat) → List Char → Option (Datum × List Char)
  | 0, _, _ => none
  | fuel + 1, depth, cs =>
    match cs with
    | '"' :: _ | '\'' :: _ => (string? cs).map fun r => (.text (String.ofList r.1), r.2)
    | '[' :: rest =>
      if depth < maxDepth then (elements? fuel (depth + 1) [] rest).map fun r => (.list r.1, r.2)
      else none
    | '{' :: rest =>
      if depth < maxDepth then
        (inline? fuel (depth + 1) [] rest).map fun r => (.table (dataOf r.1), r.2)
      else none
    | cs => unquoted? cs

/-- The elements of an array up to its closing bracket. -/
def elements? : (fuel : Nat) → (depth : Nat) → (done : List Datum) → List Char →
    Option (List Datum × List Char)
  | 0, _, _, _ => none
  | fuel + 1, depth, done, cs => do
    match ← afterLines? (cs.length + 1) cs with
    | ']' :: rest => some (done.reverse, rest)
    | cs =>
      let (v, rest) ← value? fuel depth cs
      match ← afterLines? (rest.length + 1) rest with
      | ',' :: rest => elements? fuel depth (v :: done) rest
      | ']' :: rest => some ((v :: done).reverse, rest)
      | _ => none

/-- What an inline table holds, up to its closing brace. -/
def inline? : (fuel : Nat) → (depth : Nat) → (items : Items) → List Char →
    Option (Items × List Char)
  | 0, _, _, _ => none
  | fuel + 1, depth, items, cs => do
    match ← afterLines? (cs.length + 1) cs with
    | '}' :: rest => some (items, rest)
    | cs =>
      let (key, rest) ← key? cs
      match ← afterLines? (rest.length + 1) rest with
      | '=' :: rest =>
        let (v, rest) ← value? fuel depth (← afterLines? (rest.length + 1) rest)
        let items ← items.setAt key v
        match ← afterLines? (rest.length + 1) rest with
        | ',' :: rest => inline? fuel depth items rest
        | '}' :: rest => some (items, rest)
        | _ => none
      | _ => none

end

/-- Opens the table that a line names. -/
def opened? (items : Items) (path : List String) (element : Bool) : Option Items := do
  let key ← path.getLast?
  if element then items.openElement path.dropLast key else items.openTable path.dropLast key

/-- Reads lines; `current` is the path of the table that is open. -/
def lines? (items : Items) (current : List String) : (fuel : Nat) → List Char → Option Items
  | 0, _ => none
  | fuel + 1, cs => do
    match ← afterLines? (cs.length + 1) cs with
    | [] => some items
    | '[' :: '[' :: rest =>
      let (path, rest) ← key? rest
      match rest with
      | ']' :: ']' :: rest =>
        let items ← opened? items path true
        lines? items path fuel (← lineEnd? rest)
      | _ => none
    | '[' :: rest =>
      let (path, rest) ← key? rest
      match rest with
      | ']' :: rest =>
        let items ← opened? items path false
        lines? items path fuel (← lineEnd? rest)
      | _ => none
    | cs =>
      let (key, rest) ← key? cs
      match rest with
      | '=' :: rest =>
        let (v, rest) ← value? (2 * rest.length + 4) 0 (rest.dropWhile isBlank)
        let items ← items.changeAt current fun items => items.setAt key v
        lines? items current fuel (← lineEnd? rest)
      | _ => none

/-- The value of a text. -/
def Datum.ofText? (s : String) : Option Datum :=
  let cs := Text.withoutMark (Text.withLineFeeds s.toList)
  (lines? [] [] (cs.length + 1) cs).map fun items => .table (dataOf items)

end Intake.Toml
