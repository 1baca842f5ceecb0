import Intake.Readable

/-!
# TOML values

Values with the types that TOML tells apart, and what they are to whoever reads them. A date or time
is its text, as the one entry of a table. A table of one entry with nothing in it is a choice, as a
text is, and an array gives members in their order.
-/

namespace Intake.Toml

/-- A value. -/
inductive Datum where
  | text (s : String)
  | bool (b : Bool)
  | int (i : Int)
  | float
  /-- A date, a time of day or both, as its text. -/
  | moment (s : String)
  | list (items : List Datum)
  | table (entries : List (String × Datum))
deriving Inhabited

namespace Datum

/-- A text. -/
def text? : Datum → Option String
  | text s => some s
  | _ => none

/-- A truth value. -/
def bool? : Datum → Option Bool
  | bool b => some b
  | _ => none

/-- A number of things. -/
def count? : Datum → Option Nat
  | int i => if 0 ≤ i ∧ i < UInt64.size then some i.toNat else none
  | _ => none

/-- The items of an array. -/
def items? : Datum → Option (List Datum)
  | list items => some items
  | _ => none

/-- The key of the one entry of a date or time. -/
def momentKey : String := "$__toml_private_datetime"

/-- The entries of a table. -/
def entries? : Datum → Option (List (String × Datum))
  | table entries => some entries
  | moment s => some [(momentKey, text s)]
  | _ => none

/-- The members of a table, or of an array in the order of their names. Further items of an array
are passed over. -/
def members? (names : List String) : Datum → Option (List (String × Datum))
  | list items => some (names.zip items)
  | d => d.entries?

/-- The name of a choice. -/
def choice? : Datum → Option String
  | text s => some s
  | table [(name, list [])] | table [(name, table [])] => some name
  | _ => none

/-- A list or a table. -/
def collection? : Datum → Option (Collection Datum)
  | list items => some (.list items)
  | d => d.entries?.map fun entries => .table (entries.map fun e => (.text e.1, e.2))

/-- An integer that fits 64 bits. Those that only fit without a sign are of another type. -/
def intContent? (i : Int) : Option Content :=
  let half : Int := UInt64.size / 2
  if -half ≤ i ∧ i < half then some (.int i)
  else if half ≤ i ∧ i < UInt64.size then some (.count i.toNat)
  else none

mutual

/-- The value with its type; none if an integer in it is too large. -/
def content? : Datum → Option Content
  | text s => some (.text s)
  | bool b => some (.bool b)
  | int i => intContent? i
  | float => some .float
  | moment s => some (.table [(.text momentKey, .text s)])
  | list items => (contentsOf? items).map .list
  | table entries => (entryContents? entries).map .table

/-- The values of items with their types. -/
def contentsOf? : List Datum → Option (List Content)
  | [] => some []
  | d :: rest => do return (← d.content?) :: (← contentsOf? rest)

/-- The values of entries with their types. -/
def entryContents? : List (String × Datum) → Option (List (Content × Content))
  | [] => some []
  | (key, d) :: rest => do return (.text key, ← d.content?) :: (← entryContents? rest)

end

instance : Readable Datum where
  text? := text?
  bool? := bool?
  count? := count?
  maybe? d := some (some d)
  items? := items?
  entries? := entries?
  members? := members?
  choice? := choice?
  collection? := collection?
  content? := content?

end Datum

end Intake.Toml
