import Intake.Toml.Datum

/-!
# TOML tables

Tables while a text is read, which remember how they came about: no table may be opened twice, and
none may grow from two sides.

* `Items.setAt`, `Items.openTable`, `Items.openElement`: what the lines of a text do.
-/

namespace Intake.Toml

/-- How a table came about. -/
inductive Origin where
  /-- The name of a table inside it was opened. -/
  | implied
  /-- A key with dots led through it. -/
  | dotted
  /-- Its own name was opened. -/
  | opened
deriving DecidableEq

/-- What stands under a key. -/
inductive Node where
  | value (d : Datum)
  | table (origin : Origin) (items : List (String × Node))
  /-- Tables opened one after the other under one name. -/
  | tables (elements : List (List (String × Node)))

/-- What a table holds. -/
abbrev Items := List (String × Node)

namespace Items

/-- What stands under a key. -/
def get? (items : Items) (key : String) : Option Node :=
  (items.find? fun e => e.1 == key).map (·.2)

/-- Puts something under a key. -/
def set (items : Items) (key : String) (n : Node) : Items :=
  if items.any fun e => e.1 == key then
    items.map fun e => if e.1 == key then (key, n) else e
  else items ++ [(key, n)]

/-- Sets a value under a key that may have dots. -/
def setAt (items : Items) : (key : List String) → Datum → Option Items
  | [], _ => none
  | [k], v =>
    match items.get? k with
    | none => some (items.set k (.value v))
    | some _ => none
  | k :: rest, v =>
    match items.get? k with
    | none => (setAt [] rest v).map fun inner => items.set k (.table .dotted inner)
    | some (.table .dotted inner) =>
      (setAt inner rest v).map fun inner => items.set k (.table .dotted inner)
    | some (.table .implied inner) =>
      if rest.length = 1 then none
      else (setAt inner rest v).map fun inner => items.set k (.table .implied inner)
    | some _ => none

/-- Changes the table that a path of names leads to, of several tables under one name the last. -/
def changeAt (items : Items) : (path : List String) → (Items → Option Items) → Option Items
  | [], f => f items
  | k :: rest, f =>
    match items.get? k with
    | none => (changeAt [] rest f).map fun inner => items.set k (.table .implied inner)
    | some (.table origin inner) =>
      (changeAt inner rest f).map fun inner => items.set k (.table origin inner)
    | some (.tables elements) =>
      match elements.getLast? with
      | some last =>
        (changeAt last rest f).map fun last =>
          items.set k (.tables (elements.dropLast ++ [last]))
      | none => none
    | some (.value _) => none

/-- Opens a table that was not opened before. -/
def openTable (items : Items) (path : List String) (key : String) : Option Items :=
  items.changeAt path fun items =>
    match items.get? key with
    | none => some (items.set key (.table .opened []))
    | some (.table .implied inner) => some (items.set key (.table .opened inner))
    | some _ => none

/-- Opens one more table under a name. -/
def openElement (items : Items) (path : List String) (key : String) : Option Items :=
  items.changeAt path fun items =>
    match items.get? key with
    | none => some (items.set key (.tables [[]]))
    | some (.tables elements) => some (items.set key (.tables (elements ++ [[]])))
    | some _ => none

end Items

mutual

/-- The value of what stands under a key. -/
def Node.datum : Node → Datum
  | .value d => d
  | .table _ items => .table (dataOf items)
  | .tables elements => .list (dataOfElements elements)

/-- The values of what a table holds. -/
def dataOf : List (String × Node) → List (String × Datum)
  | [] => []
  | (key, n) :: rest => (key, n.datum) :: dataOf rest

/-- The values of tables under one name. -/
def dataOfElements : List (List (String × Node)) → List Datum
  | [] => []
  | items :: rest => .table (dataOf items) :: dataOfElements rest

end

end Intake.Toml
