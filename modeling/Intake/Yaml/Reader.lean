import Intake.Readable
import Intake.Yaml.Lexer
import Intake.Yaml.Node
import Intake.Yaml.Plain

/-!
# Reading YAML

Nodes of a document as values. A scalar is what is expected of it, if it can be, and an empty one is
also an empty list or table. References are followed when the node behind them is needed, so a node
may contain itself; lists and tables are opened `Spot.depth` levels deep at most.

* `Spot.ofText?`: the value of a text.
-/

namespace Intake.Yaml

namespace Node

mutual

/-- The number of marks that a node has: one for a scalar or a reference, two for a list or
table. -/
def size : Node → Nat
  | scalar _ _ _ | reference _ => 1
  | list _ items => 2 + sizeOfItems items
  | table _ entries => 2 + sizeOfEntries entries

/-- The number of marks in some nodes. -/
def sizeOfItems : List Node → Nat
  | [] => 0
  | n :: rest => n.size + sizeOfItems rest

/-- The number of marks in the entries of a table. -/
def sizeOfEntries : List (Node × Node) → Nat
  | [] => 0
  | (key, value) :: rest => key.size + value.size + sizeOfEntries rest

end

end Node

/-- The tag says what only the author of a document knows. -/
def isLocal (tag : String) : Bool :=
  match tag.toList with
  | '!' :: _ :: _ => true
  | _ => false

/-- The tag of a type that all documents know. -/
def coreTag (name : String) : String :=
  "tag:yaml.org,2002:" ++ name

/-- The type of a scalar is left open. -/
def isOpen (tag : Option String) (style : Style) : Bool :=
  style == .plain && tag.all fun t => t == "!"

/-- The value of a scalar, of the type that its tag tells or else that it looks like. -/
def scalarContent? (tag : Option String) (style : Style) (s : String) : Option Content :=
  let cs := s.toList
  if tag.any isLocal then none
  else if isOpen tag style then Plain.content? s
  else if tag == some (coreTag "bool") then (Plain.bool? s).map .bool
  else if tag == some (coreTag "int") then
    match Plain.whole? cs with
    | some (.fits c) => some c
    | _ => none
  else if tag == some (coreTag "float") then if Plain.isFloat cs then some .float else none
  else if tag == some (coreTag "null") then if Plain.isNull s then some .null else none
  else some (.text s)

/-- A node of a document, and how many levels of lists and tables may be opened from it on. -/
structure Spot where
  document : Document
  levels : Nat
  node : Node

namespace Spot

/-- How deep lists and tables are opened. -/
def depth : Nat := 128

/-- The node, a reference followed. -/
def target? (s : Spot) : Option Node :=
  match s.node with
  | .reference slot => s.document.target? slot
  | n => some n

/-- Nodes one level deeper. -/
def inner? (s : Spot) : Option (Node → Spot) :=
  match s.levels with
  | 0 => none
  | levels + 1 => some fun node => { s with levels, node }

/-- The text of a scalar. -/
def text? (s : Spot) : Option String :=
  match s.target? with
  | some (.scalar _ _ text) => some text
  | _ => none

/-- A scalar may be asked for a type: it is plain, or a block of lines with the tag of the type. -/
def typed? (name : String) (s : Spot) : Option String :=
  match s.target? with
  | some (.scalar tag style text) =>
    if style == .plain || (style == .literal && tag == some (coreTag name)) then some text else none
  | _ => none

/-- The number of things that a scalar gives. -/
def count? (s : Spot) : Option Nat := do
  match Plain.whole? (← s.typed? "int").toList with
  | some (.fits (.count n)) => some n
  | _ => none

/-- The value, unless it is a plain scalar for nothing. -/
def maybe? (s : Spot) : Option (Option Spot) :=
  match s.target? with
  | some (.scalar none .plain text) =>
    some (if text.isEmpty || Plain.isNull text then none else some s)
  | some (.scalar (some tag) .plain text) =>
    if tag == coreTag "null" then if Plain.isNull text then some none else none
    else some (some s)
  | some _ => some (some s)
  | none => none

/-- The items of a list. -/
def items? (s : Spot) : Option (List Spot) := do
  match ← s.target? with
  | .list _ items => return items.map (← s.inner?)
  | .scalar _ _ text => if text.isEmpty then some [] else none
  | _ => none

/-- The entries of a table, whose keys have to be scalars. -/
def entries? (s : Spot) : Option (List (String × Spot)) := do
  match ← s.target? with
  | .table _ entries =>
    let inner ← s.inner?
    entries.mapM fun (key, value) => (inner key).text?.map fun key => (key, inner value)
  | .scalar _ _ text => if text.isEmpty then some [] else none
  | _ => none

/-- The name of a choice: a scalar, or the tag of a scalar for nothing. -/
def choice? (s : Spot) : Option String :=
  match s.target? with
  | some (.scalar tag style text) =>
    match tag.filter isLocal with
    | some tag =>
      if style == .plain && (text.isEmpty || Plain.isNull text) then
        some (String.ofList (tag.toList.drop 1))
      else none
    | none => some text
  | _ => none

/-- The value of a node. Each reference that is followed is taken off a budget. -/
def contentOf (d : Document) : (levels : Nat) → Node → StateT Nat Option Content
  | 0, n => do
    match ← resolved n with
    | .scalar tag style text => scalarContent? tag style text
    | _ => failure
  | levels + 1, n => do
    match ← resolved n with
    | .scalar tag style text => scalarContent? tag style text
    | .list tag items =>
      if tag.any isLocal then failure
      return .list (← items.mapM (contentOf d levels))
    | .table tag entries =>
      if tag.any isLocal then failure
      return .table (← entries.mapM fun (key, value) =>
        return (← contentOf d levels key, ← contentOf d levels value))
    | .reference _ => failure
where
  /-- The node, a reference followed at the cost of one. -/
  resolved (n : Node) : StateT Nat Option Node := do
    match n with
    | .reference slot =>
      if (← get) = 0 then failure
      modify (· - 1)
      d.target? slot
    | n => return n

/-- How often references may be followed within one value. -/
def budget (d : Document) : Nat :=
  100 * d.root.size

/-- The value of a node with the type of its own text. -/
def content? (s : Spot) : Option Content :=
  ((contentOf s.document s.levels s.node).run (budget s.document)).map (·.1)

/-- A list or table. -/
def collection? (s : Spot) : Option (Collection Spot) := do
  match ← s.target? with
  | .list tag items => if tag.any isLocal then none else return .list (items.map (← s.inner?))
  | .table tag entries =>
    if tag.any isLocal then none
    else
      let inner ← s.inner?
      let entries ← entries.mapM fun (key, value) =>
        (inner key).content?.map fun key => (key, inner value)
      return .table entries
  | _ => none

instance : Readable Spot where
  text? := text?
  bool? s := (s.typed? "bool").bind Plain.bool?
  count? := count?
  maybe? := maybe?
  items? := items?
  entries? := entries?
  members? _ := entries?
  choice? := choice?
  collection? := collection?
  content? := content?

/-- The only document of a text, as a value. -/
def ofText? (s : String) : Option Spot := do
  let document ← Document.ofTokens? (← Token.ofText? s)
  return { document, levels := depth, node := document.root }

end Spot

end Intake.Yaml
