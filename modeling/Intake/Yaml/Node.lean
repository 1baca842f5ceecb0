import Intake.Yaml.Token

/-!
# YAML nodes

Scalars, lists and tables, and references to nodes that have an anchor.

* `Document.ofTokens?`: the only document of a text.
* `Document.target?`: the node that a reference leads to.
-/

namespace Intake.Yaml

/-- A node of a document. -/
inductive Node where
  | scalar (tag : Option String) (style : Style) (text : String)
  | list (tag : Option String) (items : List Node)
  | table (tag : Option String) (entries : List (Node × Node))
  /-- A node that stands elsewhere, under a number. -/
  | reference (slot : Nat)
deriving Inhabited

/-- A node with an anchor: the number that references to it have, and how many anchors come before
it. -/
structure Anchored where
  slot : Nat
  order : Nat
  node : Node

/-- A document. -/
structure Document where
  root : Node
  anchored : List Anchored

namespace Document

/-- The node that a reference leads to: of several under one number the one that starts last. -/
def target? (d : Document) (slot : Nat) : Option Node :=
  let latest (best : Option Anchored) (a : Anchored) : Option Anchored :=
    if a.slot == slot && best.all (·.order < a.order) then some a else best
  (d.anchored.foldl latest none).map (·.node)

end Document

/-- What is left of the tokens, and what is known of anchors and tags. -/
structure Assembly where
  tokens : List Token
  /-- What handles of tags stand for. -/
  handles : List (String × String) := []
  /-- The numbers that names of anchors stand for. -/
  slots : List (String × Nat) := []
  /-- The number of anchors so far. -/
  started : Nat := 0
  anchored : List Anchored := []

namespace Assembly

/-- Steps that take tokens, unless one of them is none that may come. -/
abbrev Step := StateT Assembly Option

/-- The next token, which stays. -/
def peek : Step (Option Token) := do
  return (← get).tokens.head?

/-- Passes over the next token. -/
def skip : Step Unit :=
  modify fun c => { c with tokens := c.tokens.drop 1 }

/-- The next token is one of these. -/
def isNext (ts : List Token) : Step Bool := do
  return (← peek).any ts.contains

/-- Passes over a token that has to come. -/
def expect (t : Token) : Step Unit := do
  if (← peek) == some t then skip else failure

/-- Passes over a token if it comes. -/
def accept (t : Token) : Step Bool := do
  if (← peek) == some t then
    skip
    return true
  else return false

/-- Starts a node with an anchor. A name that comes for the first time gets the number of names
before it. A name that comes again counts as one of them. -/
def start (name : String) : Step (Nat × Nat) := do
  let c ← get
  let slot := c.slots.length
  let others := c.slots.filter fun s => s.1 != name
  set { c with slots := (name, slot) :: others, started := c.started + 1 }
  return (slot, c.started)

/-- The number of a name that an anchor has given before. -/
def slotOf (name : String) : Step Nat := do
  (← get).slots.lookup name

/-- Keeps a node that has an anchor. -/
def keep (anchor : Option (Nat × Nat)) (node : Node) : Step Node := do
  match anchor with
  | some (slot, order) => modify fun c => { c with anchored := ⟨slot, order, node⟩ :: c.anchored }
  | none => pure ()
  return node

/-- An anchor, if one comes. -/
def anchor? : Step (Option (Nat × Nat)) := do
  match ← peek with
  | some (.anchor name) =>
    skip
    return some (← start name)
  | _ => return none

/-- A tag, if one comes. -/
def tag? : Step (Option String) := do
  match ← peek with
  | some (.tag t) =>
    skip
    let full ← (t.full? (← get).handles : Option String)
    return some full
  | _ => return none

/-- The scalar that stands where nothing is written. -/
def empty : Node := .scalar none .plain ""

/-- A scalar. The tag that is an exclamation mark alone says nothing. -/
def scalarOf (tag : Option String) (style : Style) (text : String) : Node :=
  .scalar (tag.filter (· != "!")) style text

mutual

/-- A node. By indentation only where `block` says so, and as a list that is not indented more than
the table around it only where `bare` does. -/
def node : (fuel : Nat) → (block bare : Bool) → Step Node
  | 0, _, _ => failure
  | fuel + 1, block, bare => do
    match ← peek with
    | some (.reference name) =>
      skip
      return .reference (← slotOf name)
    | _ =>
      let first ← anchor?
      let tag ← tag?
      let anchor ← if first.isSome then pure first else anchor?
      let nothing : Step Node :=
        if anchor.isSome || tag.isSome then return .scalar tag .plain "" else failure
      let body : Step Node := do
        match ← peek with
        | some (.scalar style text) =>
          skip
          return scalarOf tag style text
        | some .flowList =>
          skip
          return .list tag (← flowItems fuel [])
        | some .flowTable =>
          skip
          return .table tag (← flowEntries fuel [])
        | some .blockList =>
          if !block then nothing
          else
            skip
            return .list tag (← blockItems fuel [])
        | some .blockTable =>
          if !block then nothing
          else
            skip
            return .table tag (← blockEntries fuel [])
        | some .item => if bare then return .list tag (← bareItems fuel []) else nothing
        | _ => nothing
      keep anchor (← body)

/-- A node, or an empty one where a token of these comes instead. -/
def nodeUnless : (fuel : Nat) → (ends : List Token) → (block bare : Bool) → Step Node
  | 0, _, _, _ => failure
  | fuel + 1, ends, block, bare => do
    if ← isNext ends then return empty else node fuel block bare

/-- The items of a list by indentation, up to its end. -/
def blockItems : (fuel : Nat) → (done : List Node) → Step (List Node)
  | 0, _ => failure
  | fuel + 1, done => do
    if ← accept .blockEnd then return done.reverse
    expect .item
    blockItems fuel ((← nodeUnless fuel [.item, .blockEnd] true false) :: done)

/-- The items of a list that ends where no item follows. -/
def bareItems : (fuel : Nat) → (done : List Node) → Step (List Node)
  | 0, _ => failure
  | fuel + 1, done => do
    if ← accept .item then
      bareItems fuel ((← nodeUnless fuel [.item, .key, .value, .blockEnd] true false) :: done)
    else return done.reverse

/-- The entries of a table by indentation, up to its end. -/
def blockEntries : (fuel : Nat) → (done : List (Node × Node)) → Step (List (Node × Node))
  | 0, _ => failure
  | fuel + 1, done => do
    if ← accept .blockEnd then return done.reverse
    expect .key
    let key ← nodeUnless fuel [.key, .value, .blockEnd] true true
    let value ←
      if ← accept .value then nodeUnless fuel [.key, .value, .blockEnd] true true else pure empty
    blockEntries fuel ((key, value) :: done)

/-- The items of a list in brackets, up to its end. An item may be a table of one entry. -/
def flowItems : (fuel : Nat) → (done : List Node) → Step (List Node)
  | 0, _ => failure
  | fuel + 1, done => do
    if ← accept .flowListEnd then return done.reverse
    let item ←
      if ← accept .key then
        let ends := [.value, .comma, .flowListEnd]
        let isEmpty ← isNext ends
        let key ← nodeUnless fuel ends false false
        if isEmpty then skip
        let value ←
          if ← accept .value then nodeUnless fuel [.comma, .flowListEnd] false false
          else pure empty
        pure (.table none [(key, value)])
      else node fuel false false
    if ← accept .flowListEnd then return (item :: done).reverse
    expect .comma
    flowItems fuel (item :: done)

/-- The entries of a table in braces, up to its end. A node without a colon is a key. -/
def flowEntries : (fuel : Nat) → (done : List (Node × Node)) → Step (List (Node × Node))
  | 0, _ => failure
  | fuel + 1, done => do
    if ← accept .flowTableEnd then return done.reverse
    let entry ←
      if ← accept .key then
        let key ← nodeUnless fuel [.value, .comma, .flowTableEnd] false false
        let value ←
          if ← accept .value then nodeUnless fuel [.comma, .flowTableEnd] false false
          else pure empty
        pure (key, value)
      else pure (← node fuel false false, empty)
    if ← accept .flowTableEnd then return (entry :: done).reverse
    expect .comma
    flowEntries fuel (entry :: done)

end

/-- The directives that come. -/
def directives (ts : List Token) : List Directive :=
  match ts with
  | .directive d :: rest => d :: directives rest
  | _ => []

/-- The only document, and nothing behind it. A document that starts with a line of its own may be
empty; directives need such a line. -/
def document : Step Node := do
  let c ← get
  let ds := directives c.tokens
  let handles ← (Directive.handles? ds : Option (List (String × String)))
  set { c with handles, tokens := c.tokens.drop ds.length }
  let fuel := 4 * c.tokens.length + 4
  let root ←
    if ← accept .documentStart then
      match ← peek with
      | some (.directive _) | some .documentStart | some .documentEnd | none => pure empty
      | _ => node fuel true false
    else if ds.isEmpty then node fuel true false
    else failure
  modify fun c => { c with tokens := c.tokens.dropWhile (· == .documentEnd) }
  if (← get).tokens.isEmpty then return root else failure

end Assembly

/-- The only document of some tokens. -/
def Document.ofTokens? (ts : List Token) : Option Document :=
  (Assembly.document.run { tokens := ts }).map fun (root, c) => { root, anchored := c.anchored }

end Intake.Yaml
