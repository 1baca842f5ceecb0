import Intake.Definition.Build
import Intake.Settings

/-!
# Registries

The parsers of several definitions, each built after those stacked on it, with one store for values
kept between activities.

* `Registry.build`: the parsers of definitions.
-/

namespace Intake

/-- Parsers under the names of their definitions. -/
structure Registry where
  parsers : Keyed Parser
  /-- The store, if a definition has entries for it. -/
  cache : Option Cache

namespace Registry

/-- The first definition whose name an earlier one has. -/
def duplicate? (earlier : List String) : List Definition → Option Definition
  | [] => none
  | d :: rest => if d.name ∈ earlier then some d else duplicate? (d.name :: earlier) rest

/-- The place of the definition of a name. -/
def placeOf? (definitions : List Definition) (name : String) : Option Nat :=
  definitions.findIdx? fun d => d.name == name

/-- The first stacked parser without a definition. -/
def undefined? (definitions : List Definition) : Option Failure :=
  definitions.findSome? fun d =>
    (d.stackedNames.find? fun name => !definitions.any (·.name == name)).map fun name =>
      d.failure s!"undefined stacked parser '{name}'"

/-- An edge to each definition from every one that is stacked on it. -/
def references (definitions : List Definition) : Graph :=
  .ofEdges definitions.length
    (definitions.zipIdx.flatMap fun (d, i) =>
      d.stackedNames.filterMap fun name => (placeOf? definitions name).map fun j => (j, i))

/-- Builds definitions one after the other. -/
def buildAll (base : Properties) : Keyed Parser → List Definition → Except Failure (Keyed Parser)
  | built, [] => .ok built
  | built, d :: rest => do
    let parser ← d.build built base
    buildAll base (Keyed.insert d.name parser built) rest

/-- The store for the entries of all definitions, if there are any. -/
def cacheOf? (definitions : List Definition) (capacity : Nat) : Option Cache :=
  match definitions.flatMap (·.cache) with
  | [] => none
  | entries => some (.ofCapacity capacity entries)

/-- The parsers of definitions. -/
def build (definitions : List Definition) (e : EngineSettings) : Except Failure Registry := do
  match duplicate? [] definitions with
  | some d => throw (d.failure s!"duplicate parser name '{d.name}'")
  | none => pure ()
  match undefined? definitions with
  | some f => throw f
  | none => pure ()
  match (references definitions).order with
  | .error place =>
    throw (.definition ((definitions[place]?).elim "" (·.name)) "cyclic stacked parser references")
  | .ok order =>
    let parsers ← buildAll e.properties [] (order.filterMap fun i => definitions[i]?)
    return { parsers, cache := cacheOf? definitions e.cacheCapacity }

end Registry

end Intake
