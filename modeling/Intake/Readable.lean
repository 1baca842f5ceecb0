import Intake.Content
import Intake.Keyed

/-!
# Readable values

What whoever reads settings and definitions may ask of a value, in whatever format it was written.
Each question has an answer only for the values that the format takes for such a thing.

* `Readable`: the questions that a format answers.
* `Readable.listOf?`, `Readable.keyedOf?`, `Readable.named?`: answers made of them.
* `Members.need?`, `Members.orElse?`: the members of a table, which have to be there or may be left
  out.
-/

namespace Intake

/-- A value that consists of others. -/
inductive Collection (ν : Type) where
  | list (items : List ν)
  | table (entries : List (Content × ν))

/-- The values of a format. -/
class Readable (ν : Type) where
  /-- A text. -/
  text? : ν → Option String
  /-- A truth value. -/
  bool? : ν → Option Bool
  /-- A number of things. -/
  count? : ν → Option Nat
  /-- A value, or none where nothing is given. -/
  maybe? : ν → Option (Option ν)
  /-- The items of a list. -/
  items? : ν → Option (List ν)
  /-- The entries of a table. -/
  entries? : ν → Option (List (String × ν))
  /-- The members of something that has members of these names, and perhaps others. -/
  members? : (names : List String) → ν → Option (List (String × ν))
  /-- The name of one of a few things that have nothing but a name. -/
  choice? : ν → Option String
  /-- A list or a table. -/
  collection? : ν → Option (Collection ν)
  /-- The value with the type of its own text. -/
  content? : ν → Option Content

/-- The members of a table. -/
abbrev Members (ν : Type) := List (String × ν)

namespace Members

/-- No key is given twice. -/
def areDistinct : List String → Bool
  | [] => true
  | key :: rest => !rest.contains key && areDistinct rest

/-- Members of which none of the named ones is given twice. -/
def checked? {ν : Type} (names : List String) (entries : List (String × ν)) : Option (Members ν) :=
  if areDistinct ((entries.map (·.1)).filter names.contains) then some entries else none

/-- What stands under a name. -/
def get? {ν : Type} (ms : Members ν) (name : String) : Option ν :=
  (ms.find? fun m => m.1 == name).map (·.2)

/-- A member that has to be there. -/
def need? {ν α : Type} (ms : Members ν) (name : String) (value? : ν → Option α) : Option α :=
  (ms.get? name).bind value?

/-- A member with a value for when it is not there. -/
def orElse? {ν α : Type} (ms : Members ν) (name : String) (default : α) (value? : ν → Option α) :
    Option α :=
  match ms.get? name with
  | some v => value? v
  | none => some default

end Members

namespace Readable

variable {ν α : Type} [Readable ν]

/-- The members of these names, none of which may be given twice. -/
def membersOf? (names : List String) (v : ν) : Option (Members ν) :=
  (members? names v).bind (Members.checked? names)

/-- The items of a list, read one by one. -/
def listOf? (item? : ν → Option α) (v : ν) : Option (List α) :=
  (items? v).bind fun items => items.mapM item?

/-- The entries of a table, read one by one; of several under one key the last stays. -/
def keyedOf? (value? : ν → Option α) (v : ν) : Option (Keyed α) := do
  let entries ← entries? v
  let decoded ← entries.mapM fun (key, v) => (value? v).map fun a => (key, a)
  return Keyed.ofList decoded

/-- A value that may be missing. -/
def optional? (value? : ν → Option α) (v : ν) : Option (Option α) := do
  match ← maybe? v with
  | some v => (value? v).map some
  | none => return none

/-- One of the values of a finite kind, by its name. -/
def named? (all : List α) (name : α → String) (v : ν) : Option α :=
  (choice? v).bind fun s => all.find? fun a => name a == s

end Readable

end Intake
