import Intake.Definition.Reader
import Intake.Registry

/-!
# Directories of definitions

Files whose names end in `.yml`, `.yaml` or `.toml` hold one definition each. A whole directory is
read in the order of the names; files that cannot be read, and those with a name that an earlier one
has, are passed over.

* `Directory.load`: the definition in one file.
* `Directory.loadAll`: the definitions in a directory.
-/

namespace Intake

/-- What stands under a name in a directory. -/
inductive FileNode where
  | file (content : ByteArray)
  | folder

/-- A directory: what stands in it, or why it cannot be read. -/
structure Directory where
  path : String
  nodes : Except String (Keyed FileNode)

namespace Directory

/-- The format of a definition. -/
inductive Format where
  | yaml
  | toml
deriving DecidableEq, Repr

/-- What follows the last dot of a name, unless the dot comes first. -/
def extension? (name : String) : Option String :=
  let ending := name.toList.reverse.takeWhile (· != '.')
  if ending.length + 1 < name.length then some (String.ofList ending.reverse) else none

/-- The format that the name of a file shows. -/
def format? (name : String) : Option Format :=
  match extension? name with
  | some "yml" | some "yaml" => some .yaml
  | some "toml" => some .toml
  | _ => none

/-- The most bytes that a file may have. -/
def maxFileSize : Nat := 4194304

/-- The most definitions that a directory may have. -/
def maxDefinitions : Nat := 1000

/-- What the system says when there is no file of a name. -/
def noSuchFile : String := "No such file or directory (os error 2)"

/-- What the system says when a directory is read as a file. -/
def isFolder : String := "Is a directory (os error 21)"

/-- What the system says when a file is read as a directory. -/
def isNoFolder : String := "Not a directory (os error 20)"

/-- What the system says when a file is no text. -/
def isNoText : String := "stream did not contain valid UTF-8"

/-- The path of a name in the directory. -/
def pathOf (d : Directory) (name : String) : String :=
  d.path ++ "/" ++ name

/-- The directory under a name. Those inside a directory are empty. -/
def enter (d : Directory) (name : String) : Directory where
  path := d.pathOf name
  nodes :=
    d.nodes.bind fun nodes =>
      match Keyed.get? name nodes with
      | some .folder => .ok []
      | some (.file _) => .error isNoFolder
      | none => .error noSuchFile

/-- What stands under a name, or why nothing can be found there. -/
def find (d : Directory) (name : String) : Except String FileNode :=
  d.nodes.bind fun nodes =>
    match Keyed.get? name nodes with
    | some node => .ok node
    | none => .error noSuchFile

/-- The text of a file. -/
def textOf : FileNode → Except String String
  | .folder => .error isFolder
  | .file content =>
    match String.fromUTF8? content with
    | some s => .ok s
    | none => .error isNoText

/-- The number of bytes of a file; that of a directory is of no account. -/
def sizeOf : FileNode → Nat
  | .file content => content.size
  | .folder => 0

/-- The definition in a file. -/
def load (d : Directory) (name : String) : Except Failure Definition :=
  let path := d.pathOf name
  match format? name with
  | none => .error (.definition path "unsupported definition file extension")
  | some n =>
    match d.find name with
    | .error reason => .error (.definition path ("failed to read file metadata: " ++ reason))
    | .ok node =>
      if maxFileSize < sizeOf node then
        .error (.definition path s!"file too large: {sizeOf node} bytes (max: {maxFileSize})")
      else
        match textOf node with
        | .error reason => .error (.definition path ("failed to read file: " ++ reason))
        | .ok content =>
          match n with
          | .yaml => Definition.ofYaml content path
          | .toml => Definition.ofToml content path

/-- Loads files one after the other; `done` holds the definitions so far, latest first. -/
def loadFrom (d : Directory) (done : List Definition) : List String →
    Except Failure (List Definition)
  | [] => .ok done.reverse
  | name :: rest =>
    match d.load name with
    | .error _ => loadFrom d done rest
    | .ok found =>
      if done.any (·.name == found.name) then loadFrom d done rest
      else if done.length < maxDefinitions then loadFrom d (found :: done) rest
      else .error (.definition d.path s!"too many definitions: max {maxDefinitions}")

/-- The definitions in a directory. -/
def loadAll (d : Directory) : Except Failure (List Definition) :=
  match d.nodes with
  | .error reason => .error (.definition d.path ("failed to read directory: " ++ reason))
  | .ok nodes => loadFrom d [] ((Keyed.keys nodes).filter fun name => (format? name).isSome)

end Directory

end Intake
