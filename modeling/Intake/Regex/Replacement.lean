import Intake.Regex.Search
import Intake.Text.Number

/-!
# Replacements

Every match of an expression replaced by a text in which `$name` and `${name}` stand for groups of
the match. The shorter form takes the longest run of letters, digits and underscores as the name.
-/

namespace Intake.Regex

/-- A letter, digit or underscore of ASCII. -/
def isReferenceChar (c : Char) : Bool :=
  c.isAlphanum || c == '_'

/-- The name after a dollar sign, and what follows it. -/
def reference? : List Char → Option (String × List Char)
  | '{' :: rest =>
    match rest.dropWhile (· ≠ '}') with
    | _ :: after => some (String.ofList (rest.takeWhile (· ≠ '}')), after)
    | [] => none
  | cs =>
    let name := cs.takeWhile isReferenceChar
    if name.isEmpty then none else some (String.ofList name, cs.dropWhile isReferenceChar)

/-- The text of a group by its number or name; a group that does not exist has none. -/
def Compiled.groupText (r : Compiled) (m : Match) (text : Array Char) (name : String) : String :=
  let index := (Text.count? name).or (r.groupOf? name)
  (index.bind (m.group? text)).getD ""

/-- A replacement with its references filled in. -/
def Compiled.expand (r : Compiled) (m : Match) (text : Array Char) :
    (fuel : Nat) → List Char → List Char
  | 0, cs => cs
  | _ + 1, [] => []
  | fuel + 1, '$' :: '$' :: rest => '$' :: r.expand m text fuel rest
  | fuel + 1, '$' :: rest =>
    match reference? rest with
    | some (name, rest) => (r.groupText m text name).toList ++ r.expand m text fuel rest
    | none => '$' :: r.expand m text fuel rest
  | fuel + 1, c :: rest => c :: r.expand m text fuel rest

/-- The pieces of a text between and after matches, the matches replaced. -/
def Compiled.splice (r : Compiled) (text : Array Char) (replacement : List Char) (pos : Nat) :
    List Match → List Char
  | [] => (text.extract pos text.size).toList
  | m :: rest =>
    (text.extract pos m.start).toList ++ r.expand m text replacement.length replacement ++
      r.splice text replacement m.stop rest

/-- Every match in the text replaced. -/
def Compiled.replaceAll (r : Compiled) (text replacement : String) : String :=
  let chars := text.toList.toArray
  String.ofList (r.splice chars replacement.toList 0 (r.matchList chars))

end Intake.Regex
