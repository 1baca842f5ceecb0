import Intake.Yaml.Tag

/-!
# YAML tokens

What a text consists of once indentation and keys are marked: lists and tables by indentation start
and end with a token of their own, like those in brackets and braces, and a token stands in front of
every key and every value.
-/

namespace Intake.Yaml

/-- How a scalar is written. -/
inductive Style where
  | plain
  /-- In quotes, or as a block whose lines are joined. -/
  | quoted
  /-- As a block whose lines are kept. -/
  | literal
deriving DecidableEq, Repr

/-- A part of a text. -/
inductive Token where
  | directive (d : Directive)
  | documentStart
  | documentEnd
  /-- The start of a list by indentation. -/
  | blockList
  /-- The start of a table by indentation. -/
  | blockTable
  /-- The end of a list or table by indentation. -/
  | blockEnd
  | flowList
  | flowListEnd
  | flowTable
  | flowTableEnd
  | comma
  /-- The mark of an item by indentation. -/
  | item
  | key
  | value
  | anchor (name : String)
  | reference (name : String)
  | tag (t : Tag)
  | scalar (style : Style) (text : String)
deriving DecidableEq, Repr

end Intake.Yaml
