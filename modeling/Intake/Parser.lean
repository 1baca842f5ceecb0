import Intake.Context
import Intake.PreParser

/-!
# Parsers

A parser has a way to read items and fields to fill from them. The value of a field may be the item
of other parsers, which are stacked on the field.
-/

namespace Intake

/-- What becomes of the record of a stacked parser. -/
inductive Aggregation where
  /-- It is merged into the outer record. -/
  | merge
  /-- It stands inside the outer record. -/
  | relate
deriving DecidableEq, Repr

/-- The name of an aggregation. -/
def Aggregation.name : Aggregation → String
  | merge => "merge"
  | relate => "relate"

/-- A parser stacked on a field. -/
structure Stacked (ρ : Type) where
  parser : ρ
  aggregation : Aggregation := .merge
  /-- The record is delivered beside the outer one and not inside it. -/
  flatten : Bool := false

/-- A field with the parsers that are offered its value. -/
structure ParserField (ρ : Type) where
  field : Field
  stacked : List (Stacked ρ) := []

/-- A parser. -/
inductive Parser where
  | mk (profile : Profile) (preParsers : List PreParser) (filters : List RecordFilter)
      (fields : List (ParserField Parser))

namespace Parser

/-- What a parser is, apart from its fields. -/
def profile : Parser → Profile
  | mk p _ _ _ => p

/-- The changes to an item before it is read. -/
def preParsers : Parser → List PreParser
  | mk _ ps _ _ => ps

/-- The filters on finished records. -/
def filters : Parser → List RecordFilter
  | mk _ _ fs _ => fs

/-- The fields in the order in which they are filled. -/
def fields : Parser → List (ParserField Parser)
  | mk _ _ _ fs => fs

/-- The name of a parser. -/
def name (p : Parser) : String := p.profile.name

instance : Inhabited Parser := ⟨mk ⟨"", {}, .json⟩ [] [] []⟩

end Parser

end Intake
