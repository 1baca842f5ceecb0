/-!
# Ends of lines

A text as the readers of documents see it: one line feed ends a line, and no mark of the encoding
stands in front.
-/

namespace Intake.Text

/-- The characters with a line feed for each carriage return that a line feed follows. -/
def withLineFeeds : List Char → List Char
  | '\r' :: '\n' :: rest => '\n' :: withLineFeeds rest
  | c :: rest => c :: withLineFeeds rest
  | [] => []

/-- The characters without a mark of their encoding. -/
def withoutMark : List Char → List Char
  | '\uFEFF' :: rest => rest
  | cs => cs

end Intake.Text
