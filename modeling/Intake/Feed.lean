import Intake.Failure
import Intake.Text.Blank
import Intake.Text.Utf8

/-!
# Feeds

Bytes that several parsers take turns reading, each taking what it needs from the front.

* `Feed.nextLine`: the next line that is not blank.
* `Feed.remainder`: all that is left.
-/

namespace Intake

/-- The bytes that nobody has taken yet. -/
structure Feed where
  unread : List UInt8
deriving DecidableEq, Repr

/-- How much of a feed makes one item. -/
inductive Portion where
  /-- The next line that is not blank. -/
  | line
  /-- All that is left. -/
  | remainder
deriving DecidableEq, Repr

namespace Portion

/-- The name of a portion. -/
def name : Portion → String
  | line => "EOL"
  | remainder => "EOF"

end Portion

namespace Feed

/-- The failure that the bytes taken are no text. -/
def notText : Failure := .io "stream did not contain valid UTF-8"

/-- The byte that ends a line. -/
def lineFeed : UInt8 := 10

/-- The bytes up to the first line feed, which is included, and those after it. -/
def splitLine : List UInt8 → List UInt8 × List UInt8
  | [] => ([], [])
  | b :: rest =>
    if b = lineFeed then ([b], rest)
    else
      let (line, after) := splitLine rest
      (b :: line, after)

theorem length_splitLine_le (bytes : List UInt8) :
    (splitLine bytes).2.length ≤ bytes.length := by
  induction bytes with
  | nil => simp [splitLine]
  | cons b rest ih =>
    simp only [splitLine]
    split
    · simp
    · exact Nat.le_succ_of_le ih

theorem length_splitLine_lt (b : UInt8) (rest : List UInt8) :
    (splitLine (b :: rest)).2.length < (b :: rest).length := by
  simp only [splitLine]
  split
  · simp
  · exact Nat.lt_succ_of_le (length_splitLine_le rest)

/-- A line without what ends it. -/
def chomp (s : String) : String :=
  String.ofList (Text.dropEndWhile (fun c => c == '\r' || c == '\n') s.toList)

/-- The next line that is not blank, and the bytes after it. A line that is no text is used up. -/
def lineOf (bytes : List UInt8) : Except Failure (Option String) × List UInt8 :=
  match bytes with
  | [] => (.ok none, [])
  | b :: rest =>
    let after := (splitLine (b :: rest)).2
    match Text.Utf8.decode (splitLine (b :: rest)).1 with
    | .error _ => (.error notText, after)
    | .ok s => if Text.isBlankText (chomp s) then lineOf after else (.ok (some (chomp s)), after)
termination_by bytes.length
decreasing_by exact length_splitLine_lt b rest

/-- Takes the next line that is not blank. -/
def nextLine (f : Feed) : Except Failure (Option String) × Feed :=
  let (line, after) := lineOf f.unread
  (line, ⟨after⟩)

/-- Takes all that is left; a blank remainder counts as none. One that is no text is used up. -/
def remainder (f : Feed) : Except Failure (Option String) × Feed :=
  match Text.Utf8.decode f.unread with
  | .error _ => (.error notText, ⟨[]⟩)
  | .ok s => (.ok (if Text.isBlankText s then none else some s), ⟨[]⟩)

/-- Takes the next item. -/
def next (p : Portion) (f : Feed) : Except Failure (Option String) × Feed :=
  match p with
  | .line => f.nextLine
  | .remainder => f.remainder

end Feed

end Intake
