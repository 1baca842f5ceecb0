import Intake.Text.Blank

/-!
# Flags of expressions

What changes the reading of the rest of a group: whether case counts, what a line is, which
characters there are, and whether blanks and comments are passed over.
-/

namespace Intake.Regex

/-- The flags in force. -/
structure Flags where
  ignoreCase : Bool := false
  multiLine : Bool := false
  dotAll : Bool := false
  swapGreed : Bool := false
  /-- Blanks and comments do not count. -/
  verbose : Bool := false
  /-- A line may end with a carriage return. -/
  crlf : Bool := false
  /-- Classes are those of the Unicode standard, not of ASCII. -/
  unicode : Bool := true
deriving DecidableEq, Repr

namespace Flags

/-- Passes over blanks and comments. -/
def skipBlanks : (inComment : Bool) → List Char → List Char
  | _, [] => []
  | true, c :: rest => skipBlanks (c != '\n') rest
  | false, c :: rest =>
    if Text.isBlank c then skipBlanks false rest
    else if c = '#' then skipBlanks true rest
    else c :: rest

/-- Passes over blanks and comments if they do not count. -/
def skip (flags : Flags) (cs : List Char) : List Char :=
  if flags.verbose then skipBlanks false cs else cs

/-- The flags with the one of this letter set. -/
def set? (flags : Flags) (value : Bool) : Char → Option Flags
  | 'i' => some { flags with ignoreCase := value }
  | 'm' => some { flags with multiLine := value }
  | 's' => some { flags with dotAll := value }
  | 'U' => some { flags with swapGreed := value }
  | 'x' => some { flags with verbose := value }
  | 'R' => some { flags with crlf := value }
  | 'u' => some { flags with unicode := value }
  | _ => none

/-- Flags after a question mark, up to a colon or a closing parenthesis, which stays. None of them
may stand there twice, and one has to follow a minus sign. `seen` are the characters so far, last
one first. -/
def read (flags : Flags) (seen : List Char) : List Char → Except String (Flags × List Char)
  | [] => .error "unclosed group"
  | c :: rest =>
    if c = ':' ∨ c = ')' then
      if seen.head? = some '-' then .error "dangling negation"
      else if c = ')' ∧ seen.isEmpty then .error "no flags"
      else .ok (flags, c :: rest)
    else if c ∈ seen then .error "flag given twice"
    else if c = '-' then read flags (c :: seen) rest
    else match flags.set? (!seen.contains '-') c with
      | some flags => read flags (c :: seen) rest
      | none => .error "unrecognized flag"

end Flags

end Intake.Regex
