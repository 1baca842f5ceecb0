import Intake.Regex.Program

/-!
# Searching

The leftmost match of an expression in a text, and of the matches there the one that the choices
prefer. Every pair of an instruction and a place is visited at most once, which bounds the search by
the product of the sizes of the program and the text.
-/

namespace Intake.Regex

/-- The places kept so far, by number. -/
abbrev Slots := Array (Option Nat)

/-- A way still to follow: an instruction, a place in the text, and the places kept on the way. -/
structure Thread where
  pc : Nat
  pos : Nat
  slots : Slots

/-- The character before a place. -/
def charBefore (text : Array Char) (pos : Nat) : Option Char :=
  if pos = 0 then none else text[pos - 1]?

/-- The ways that an instruction leads to, preferred ones first. -/
def Thread.next (code : Code) (text : Array Char) (t : Thread) : List Thread :=
  match code[t.pc]? with
  | some (.step s next) =>
    match text[t.pos]? with
    | some c => if s.contains c then [{ t with pc := next, pos := t.pos + 1 }] else []
    | none => []
  | some (.check a next) =>
    if a.holds (charBefore text t.pos) text[t.pos]? then [{ t with pc := next }] else []
  | some (.save slot next) =>
    [{ t with pc := next, slots := t.slots.setIfInBounds slot (some t.pos) }]
  | some (.fork a b) => [{ t with pc := a }, { t with pc := b }]
  | _ => []

/-- Follows the ways in order until one accepts. -/
def run (code : Code) (text : Array Char) :
    (fuel : Nat) → (visited : Array Bool) → List Thread → Option Slots × Array Bool
  | 0, visited, _ => (none, visited)
  | _ + 1, visited, [] => (none, visited)
  | fuel + 1, visited, t :: rest =>
    let key := t.pc * (text.size + 1) + t.pos
    if (visited[key]?).getD true then run code text fuel visited rest
    else
      match code[t.pc]? with
      | some .accept => (some t.slots, visited)
      | _ => run code text fuel (visited.setIfInBounds key true) (t.next code text ++ rest)

/-- Tries every place from `pos` on, `count` of them. A way that failed from an earlier place is not
followed again. -/
def searchFrom (code : Code) (text : Array Char) (groups fuel : Nat) :
    (count pos : Nat) → (visited : Array Bool) → Option Slots
  | 0, _, _ => none
  | count + 1, pos, visited =>
    match run code text fuel visited [⟨0, pos, Array.replicate (2 * groups) none⟩] with
    | (some slots, _) => some slots
    | (none, visited) => searchFrom code text groups fuel count (pos + 1) visited

/-- A compiled expression. -/
structure Compiled where
  /-- The expression as it was written. -/
  source : String
  code : Code
  /-- The number of groups, the whole match included. -/
  groups : Nat
  /-- Names of groups, with their numbers. -/
  names : List (String × Nat)

/-- A match: the places of its groups. -/
structure Match where
  slots : Slots

namespace Match

/-- Start and end of a group that took part in the match. -/
def span? (m : Match) (i : Nat) : Option (Nat × Nat) :=
  match m.slots[2 * i]?, m.slots[2 * i + 1]? with
  | some (some a), some (some b) => some (a, b)
  | _, _ => none

/-- Where the match starts. -/
def start (m : Match) : Nat :=
  ((m.span? 0).map (·.1)).getD 0

/-- Where the match ends. -/
def stop (m : Match) : Nat :=
  ((m.span? 0).map (·.2)).getD 0

/-- The characters between two places. -/
def slice (text : Array Char) (a b : Nat) : String :=
  String.ofList (text.extract a b).toList

/-- The text of a group that took part in the match. -/
def group? (m : Match) (text : Array Char) (i : Nat) : Option String :=
  (m.span? i).map fun s => slice text s.1 s.2

end Match

namespace Compiled

/-- The leftmost match that starts at `pos` or later. -/
def matchFrom? (r : Compiled) (text : Array Char) (pos : Nat) : Option Match :=
  let places := text.size + 1
  let visited := Array.replicate (r.code.size * places) false
  let fuel := 2 * r.code.size * places + 2
  (searchFrom r.code text r.groups fuel (places - pos) pos visited).map Match.mk

/-- The leftmost match. -/
def match? (r : Compiled) (text : String) : Option Match :=
  r.matchFrom? text.toList.toArray 0

/-- The expression matches somewhere in the text. -/
def isMatch (r : Compiled) (text : String) : Bool :=
  (r.match? text).isSome

/-- The number of a group by its name. -/
def groupOf? (r : Compiled) (name : String) : Option Nat :=
  (r.names.find? (·.1 == name)).map (·.2)

/-- Successive matches from `pos` on. None overlaps the one before it, and one without characters
does not stand at its end. -/
def matchesFrom (r : Compiled) (text : Array Char) :
    (fuel pos : Nat) → (last : Option Nat) → List Match
  | 0, _, _ => []
  | fuel + 1, pos, last =>
    if text.size < pos then []
    else match r.matchFrom? text pos with
      | none => []
      | some m =>
        if m.start = m.stop ∧ last = some m.stop then r.matchesFrom text fuel (pos + 1) last
        else m :: r.matchesFrom text fuel m.stop (some m.stop)

/-- All successive matches. -/
def matchList (r : Compiled) (text : Array Char) : List Match :=
  r.matchesFrom text (2 * text.size + 3) 0 none

end Compiled

end Intake.Regex
