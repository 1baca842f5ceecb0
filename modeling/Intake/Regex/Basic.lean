import Intake.Regex.CharSet

/-!
# Regular expressions

The tree of an expression: sets of characters, conditions on places, groups, sequences,
alternatives and repetitions.

* `Node.repeated`: a repetition, written as simply as it can be.
* `Node.groupIndices`: the groups of an expression. One that is repeated no times is none.
-/

namespace Intake.Regex

open Intake.Text (CodeSet)

/-- A place seen from the words around it. -/
inductive WordPlace where
  | edge | noEdge | start | stop | startHalf | stopHalf
deriving DecidableEq, Repr

/-- The place has this relation to words, by whether a word comes before it and after it. -/
def WordPlace.holds (p : WordPlace) (before after : Bool) : Bool :=
  match p with
  | edge => before != after
  | noEdge => before == after
  | start => !before && after
  | stop => before && !after
  | startHalf => !before
  | stopHalf => !after

/-- A condition on a place between two characters. -/
inductive Anchor where
  | textStart
  | textEnd
  /-- With `crlf` a line ends with a carriage return, a line feed, or both. -/
  | lineStart (crlf : Bool)
  | lineEnd (crlf : Bool)
  | word (place : WordPlace) (ascii : Bool)
deriving DecidableEq, Repr

/-- The place between the characters `before` and `after` satisfies the condition. -/
def Anchor.holds (a : Anchor) (before after : Option Char) : Bool :=
  match a with
  | textStart => before.isNone
  | textEnd => after.isNone
  | lineStart false => before.isNone || before == some '\n'
  | lineEnd false => after.isNone || after == some '\n'
  | lineStart true =>
    before.isNone || before == some '\n' || (before == some '\r' && after != some '\n')
  | lineEnd true =>
    after.isNone || after == some '\r' || (after == some '\n' && before != some '\r')
  | word place ascii =>
    let inWord := if ascii then isAsciiWord else isWord
    place.holds (before.any inWord) (after.any inWord)

/-- The tree of an expression. -/
inductive Node where
  | empty
  | set (s : CodeSet)
  | anchor (a : Anchor)
  /-- A group; its text is kept under the number. -/
  | group (index : Nat) (body : Node)
  | cat (a b : Node)
  /-- The first alternative is preferred. -/
  | alt (a b : Node)
  /-- From `min` to `max` times, as often as possible if `greedy`. -/
  | rep (body : Node) (min : Nat) (max : Option Nat) (greedy : Bool)
deriving Repr

namespace Node

/-- The expression can match no characters at all. -/
def nullable : Node → Bool
  | empty => true
  | set _ => false
  | anchor _ => true
  | group _ body => body.nullable
  | cat a b => a.nullable && b.nullable
  | alt a b => a.nullable || b.nullable
  | rep body min _ _ => min == 0 || body.nullable

/-- The expression matches no characters at all, if anything. -/
def widthless : Node → Bool
  | empty => true
  | set _ => false
  | anchor _ => true
  | group _ body => body.widthless
  | cat a b => a.widthless && b.widthless
  | alt a b => a.widthless && b.widthless
  | rep body _ max _ => max == some 0 || body.widthless

/-- A repetition. Of what has no width one round says as much as many; no rounds are nothing at all,
and one round is the body. -/
def repeated (body : Node) (min : Nat) (max : Option Nat) (greedy : Bool) : Node :=
  let min := if body.widthless then Nat.min min 1 else min
  let max := if body.widthless then some (Nat.min (max.getD 1) 1) else max
  if max = some 0 then empty
  else if min = 1 ∧ max = some 1 then body
  else rep body min max greedy

/-- The empty expression. -/
def isEmpty : Node → Bool
  | empty => true
  | _ => false

/-- Parts one after the other, all of them kept. -/
def chain : List Node → Node
  | [] => empty
  | [n] => n
  | n :: rest => cat n (chain rest)

/-- Parts one after the other. -/
def sequence (ns : List Node) : Node :=
  chain (ns.filter fun n => !n.isEmpty)

/-- Alternatives, preferred ones first. -/
def alternatives : List Node → Node
  | [] => set CodeSet.empty
  | [n] => n
  | n :: rest => alt n (alternatives rest)

/-- The set of a part that is one. -/
def set? : Node → Option CodeSet
  | set s => some s
  | _ => none

/-- Alternatives, as one set if each of them is one. -/
def choice (ns : List Node) : Node :=
  match ns.mapM set? with
  | some sets => set (CodeSet.ofRanges (sets.flatMap (·.ranges)))
  | none => alternatives ns

/-- The numbers of the groups. -/
def groupIndices : Node → List Nat
  | empty => []
  | set _ => []
  | anchor _ => []
  | group i body => i :: body.groupIndices
  | cat a b => a.groupIndices ++ b.groupIndices
  | alt a b => a.groupIndices ++ b.groupIndices
  | rep body _ _ _ => body.groupIndices

end Node

end Intake.Regex
