import Intake.Regex.Basic

/-!
# Weights

What an expression weighs: the memory that an automaton over the bytes of texts takes for it,
forward or backward. Expressions that weigh too much are refused.

* `byteRanges`: a range of characters as sequences of byte ranges.
* `Node.weight`: an automaton's memory. Every repetition multiplies what it repeats.
* `isHeavy`: one of the two automata is beyond the limit.
-/

namespace Intake.Regex

open Intake.Text (CodeSet)

/-- The bytes of a code point. -/
def bytesOf (n : Nat) : List Nat :=
  if n < 0x80 then [n]
  else if n < 0x800 then [0xC0 + n / 64, 0x80 + n % 64]
  else if n < 0x10000 then [0xE0 + n / 4096, 0x80 + n / 64 % 64, 0x80 + n % 64]
  else [0xF0 + n / 262144, 0x80 + n / 4096 % 64, 0x80 + n / 64 % 64, 0x80 + n % 64]

/-- A sequence of byte ranges. -/
abbrev ByteRanges := List (Nat × Nat)

/-- The last code points of one, two and three bytes. -/
def lengthLimits : List Nat :=
  [0x7F, 0x7FF, 0xFFFF]

/-- Where a range has to be cut so that the bytes of its two parts vary less: the last code point of
the first part. -/
def cut? (lo hi : Nat) : Option Nat :=
  let steps := [64, 4096, 262144]
  let byLength := (lengthLimits.find? fun m => lo ≤ m && m < hi)
  let byStart := (steps.find? fun k => lo / k != hi / k && (lo % k != 0 || hi % k != k - 1)).map
    fun k => if lo % k != 0 then lo / k * k + k - 1 else hi / k * k - 1
  byLength.or (if hi < 0x80 then none else byStart)

/-- Sequences of byte ranges for the code points from `lo` to `hi`, after at most `fuel` cuts in a
row. -/
def sequencesFrom : (fuel lo hi : Nat) → List ByteRanges
  | 0, _, _ => []
  | fuel + 1, lo, hi =>
    match cut? lo hi with
    | some m => sequencesFrom fuel lo m ++ sequencesFrom fuel (m + 1) hi
    | none => [(bytesOf lo).zip (bytesOf hi)]

/-- Sequences of byte ranges for a range of characters. -/
def byteRanges (r : Nat × Nat) : List ByteRanges :=
  let below := if r.1 < 0xD800 then sequencesFrom 32 r.1 (Nat.min r.2 0xD7FF) else []
  let above := if 0xDFFF < r.2 then sequencesFrom 32 (Nat.max r.1 0xE000) r.2 else []
  below ++ above

/-- Which automaton is weighed. -/
inductive Direction where
  | forward | backward
deriving DecidableEq, Repr

/-- What a state weighs, whatever it does. -/
def stateWeight : Nat :=
  32

/-- What a way out of a state on a range of bytes weighs. -/
def stepWeight : Nat :=
  8

/-- What a free way out of a state weighs. -/
def jumpWeight : Nat :=
  4

/-- A state with two free ways out. -/
def forkWeight : Nat :=
  stateWeight + 2 * jumpWeight

/-- The ways out of a state: byte ranges, each with the number of the next state. -/
abbrev Ways := List (Nat × Nat × Nat)

/-- The state that accepts the sequences, among states that are shared; its number, and all
states. The end has the number zero. -/
def shared : (fuel : Nat) → List ByteRanges → Array Ways → Nat × Array Ways
  | 0, _, states => (0, states)
  | fuel + 1, seqs, states =>
    if seqs.all List.isEmpty then (0, states)
    else
      let (ways, states) := (seqs.splitBy fun a b => a.head? == b.head?).foldl
        (fun (ways, states) part =>
          let (next, states) := shared fuel (part.map List.tail) states
          ((part.head?.bind List.head?).elim ways fun (lo, hi) => (lo, hi, next) :: ways, states))
        (([] : Ways), states)
      match states.findIdx? (· == ways) with
      | some i => (i + 1, states)
      | none => (states.size + 1, states.push ways)

/-- The number of elements at the start that two lists have in common. -/
def commonLength : ByteRanges → ByteRanges → Nat
  | a :: as, b :: bs => if a == b then commonLength as bs + 1 else 0
  | _, _ => 0

/-- The states on the way through sequences, those at a common start counted once; `before` is the
sequence in front. -/
def stepCount (before : ByteRanges) : List ByteRanges → Nat
  | [] => 0
  | s :: rest => s.length - commonLength before s + stepCount s rest

/-- What the sum of some weights is. -/
def total (ws : List Nat) : Nat :=
  ws.foldl (· + ·) 0

/-- What a set weighs. -/
def setWeight (d : Direction) (s : CodeSet) : Nat :=
  match s.only? with
  | some n => (bytesOf n).length * stateWeight
  | none =>
    if s.isAscii then 2 * stateWeight + s.ranges.length * stepWeight
    else
      let seqs := s.ranges.flatMap byteRanges
      match d with
      | .forward =>
        let states := (shared 5 seqs #[]).2.toList
        stateWeight + total (states.map fun ways => stateWeight + ways.length * stepWeight)
      | .backward => (2 + stepCount [] seqs) * stateWeight + seqs.length * jumpWeight

namespace Node

/-- The bytes of a literal text. -/
def literal? : Node → Option (List Nat)
  | set s => s.only?.map bytesOf
  | cat a b => a.literal?.bind fun x => b.literal?.map (x ++ ·)
  | _ => none

/-- Alternatives, nested ones brought to one level. -/
def branches : Node → List Node
  | alt a b => a.branches ++ b.branches
  | n => [n]

/-- What a choice between literal texts weighs, by the first bytes of those that are left. -/
def literalsWeight : (fuel : Nat) → List (List Nat) → Nat
  | 0, _ => 0
  | fuel + 1, texts =>
    let heads := (texts.filterMap List.head?).eraseDups
    if heads.isEmpty then 0
    else
      stateWeight + (if heads.length = 1 then 0 else heads.length * stepWeight) +
        total (heads.map fun b =>
          literalsWeight fuel (texts.filterMap fun t =>
            if t.head? = some b then some t.tail else none))

/-- What the alternatives weigh beside the fork in front of them: a nested choice has none of its
own. -/
def branchWeight (n : Node) (weight : Nat) : Nat :=
  match n with
  | alt _ _ => weight - 2 * stateWeight
  | _ => weight + jumpWeight

/-- What an expression weighs. -/
def weight (d : Direction) : Node → Nat
  | empty => stateWeight
  | set s => setWeight d s
  | anchor _ => stateWeight
  | group _ body => (if d = .forward then 2 * stateWeight else 0) + body.weight d
  | cat a b => a.weight d + b.weight d
  | alt a b =>
    match (alt a b).branches.mapM literal? with
    | some texts =>
      let texts := if d = .forward then texts else texts.map List.reverse
      stateWeight + literalsWeight (total (texts.map List.length)) texts
    | none => 2 * stateWeight + a.branchWeight (a.weight d) + b.branchWeight (b.weight d)
  | rep body min max _ =>
    let w := body.weight d
    match min, max with
    | 0, some 1 => forkWeight + w + stateWeight
    | 0, none => if body.nullable then w + 2 * forkWeight + stateWeight else w + forkWeight
    | n, none => n * w + forkWeight
    | n, some m =>
      (if n = 0 then stateWeight else n * w) +
        (if n = m then 0 else stateWeight + (m - n) * (forkWeight + w))

/-- Every match starts at the start of the text. -/
def startsText : Node → Bool
  | anchor a => a == .textStart
  | group _ body => body.startsText
  | cat a b => a.startsText || (a.widthless && b.startsText)
  | alt a b => a.startsText && b.startsText
  | rep body min _ _ => 0 < min && body.startsText
  | _ => false

/-- Every match ends at the end of the text. -/
def endsText : Node → Bool
  | anchor a => a == .textEnd
  | group _ body => body.endsText
  | cat a b => b.endsText || (b.widthless && a.endsText)
  | alt a b => a.endsText && b.endsText
  | rep body min _ _ => 0 < min && body.endsText
  | _ => false

/-- What the automaton of a whole expression weighs. It passes over all that comes before a match,
unless a match has to stand at the edge. -/
def fullWeight (d : Direction) (n : Node) : Nat :=
  let atEdge := if d = .forward then n.startsText else n.endsText
  (if atEdge then stateWeight else 2 * stateWeight + stepWeight + forkWeight) +
    (Node.group 0 n).weight d + stateWeight

/-- The most that an automaton may weigh: ten times two to the twentieth. -/
def weightLimit : Nat :=
  10485760

/-- The expression weighs too much. -/
def isHeavy (n : Node) : Bool :=
  weightLimit < n.fullWeight .forward || weightLimit < n.fullWeight .backward

end Node

end Intake.Regex
