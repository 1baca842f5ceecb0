import Intake.Regex.Basic

/-!
# Programs of expressions

An expression as instructions for a machine that stands at a place of the text. Where there is a
choice, the first way is preferred.
-/

namespace Intake.Regex

/-- One instruction. Places are indices into the program. -/
inductive Instr where
  /-- Passes over one character of the set. -/
  | step (s : Text.CodeSet) (next : Nat)
  | check (a : Anchor) (next : Nat)
  /-- Keeps the place in the text under a number. -/
  | save (slot next : Nat)
  | fork (first second : Nat)
  | accept

/-- Instructions so far; the next one gets the index `code.size`. -/
abbrev Code := Array Instr

/-- A fork that prefers going on with the body if greedy. -/
def fork (greedy : Bool) (body out : Nat) : Instr :=
  if greedy then .fork body out else .fork out body

/-- The number of instructions of an expression. -/
def Node.size : Node → Nat
  | empty => 0
  | set _ => 1
  | anchor _ => 1
  | group _ body => body.size + 2
  | cat a b => a.size + b.size
  | alt a b => a.size + b.size + 2
  | rep body min max _ =>
    match max with
    | some m => min * body.size + (m - min) * (body.size + 1)
    | none => if min = 0 then body.size + 2 else min * body.size + 1

/-- Repeats a step `n` times. -/
def times (n : Nat) (f : Code → Code) (code : Code) : Code :=
  match n with
  | 0 => code
  | n + 1 => times n f (f code)

/-- Appends the instructions of an expression; a match of it goes on behind the last one. A jump is
a fork with two equal ways. -/
def Node.emit : Node → Code → Code
  | empty, code => code
  | set s, code => code.push (.step s (code.size + 1))
  | anchor a, code => code.push (.check a (code.size + 1))
  | group i body, code =>
    let code := body.emit (code.push (.save (2 * i) (code.size + 1)))
    code.push (.save (2 * i + 1) (code.size + 1))
  | cat a b, code => b.emit (a.emit code)
  | alt a b, code =>
    let start := code.size
    let second := start + 1 + a.size + 1
    let out := second + b.size
    let code := a.emit (code.push (.fork (start + 1) second))
    b.emit (code.push (.fork out out))
  | rep body min max greedy, code =>
    match max with
    | some m =>
      let code := times min body.emit code
      let out := code.size + (m - min) * (body.size + 1)
      times (m - min) (fun code => body.emit (code.push (fork greedy (code.size + 1) out))) code
    | none =>
      if min = 0 then
        if body.nullable then
          -- at least once, or not at all: an empty round may not come before leaving
          let start := code.size
          let out := start + body.size + 2
          let code := body.emit (code.push (fork greedy (start + 1) out))
          code.push (fork greedy (start + 1) out)
        else
          let start := code.size
          let out := start + body.size + 2
          let code := body.emit (code.push (fork greedy (start + 1) out))
          code.push (.fork start start)
      else
        let code := times (min - 1) body.emit code
        let start := code.size
        let code := body.emit code
        code.push (fork greedy start (code.size + 1))

/-- The program of a whole expression, with the place of the match in the slots 0 and 1. -/
def Node.program (n : Node) : Code :=
  ((Node.group 0 n).emit #[]).push .accept

end Intake.Regex
