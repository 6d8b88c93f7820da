import Understudy.Pattern.Expr

/-!
# Pattern programs

A pattern as a program of small steps: take one character, check the place, go on in two ways, or
accept. A fork lists the preferred way first. Programs are built back to front, every part being
given the step at which the match goes on after it.

## Main definitions

* `Step`, `Program`: the steps, and a program with its first step
* `Expr.program`: the program of a pattern
-/

namespace Understudy.Pattern

open Text

/-- A step of a program; steps refer to each other by their numbers. -/
inductive Step where
  | take (chars : CharSet) (next : Nat)
  | check (anchor : Anchor) (next : Nat)
  | fork (first second : Nat)
  | accept
deriving Inhabited

/-- A program and the number of its first step. -/
structure Program where
  steps : Array Step
  start : Nat

/-- A program under construction. -/
abbrev Build := StateM (Array Step)

/-- Adds a step and yields its number. -/
def emit (step : Step) : Build Nat :=
  modifyGet fun steps => (steps.size, steps.push step)

/-- A fork between going on with a part and leaving it, the preferred way first. -/
def Step.choose (greedy : Bool) (part leave : Nat) : Step :=
  if greedy then .fork part leave else .fork leave part

/-- Adds a fork that may come back to itself: `part` builds what the fork leads to, given the number
of the fork. Yields the numbers of the fork and of the part. -/
def emitLoop (greedy : Bool) (leave : Nat) (part : Nat → Build Nat) : Build (Nat × Nat) := do
  let fork ← emit (.fork leave leave)
  let entry ← part fork
  modify fun steps => steps.setIfInBounds fork (.choose greedy entry leave)
  return (fork, entry)

/-- Builds a part several times in a row. -/
def copies (part : Nat → Build Nat) : Nat → Nat → Build Nat
  | 0, next => return next
  | count + 1, next => do copies part count (← part next)

/-- Builds a part that may occur up to so many times and may be left before each of them. -/
def optional (greedy : Bool) (part : Nat → Build Nat) (leave : Nat) : Nat → Nat → Build Nat
  | 0, next => return next
  | count + 1, next => do
    let entry ← part next
    optional greedy part leave count (← emit (.choose greedy entry leave))

/-- Builds a repetition without an upper limit. A part that may match nothing is entered once before
the fork that repeats it, so that matching nothing does not hide what matches something. -/
def endless (greedy nullable : Bool) (part : Nat → Build Nat) (least next : Nat) : Build Nat := do
  match least with
  | 0 =>
    let (fork, entry) ← emitLoop greedy next part
    if nullable then emit (.choose greedy entry next) else return fork
  | least + 1 =>
    let (_, entry) ← emitLoop greedy next part
    copies part least entry

/-- Builds a pattern in front of the step that follows it, and yields its first step. -/
def Expr.build : Expr → Nat → Build Nat
  | .empty, next => return next
  | .set chars, next => emit (.take chars next)
  | .anchor condition, next => emit (.check condition next)
  | .group body, next => body.build next
  | .repeated body least none greedy, next => endless greedy body.nullable body.build least next
  | .repeated body least (some most) greedy, next => do
    copies body.build least (← optional greedy body.build next (most - least) next)
  | .seq first second, next => do first.build (← second.build next)
  | .alt first second, next => do
    let first ← first.build next
    let second ← second.build next
    emit (.fork first second)

/-- The program of a pattern. -/
def Expr.program (expr : Expr) : Program :=
  let (start, steps) := (expr.build 0).run #[.accept]
  ⟨steps, start⟩

end Understudy.Pattern
