import Understudy.Pattern.Program

/-!
# Searching with a pattern

All ways of matching advance together, character by character, in order of preference. Each way
remembers where it began; a way that accepts drops every way it is preferred to, and no way begins
once one has accepted. So the match found begins leftmost and, among those, is the preferred one.

## Main definitions

* `Ways`: the ways of matching at a place
* `Program.search`: the span of the match
-/

namespace Understudy.Pattern

/-- A way of matching: the step it stands at, and the place at which it began. -/
structure Way where
  step : Nat
  began : Nat

/-- The ways of matching at a place. -/
structure Ways where
  /-- The ways that wait for a character, the least preferred one first. -/
  waiting : List Way := []
  /-- The place at which the preferred way that accepts here began. -/
  accepted : Option Nat := none

/-- Follows ways to the steps that take a character, in order of preference; each step is visited
once. `fuel` bounds the ways to be followed. -/
def follow (program : Program) (before after : Option Char) :
    Nat → Array Bool → Ways → List Way → Ways
  | 0, _, ways, _ => ways
  | _ + 1, _, ways, [] => ways
  | fuel + 1, seen, ways, way :: rest =>
    if seen.getD way.step true then follow program before after fuel seen ways rest
    else
      let seen := seen.setIfInBounds way.step true
      match program.steps[way.step]? with
      | none => follow program before after fuel seen ways rest
      | some .accept => { ways with accepted := some way.began }
      | some (.take _ _) =>
        follow program before after fuel seen { ways with waiting := way :: ways.waiting } rest
      | some (.check anchor next) =>
        if anchor.holds before after then
          follow program before after fuel seen ways ({ way with step := next } :: rest)
        else follow program before after fuel seen ways rest
      | some (.fork first second) =>
        follow program before after fuel seen ways
          ({ way with step := first } :: { way with step := second } :: rest)

/-- The ways at a place, given those that a character has brought there. -/
def waysAt (program : Program) (before after : Option Char) (arrived : List Way) : Ways :=
  follow program before after (3 * program.steps.size + 3)
    (Array.replicate program.steps.size false) {} arrived

/-- The way that a waiting way becomes when a character comes that it takes. -/
def Way.advance? (program : Program) (c : Char) (way : Way) : Option Way :=
  match program.steps[way.step]? with
  | some (.take chars next) => if chars.mem c then some { way with step := next } else none
  | _ => none

/-- Searches the rest of a text. `place` is the number of bytes before it, `arrived` the ways that
have come there and `best` the match they have to beat. -/
def searchFrom (program : Program) (place : Nat) (before : Option Char) (arrived : List Way)
    (best : Option (Nat × Nat)) (rest : List Char) : Option (Nat × Nat) :=
  let entering := if best.isNone then arrived ++ [⟨program.start, place⟩] else arrived
  let ways := waysAt program before rest.head? entering
  let best := match ways.accepted with
    | some began => some (began, place)
    | none => best
  match rest with
  | [] => best
  | c :: rest =>
    let taken := ways.waiting.reverse.filterMap (Way.advance? program c)
    if taken.isEmpty && best.isSome then best
    else searchFrom program (place + c.utf8Size) (some c) taken best rest

/-- The span of the preferred leftmost match in a text, as byte positions. -/
def Program.search (program : Program) (text : String) : Option (Nat × Nat) :=
  searchFrom program 0 none [] none text.toList

end Understudy.Pattern
