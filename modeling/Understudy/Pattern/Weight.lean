import Understudy.Pattern.Expr

/-!
# Weights of patterns

A pattern whose matcher would take too much memory is refused. A matcher reads bytes, so a set of
characters costs what its byte sequences cost: going backward through the text, a state for every
beginning that the sequences have in common. Going forward, a matcher shares more of a set, but has
to mark where groups begin and end.

## Main definitions

* `setPieces`: the byte sequences of a set, written as blocks of code points
* `Expr.weight`: an estimate of the bytes that a matcher takes
* `Expr.fits`: whether the matchers are small enough
-/

namespace Understudy.Pattern

open Text

/-- A block of code points at every level of a byte sequence: the first and the last block of the
level, the leading byte first. -/
abbrev Piece := List (Nat × Nat)

/-- The piece of a range that fills whole blocks at all levels below the highest. -/
def wholePiece (level low high : Nat) : Piece :=
  (List.range (level + 1)).reverse.map fun below =>
    (low / Nat.pow 64 below, high / Nat.pow 64 below)

/-- Cuts a range into pieces: below a block that it does not fill, and over all blocks that it
does. -/
def rangePieces : Nat → Nat → Nat → List Piece
  | 0, low, high => [[(low, high)]]
  | level + 1, low, high =>
    let size := Nat.pow 64 (level + 1)
    let first := low / size
    let last := high / size
    if first = last then (rangePieces level low high).map ((first, first) :: ·)
    else
      let cutLow := low % size != 0
      let cutHigh := high % size != size - 1
      let opening := if cutLow then rangePieces level low (first * size + size - 1) else []
      let closing := if cutHigh then rangePieces level (last * size) high else []
      let firstWhole := if cutLow then first + 1 else first
      let afterWhole := if cutHigh then last else last + 1
      let middle :=
        if firstWhole < afterWhole then
          [wholePiece (level + 1) (firstWhole * size) (afterWhole * size - 1)]
        else []
      opening.map ((first, first) :: ·) ++ middle ++ closing.map ((last, last) :: ·)

/-- The code points that are written with one byte, with two, and so on; surrogates are not
written. -/
def byteLengths : List (Nat × List (Nat × Nat)) :=
  [(0, [(0, 0x7f)]), (1, [(0x80, 0x7ff)]), (2, [(0x800, 0xd7ff), (0xe000, 0xffff)]),
    (3, [(0x10000, 0x10ffff)])]

/-- The pieces of a set, by the number of bytes. -/
def setPieces (chars : CharSet) : List (List Piece) :=
  byteLengths.map fun (level, spans) =>
    spans.flatMap fun (first, last) =>
      chars.ranges.flatMap fun (low, high) =>
        let low := max low first
        let high := min high last
        if low ≤ high then rangePieces level low high else []

/-- The length of the beginning that two pieces have in common. -/
def commonLength : Piece → Piece → Nat
  | a :: as, b :: bs => if a = b then commonLength as bs + 1 else 0
  | _, _ => 0

/-- The number of different beginnings of some ascending pieces, the one before them given. -/
def beginnings (before : Piece) : List Piece → Nat
  | [] => 0
  | piece :: rest => piece.length - commonLength before piece + beginnings piece rest

/-- The bytes that a state of a matcher takes, its transitions apart. -/
def stateWeight : Nat := 32

/-- The bytes that a state which may go on in two ways takes. -/
def forkWeight : Nat := stateWeight + 8

/-- The bytes that matching a set backward takes. A character is matched byte by byte, and ASCII
ranges are matched by one state. -/
def setWeight (chars : CharSet) : Nat :=
  match chars.ranges with
  | [(low, high)] => if low = high then stateWeight * (Char.ofNat low).utf8Size else wide
  | _ => wide
where
  /-- The bytes for a set of more than one character. -/
  wide : Nat :=
    if chars.isAscii then 2 * stateWeight + 8 * chars.ranges.length
    else
      2 * stateWeight +
        ((setPieces chars).map fun pieces =>
          4 * pieces.length + stateWeight * beginnings [] pieces).foldl (· + ·) 0

namespace Expr

/-- An estimate of the bytes that a matcher takes; a repeated part counts once for every copy that
is made of it. Going forward, a set beyond ASCII takes about half of what it takes backward. -/
def weight (forward : Bool) : Expr → Nat
  | .empty => stateWeight
  | .set chars =>
    if forward && !chars.isAscii then setWeight chars / 2 else setWeight chars
  | .anchor _ => stateWeight
  | .group body => body.weight forward + if forward then 2 * stateWeight else 0
  | .repeated body least none _ => max least 1 * body.weight forward + forkWeight
  | .repeated body least (some most) _ =>
    least * body.weight forward + (most - least) * (body.weight forward + forkWeight) + stateWeight
  | .seq first second => first.weight forward + second.weight forward
  | .alt first second => first.weight forward + second.weight forward + 2 * forkWeight

/-- The bytes a matcher may take. -/
def heaviest : Nat := 10 * 1024 * 1024

/-- Whether the matchers of both directions are small enough. -/
def fits (expr : Expr) : Bool :=
  max (expr.weight true) (expr.weight false) ≤ heaviest

end Expr

end Understudy.Pattern
