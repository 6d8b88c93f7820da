import Understudy.Pattern.Named

/-!
# Pattern expressions

What a pattern means once its flags are resolved: sets of characters, anchors, repetition, sequence
and choice. A choice prefers its first branch, and a greedy repetition prefers to go on.

## Main definitions

* `Anchor`: a condition on the place between two characters
* `Expr`: a pattern
* `Expr.nullable`, `Expr.onlyEmpty`: whether it may match nothing, and whether it must
* `Expr.times`, `Expr.chain`, `Expr.choice`: repetition, sequence and choice, simplified
-/

namespace Understudy.Pattern

open Text

/-- What can be asked of the words around a place. -/
inductive WordEdge where
  /-- One side is in a word and the other is not. -/
  | boundary
  /-- Both sides are in a word, or neither is. -/
  | interior
  | opening
  | closing
  /-- The side before is not in a word. -/
  | openingHalf
  /-- The side after is not in a word. -/
  | closingHalf
deriving DecidableEq

/-- A condition on a place in the text. -/
inductive Anchor where
  | textStart
  | textEnd
  | lineStart
  | lineEnd
  /-- The start of a line that a line feed, a carriage return or both have ended. -/
  | anyLineStart
  | anyLineEnd
  | word (members : CharSet) (edge : WordEdge)
deriving DecidableEq

/-- Whether a place satisfies a condition, given the characters before and after it. -/
def Anchor.holds (before after : Option Char) : Anchor → Bool
  | .textStart => before.isNone
  | .textEnd => after.isNone
  | .lineStart => before.isNone || before == some '\n'
  | .lineEnd => after.isNone || after == some '\n'
  | .anyLineStart =>
    before.isNone || before == some '\n' || (before == some '\r' && after != some '\n')
  | .anyLineEnd =>
    after.isNone || after == some '\r' || (after == some '\n' && before != some '\r')
  | .word members edge =>
    let left := before.any members.mem
    let right := after.any members.mem
    match edge with
    | .boundary => left != right
    | .interior => left == right
    | .opening => !left && right
    | .closing => left && !right
    | .openingHalf => !left
    | .closingHalf => !right

/-- A pattern with its flags resolved. -/
inductive Expr where
  | empty
  | set (chars : CharSet)
  | anchor (anchor : Anchor)
  /-- A part whose place in a match is remembered. -/
  | group (body : Expr)
  /-- From `least` to `most` times, without an upper limit if there is no `most`. -/
  | repeated (body : Expr) (least : Nat) (most : Option Nat) (greedy : Bool)
  | seq (first second : Expr)
  | alt (first second : Expr)
deriving DecidableEq

namespace Expr

/-- Whether the pattern may match the empty text. A set of no characters counts as if it might. -/
def nullable : Expr → Bool
  | .empty => true
  | .set chars => chars.ranges.isEmpty
  | .anchor _ => true
  | .group body => body.nullable
  | .repeated body least _ _ => least == 0 || body.nullable
  | .seq first second => first.nullable && second.nullable
  | .alt first second => first.nullable || second.nullable

/-- Whether the pattern matches the empty text and no other. -/
def onlyEmpty : Expr → Bool
  | .empty => true
  | .set _ => false
  | .anchor _ => true
  | .group body => body.onlyEmpty
  | .repeated body _ _ _ => body.onlyEmpty
  | .seq first second => first.onlyEmpty && second.onlyEmpty
  | .alt first second => first.onlyEmpty && second.onlyEmpty

/-- Whether there is a group in the pattern. -/
def hasGroup : Expr → Bool
  | .empty | .set _ | .anchor _ => false
  | .group _ => true
  | .repeated body _ _ _ => body.hasGroup
  | .seq first second => first.hasGroup || second.hasGroup
  | .alt first second => first.hasGroup || second.hasGroup

/-- A repetition. Matching the empty text over and over is matching it once; no time at all is the
empty pattern, and once is the pattern itself. -/
def times (body : Expr) (least : Nat) (most : Option Nat) (greedy : Bool) : Expr :=
  let (least, most) :=
    if body.onlyEmpty then (min least 1, some (min (most.getD 1) 1)) else (least, most)
  match least, most with
  | 0, some 0 => .empty
  | 1, some 1 => body
  | least, most => .repeated body least most greedy

/-- The parts of a sequence. -/
def parts : Expr → List Expr
  | .empty => []
  | .seq first second => first.parts ++ second.parts
  | expr => [expr]

/-- The branches of a choice. -/
def branches : Expr → List Expr
  | .alt first second => first.branches ++ second.branches
  | expr => [expr]

/-- The sequence with some parts. -/
def ofParts : List Expr → Expr
  | [] => .empty
  | [part] => part
  | part :: rest => .seq part (ofParts rest)

/-- The choice between a branch and those after it. -/
def ofBranches (branch : Expr) : List Expr → Expr
  | [] => branch
  | next :: rest => .alt branch (ofBranches next rest)

/-- The union of branches that all are sets. -/
def unionOf? : List Expr → Option CharSet
  | [] => some CharSet.empty
  | .set chars :: rest => (unionOf? rest).map chars.union
  | _ => none

/-- The choice between branches; between sets it is their union. -/
def flatChoice (branches : List Expr) : Expr :=
  match unionOf? branches, branches with
  | some chars, _ => .set chars
  | none, [] => .empty
  | none, branch :: rest => ofBranches branch rest

/-- The longest list that two lists start with. Groups differ wherever they stand. -/
def commonParts : List Expr → List Expr → List Expr
  | a :: as, b :: bs => if a = b ∧ ¬ a.hasGroup then a :: commonParts as bs else []
  | _, _ => []

/-- The parts that sequences start with, all of them; none if a branch is no sequence. -/
def sharedParts : List Expr → List Expr
  | [] => []
  | [branch] => if branch.parts.length < 2 then [] else branch.parts
  | branch :: rest =>
    if branch.parts.length < 2 then [] else commonParts branch.parts (sharedParts rest)

/-- A sequence. -/
def chain (exprs : List Expr) : Expr :=
  ofParts (exprs.flatMap parts)

/-- A choice. Sequences that start alike are a sequence that ends in a choice; where that start may
match in several ways, its preferred way then counts for more than the order of the branches. -/
def choice (exprs : List Expr) : Expr :=
  let all := exprs.flatMap branches
  match all with
  | [branch] => branch
  | all =>
    let shared := sharedParts all
    let ends := all.map fun branch => ofParts (branch.parts.drop shared.length)
    chain (shared ++ [flatChoice (if shared.isEmpty then all else ends.flatMap branches)])

end Expr

end Understudy.Pattern
