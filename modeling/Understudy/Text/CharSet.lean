/-!
# Character sets

A set of characters is a list of ranges of code points, each range below the next one and not
touching it. Every operation yields such a list, so a set has one representation.

## Main definitions

* `CharSet.mem`: membership
* `CharSet.ofRanges`, `CharSet.ofCodes`, `CharSet.union`, `CharSet.compl`, `CharSet.inter`,
  `CharSet.sdiff`, `CharSet.symmDiff`: the set operations
-/

namespace Understudy.Text

/-- A set of code points, as ascending ranges that neither overlap nor touch. -/
structure CharSet where
  /-- The first and the last code point of every range. -/
  ranges : List (Nat × Nat)
deriving DecidableEq, Inhabited

namespace CharSet

/-- The last code point. -/
def top : Nat := 0x10ffff

/-- Whether a code point lies in one of some ascending ranges. -/
def inRanges (code : Nat) : List (Nat × Nat) → Bool
  | [] => false
  | (low, high) :: rest => if code < low then false else code ≤ high || inRanges code rest

/-- Whether a character is in the set. -/
def mem (set : CharSet) (c : Char) : Bool :=
  inRanges c.toNat set.ranges

/-- Joins ranges sorted by their first code point where they overlap or touch. -/
def join : Nat × Nat → List (Nat × Nat) → List (Nat × Nat)
  | range, [] => [range]
  | (low, high), (low', high') :: rest =>
    if low' ≤ high + 1 then join (low, max high high') rest
    else (low, high) :: join (low', high') rest

/-- The set of the code points in some ranges, given in any order. -/
def ofRanges (ranges : List (Nat × Nat)) : CharSet :=
  match (ranges.filter fun range => range.1 ≤ range.2).mergeSort fun a b => a.1 ≤ b.1 with
  | [] => ⟨[]⟩
  | first :: rest => ⟨join first rest⟩

/-- The gaps between ascending ranges, from a code point on. -/
def gaps (start : Nat) : List (Nat × Nat) → List (Nat × Nat)
  | [] => if start ≤ top then [(start, top)] else []
  | (low, high) :: rest =>
    if start < low then (start, low - 1) :: gaps (high + 1) rest else gaps (high + 1) rest

/-- The empty set. -/
def empty : CharSet := ⟨[]⟩

/-- The set of one range. -/
def range (low high : Char) : CharSet :=
  ofRanges [(low.toNat, high.toNat)]

/-- The set of some code points, given one by one. -/
def ofCodes (codes : List Nat) : CharSet :=
  ofRanges (codes.map fun code => (code, code))

/-- The set of one character. -/
def single (c : Char) : CharSet :=
  ⟨[(c.toNat, c.toNat)]⟩

/-- All code points outside a set. -/
def compl (set : CharSet) : CharSet :=
  ⟨gaps 0 set.ranges⟩

/-- The code points of either set. -/
def union (a b : CharSet) : CharSet :=
  ofRanges (a.ranges ++ b.ranges)

/-- The code points of both sets. -/
def inter (a b : CharSet) : CharSet :=
  (a.compl.union b.compl).compl

/-- The code points of the first set that are not in the second. -/
def sdiff (a b : CharSet) : CharSet :=
  a.inter b.compl

/-- The code points of exactly one of two sets. -/
def symmDiff (a b : CharSet) : CharSet :=
  (a.sdiff b).union (b.sdiff a)

/-- Whether every code point is below 128. -/
def isAscii (set : CharSet) : Bool :=
  set.ranges.all fun range => range.2 < 128

end CharSet

end Understudy.Text
