import Understudy.Store.Heap

/-!
# Rankings

Some values, yielded one by one in their order of precedence. Up to three are put in order at once,
by comparing neighbours; more are kept in a heap and put in order as they are asked for.

## Main definitions

* `Ranking`, `Ranking.ofList`: values about to be yielded
* `Ranking.next?`, `Ranking.size`: the next value, and how many are left
* `Ranking.toList`: all values in order
-/

namespace Understudy

/-- Values about to be yielded in order. -/
inductive Ranking (α : Type) where
  | few (values : List α)
  | many (heap : Heap α)

namespace Ranking

variable {α : Type} [Filed α]

/-- Two values in order. -/
def sortTwo (a b : α) : α × α :=
  if precedes b a then (b, a) else (a, b)

/-- Up to three values in order. -/
def sortFew : List α → List α
  | [a, b] =>
    let (a, b) := sortTwo a b
    [a, b]
  | [a, b, c] =>
    let (a, b) := sortTwo a b
    let (b, c) := sortTwo b c
    let (a, b) := sortTwo a b
    [a, b, c]
  | values => values

/-- The largest number of values that are put in order at once. -/
def fewest : Nat := 3

/-- A ranking of some values. -/
def ofList (values : List α) : Ranking α :=
  if values.length ≤ fewest then .few (sortFew values) else .many (.ofList values)

/-- The next value, and the ranking of the others. -/
def next? : Ranking α → Option (α × Ranking α)
  | few [] => none
  | few (value :: rest) => some (value, few rest)
  | many heap => heap.pop?.map fun popped => (popped.1, many popped.2)

omit [Filed α] in
/-- The number of values left. -/
def size : Ranking α → Nat
  | few values => values.length
  | many heap => heap.size

/-- The next so many values. -/
def take : Nat → Ranking α → List α
  | 0, _ => []
  | count + 1, ranking =>
    match ranking.next? with
    | some (value, rest) => value :: take count rest
    | none => []

/-- All values in order. -/
def toList (ranking : Ranking α) : List α :=
  take ranking.size ranking

end Ranking

end Understudy
