import Understudy.Store.Filed

/-!
# Heaps

A heap of stored values with the value that comes first on top. The left side of every node is at
least as deep along its right edge as the right side, so merging two heaps takes few steps.

## Main definitions

* `Heap`, `Heap.merge`, `Heap.ofList`: heaps and how they are built
* `Heap.pop?`: the value on top and the heap without it
-/

namespace Understudy

/-- A heap. `depth` is the number of nodes along the right edge. -/
inductive Heap (α : Type) where
  | empty
  | node (depth : Nat) (top : α) (left right : Heap α)

namespace Heap

variable {α : Type}

/-- The number of nodes along the right edge. -/
def depth : Heap α → Nat
  | empty => 0
  | node depth _ _ _ => depth

/-- The number of values. -/
def size : Heap α → Nat
  | empty => 0
  | node _ _ left right => left.size + right.size + 1

/-- A node over two heaps, the deeper one on the left. -/
def join (top : α) (a b : Heap α) : Heap α :=
  if b.depth ≤ a.depth then node (b.depth + 1) top a b else node (a.depth + 1) top b a

variable [Filed α]

/-- The heap of the values of two heaps. -/
def merge : Heap α → Heap α → Heap α
  | empty, b => b
  | a, empty => a
  | node depth top left right, node depth' top' left' right' =>
    if precedes top' top then join top' left' (merge (node depth top left right) right')
    else join top left (merge right (node depth' top' left' right'))
termination_by a b => a.size + b.size
decreasing_by all_goals simp only [size]; omega

/-- The heap with one more value. -/
def insert (value : α) (heap : Heap α) : Heap α :=
  merge (node 1 value empty empty) heap

/-- The heap of some values. -/
def ofList (values : List α) : Heap α :=
  values.foldl (fun heap value => heap.insert value) empty

/-- The value on top, and the heap of the others. -/
def pop? : Heap α → Option (α × Heap α)
  | empty => none
  | node _ top left right => some (top, merge left right)

end Heap

end Understudy
