/-!
# Edit distance

The least number of insertions, deletions and substitutions that turn one text into another,
computed row by row: each row holds the distances from a start of the first text to every start of
the second.

## Main definitions

* `nextRow`: the row after one more character of the first text
* `editDistance`: the distance, the last entry of the last row
-/

namespace Understudy.Text

/-- The entries of a row after its first one. `left` is the entry just made and `diagonal` the one
above it; the rest of the row above stands over the characters still to come. -/
def nextEntries (c : Char) : List Char → (diagonal left : Nat) → (above : List Nat) → List Nat
  | d :: rest, diagonal, left, up :: above =>
    let entry := min (min (up + 1) (left + 1)) (diagonal + if c = d then 0 else 1)
    entry :: nextEntries c rest up entry above
  | _, _, _, _ => []

/-- The row after one more character of the first text. -/
def nextRow (b : List Char) (row : List Nat) (c : Char) : List Nat :=
  match row with
  | [] => []
  | first :: above => (first + 1) :: nextEntries c b first (first + 1) above

/-- The rows of a first text, starting from the row of the empty one. -/
def lastRow (a b : List Char) : List Nat :=
  a.foldl (nextRow b) (List.range (b.length + 1))

/-- The number of single-character edits between two texts. -/
def editDistance (a b : List Char) : Nat :=
  (lastRow a b).getLast?.getD 0

end Understudy.Text
