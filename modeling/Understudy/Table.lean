/-!
# Tables

A table is a list of key and value pairs whose keys ascend strictly. JSON objects, header maps and
the indexes of the store are tables, so that equal contents are equal lists and every traversal
runs in ascending key order.

## Main definitions

* `Table.find?`, `Table.insert`, `Table.erase`: look up, add or replace, remove
* `Table.ofList`: the table of a list of pairs, the last value of a repeated key winning
* `Table.Ascending`: the keys ascend strictly
-/

namespace Understudy

/-- Pairs of a key and a value, kept in ascending key order. -/
abbrev Table (κ α : Type) := List (κ × α)

namespace Table

variable {κ α : Type} [DecidableEq κ]

/-- The value stored under a key. -/
def find? (key : κ) : Table κ α → Option α
  | [] => none
  | (k, v) :: rest => if key = k then some v else find? key rest

/-- Whether a key is present. -/
def has (key : κ) (table : Table κ α) : Bool :=
  (find? key table).isSome

/-- The table without a key. -/
def erase (key : κ) : Table κ α → Table κ α
  | [] => []
  | (k, v) :: rest => if key = k then rest else (k, v) :: erase key rest

variable [LT κ] [DecidableLT κ]

/-- The table with a key set to a value, at the key's place in the order. -/
def insert (key : κ) (value : α) : Table κ α → Table κ α
  | [] => [(key, value)]
  | (k, v) :: rest =>
    if key < k then (key, value) :: (k, v) :: rest
    else if key = k then (key, value) :: rest
    else (k, v) :: insert key value rest

/-- The table of a list of pairs; of several values for one key the last stands. -/
def ofList (pairs : List (κ × α)) : Table κ α :=
  pairs.foldl (fun table pair => insert pair.1 pair.2 table) []

omit [DecidableEq κ] [DecidableLT κ] in
/-- The keys ascend strictly, so no key occurs twice. -/
def Ascending (table : Table κ α) : Prop :=
  table.Pairwise fun a b => a.1 < b.1

end Table

end Understudy
