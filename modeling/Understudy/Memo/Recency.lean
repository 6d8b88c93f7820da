/-!
# Recency caches

A bounded cache that forgets what was asked for longest ago. Looking a key up makes it the most
recent one, and adding a key to a full cache drops the least recent one. A cache has room for at
least one key.

## Main definitions

* `Recency`: the cache, its entries in order of recency
* `Recency.find?`, `Recency.touch`, `Recency.put`: look up, refresh, add
-/

namespace Understudy

/-- A cache with the most recently used entry first. -/
structure Recency (κ α : Type) where
  /-- The number of entries kept. -/
  capacity : Nat
  capacity_pos : 0 < capacity
  entries : List (κ × α)

namespace Recency

variable {κ α : Type}

/-- The empty cache of a capacity; a capacity of zero counts as one. -/
def ofCapacity (capacity : Nat) : Recency κ α where
  capacity := max capacity 1
  capacity_pos := by omega
  entries := []

/-- The number of entries. -/
def size (cache : Recency κ α) : Nat :=
  cache.entries.length

/-- Whether there are no entries. -/
def isEmpty (cache : Recency κ α) : Bool :=
  cache.entries.isEmpty

/-- The keys, the most recent one first. -/
def keys (cache : Recency κ α) : List κ :=
  cache.entries.map Prod.fst

variable [DecidableEq κ]

/-- The entries without a key. -/
def without (key : κ) (entries : List (κ × α)) : List (κ × α) :=
  entries.filter fun entry => entry.1 ≠ key

/-- The value under a key. -/
def find? (cache : Recency κ α) (key : κ) : Option α :=
  (cache.entries.find? fun entry => entry.1 = key).map Prod.snd

/-- Makes an entry the most recent one; the least recent one goes when there is no room for it. -/
def put (cache : Recency κ α) (key : κ) (value : α) : Recency κ α :=
  { cache with entries := ((key, value) :: without key cache.entries).take cache.capacity }

/-- Looks a key up and makes it the most recent one if it is there. -/
def touch (cache : Recency κ α) (key : κ) : Option (α × Recency κ α) :=
  (cache.find? key).map fun value => (value, cache.put key value)

end Recency

end Understudy
