import Understudy.Store.Filed
import Understudy.Table

/-!
# The store

Values filed under keys made from the digests of the two parts of their names. Every value is in the
bucket of its key; each identifier is filed with the key of its bucket; and each left digest is
filed with the number of values that have it, which tells which part of a key is unknown.

## Main definitions

* `Store`: buckets, keys by identifier, and counts by left digest
* `Store.put`, `Store.remove`, `Store.delete`, `Store.deleteWhere`: the changes
* `Store.get?`, `Store.values`, `Store.size`: the contents
-/

namespace Understudy

/-- A bucket's key: the left digest in the upper half, the right one in the lower half. -/
def bucketKey (left right : UInt32) : UInt64 :=
  left.toUInt64 <<< 32 ||| right.toUInt64

/-- The left digest in a bucket's key. -/
def leftOf (key : UInt64) : UInt32 :=
  (key >>> 32).toUInt32

/-- Stored values. -/
structure Store (α : Type) where
  /-- The number of values for each left digest. -/
  lefts : Table UInt32 Nat := []
  /-- The values for each key, by identifier. -/
  buckets : Table UInt64 (Table Identifier α) := []
  /-- The key for each identifier. -/
  keys : Table Identifier UInt64 := []

namespace Store

variable {α : Type}

/-- The store without values. -/
def empty : Store α := {}

instance : Inhabited (Store α) := ⟨empty⟩

/-- The bucket of a key; empty if there is none. -/
def bucket (store : Store α) (key : UInt64) : Table Identifier α :=
  (store.buckets.find? key).getD []

/-- Counts one value more for a left digest. -/
def countLeft (left : UInt32) (lefts : Table UInt32 Nat) : Table UInt32 Nat :=
  lefts.insert left ((lefts.find? left).getD 0 + 1)

/-- Counts one value less for a left digest, which goes when no value has it. -/
def uncountLeft (left : UInt32) (lefts : Table UInt32 Nat) : Table UInt32 Nat :=
  match lefts.find? left with
  | some count => if count - 1 = 0 then lefts.erase left else lefts.insert left (count - 1)
  | none => lefts

/-- Takes the value of an identifier out, if there is one. -/
def remove (id : Identifier) (store : Store α) : Option α × Store α :=
  match store.keys.find? id with
  | none => (none, store)
  | some key =>
    let keys := store.keys.erase id
    match store.buckets.find? key with
    | none => (none, { store with keys })
    | some bucket =>
      let rest := bucket.erase id
      let buckets :=
        if rest.isEmpty then store.buckets.erase key else store.buckets.insert key rest
      (bucket.find? id, { lefts := uncountLeft (leftOf key) store.lefts, buckets, keys })

/-- The value of an identifier. -/
def get? (store : Store α) (id : Identifier) : Option α :=
  match store.keys.find? id with
  | some key => (store.buckets.find? key).bind fun bucket => bucket.find? id
  | none => none

/-- The values of some identifiers, as far as there are any. -/
def getAll (store : Store α) (ids : List Identifier) : List α :=
  ids.filterMap store.get?

/-- All values, bucket by bucket. -/
def values (store : Store α) : List α :=
  store.buckets.flatMap fun entry => entry.2.map Prod.snd

/-- The number of values. -/
def size (store : Store α) : Nat :=
  store.keys.length

/-- Whether there are no values. -/
def isEmpty (store : Store α) : Bool :=
  store.size == 0

variable [Filed α]

/-- Files a value under a key, in place of any value with its identifier. -/
def put (key : UInt64) (value : α) (store : Store α) : Store α :=
  let id := Filed.id value
  let store := (store.remove id).2
  { lefts := countLeft (leftOf key) store.lefts
    buckets := store.buckets.insert key ((store.bucket key).insert id value)
    keys := store.keys.insert id key }

omit [Filed α] in
/-- Deletes the values of some identifiers, and yields how many there were. -/
def delete (store : Store α) : List Identifier → Nat × Store α
  | [] => (0, store)
  | id :: rest =>
    let (removed, store) := store.remove id
    let (count, store) := store.delete rest
    (if removed.isSome then count + 1 else count, store)

/-- Deletes the values that pass a test, and yields their identifiers. -/
def deleteWhere (test : α → Bool) (store : Store α) : List Identifier × Store α :=
  let ids := (store.values.filter test).map Filed.id
  (ids, ids.foldl (fun store id => (store.remove id).2) store)

end Store

end Understudy
