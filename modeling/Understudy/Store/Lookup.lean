import Understudy.Memo.Consult
import Understudy.Store.Basic
import Understudy.Store.Ranking

/-!
# Looking values up by name

Values are stored and looked up by the digests of their names, which are asked for. A left part with
points, such as `shop.Cart`, also stands for what follows its last point; values of both come
together. If neither is there, it is the right part that is missing as soon as the short left part
is known.

## Main definitions

* `Miss`: which part of a name is unknown
* `Store.upsert`: stores values by their names
* `Store.position`: the keys that a name stands for
* `Store.findAll`, `Store.findIn`: the values of a name, or the one of them with an identifier
-/

namespace Understudy

/-- Which part of a name is unknown. -/
inductive Miss where
  | left
  | right
deriving DecidableEq

/-- The message for an unknown part. -/
def Miss.message : Miss → String
  | .left => "left not found"
  | .right => "right not found"

/-- What follows the last point of a name; none if there is no point. -/
def shortName? (name : String) : Option String :=
  if name.toList.contains '.' then
    some (String.ofList (name.toList.reverse.takeWhile (· != '.')).reverse)
  else none

namespace Store

variable {α : Type}

/-- The key of a name. -/
def keyOf (left right : String) : Consult UInt64 := do
  let left ← Consult.digested left
  let right ← Consult.digested right
  return bucketKey left right

/-- The key of two digests, if there is a bucket for it. -/
def locate (store : Store α) (left right : UInt32) : Except Miss UInt64 :=
  if store.lefts.has left then
    if store.buckets.has (bucketKey left right) then .ok (bucketKey left right)
    else .error .right
  else .error .left

/-- The keys that the full and the short form of a name stand for together. -/
def joinKeys : Except Miss UInt64 → Except Miss UInt64 → Except Miss (List UInt64)
  | .ok full, .ok short => .ok (if full = short then [full] else [full, short])
  | .ok full, .error _ => .ok [full]
  | .error _, .ok short => .ok [short]
  | .error _, .error .right => .error .right
  | .error miss, .error .left => .error miss

/-- The keys that a name stands for, of which there is at least one. -/
def position (store : Store α) (left right : String) : Consult (Except Miss (List UInt64)) := do
  let rightDigest ← Consult.digested right
  let full := store.locate (← Consult.digested left) rightDigest
  match shortName? left with
  | none => return full.map fun key => [key]
  | some short => return joinKeys full (store.locate (← Consult.digested short) rightDigest)

/-- The value of an identifier among those of a name. -/
def findIn (store : Store α) (left right : String) (id : Identifier) :
    Consult (Except Miss (Option α)) := do
  return (← store.position left right).map fun keys =>
    keys.findSome? fun key => (store.bucket key).find? id

variable [Filed α]

/-- Stores values in order, each in place of any with its identifier, and yields their
identifiers. -/
def upsert (store : Store α) (values : List α) : Consult (List Identifier × Store α) := do
  let keyed ← values.mapM fun value => do
    return (← keyOf (Filed.left value) (Filed.right value), value)
  return (values.map Filed.id, keyed.foldl (fun store entry => store.put entry.1 entry.2) store)

/-- The values of a name, in order of precedence. -/
def findAll (store : Store α) (left right : String) : Consult (Except Miss (Ranking α)) := do
  return (← store.position left right).map fun keys =>
    .ofList (keys.flatMap fun key => (store.bucket key).map Prod.snd)

end Store

end Understudy
