import Understudy.Json.Basic

/-!
# Predicates

What a stub asks of a message and of the headers of a call. A predicate has up to three maps of
wanted fields, one for each way of comparing, and a group of alternatives of which one must hold. A
map that is there but empty differs from one that is not: it declares that anything will do.

## Main definitions

* `Predicate`, `HeaderPredicate`: predicates on a message and on headers
* `Predicate.isEmpty`, `Predicate.declares`, `Predicate.isUnset`: how much a predicate asks
* `Predicate.fieldCount`: the number of wanted fields
-/

namespace Understudy

/-- A predicate on one message. -/
structure Predicate where
  /-- Whether arrays may be equal in any order. -/
  anyOrder : Bool := false
  /-- Fields that must be equal. -/
  equalTo : Option Fields := none
  /-- Fields that must be contained. -/
  containing : Option Fields := none
  /-- Fields that must match, their texts being patterns. -/
  matching : Option Fields := none
  /-- Alternatives: if there are any, one of them must hold. -/
  anyOf : List Predicate := []
deriving Inhabited

namespace Predicate

/-- The three maps that are there. -/
def maps (predicate : Predicate) : List Fields :=
  predicate.equalTo.toList ++ predicate.containing.toList ++ predicate.matching.toList

/-- Whether nothing is wanted: there are no wanted fields and no alternatives. -/
def isEmpty (predicate : Predicate) : Bool :=
  predicate.maps.all List.isEmpty && predicate.anyOf.isEmpty

/-- Whether some map is there, be it empty. -/
def declares (predicate : Predicate) : Bool :=
  predicate.equalTo.isSome || predicate.containing.isSome || predicate.matching.isSome

/-- Whether nothing at all has been set. -/
def isUnset (predicate : Predicate) : Bool :=
  !predicate.declares && predicate.anyOf.isEmpty && !predicate.anyOrder

/-- The number of wanted fields, those of alternatives not counted. -/
def fieldCount (predicate : Predicate) : Nat :=
  (predicate.maps.map List.length).foldl (· + ·) 0

mutual
/-- Whether two predicates are the same in every part. -/
def same : Predicate → Predicate → Bool
  | ⟨anyOrder, equalTo, containing, matching, anyOf⟩, other =>
    anyOrder == other.anyOrder && equalTo == other.equalTo && containing == other.containing
      && matching == other.matching && sameAll anyOf other.anyOf
termination_by structural predicate => predicate

/-- Whether two lists of predicates are the same, item by item. -/
def sameAll : List Predicate → List Predicate → Bool
  | [], [] => true
  | a :: rest, b :: rest' => a.same b && sameAll rest rest'
  | _, _ => false
termination_by structural predicates => predicates
end

instance : BEq Predicate := ⟨same⟩

end Predicate

/-- A predicate on the headers of a call. -/
structure HeaderPredicate where
  equalTo : Fields := []
  containing : Fields := []
  matching : Fields := []
deriving Inhabited, BEq

namespace HeaderPredicate

/-- The number of wanted headers. -/
def size (predicate : HeaderPredicate) : Nat :=
  predicate.equalTo.length + predicate.containing.length + predicate.matching.length

/-- Whether no header is wanted. -/
def isEmpty (predicate : HeaderPredicate) : Bool :=
  predicate.size == 0

end HeaderPredicate

end Understudy
