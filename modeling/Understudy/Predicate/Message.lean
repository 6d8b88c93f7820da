import Understudy.Predicate.Basic
import Understudy.Predicate.Containment
import Understudy.Predicate.Matching
import Understudy.Predicate.Rank

/-!
# Predicates on messages and headers

Whether a message satisfies a predicate, and how close it comes. All maps must hold and, where there
are alternatives, one of them. The rank adds up the ranks of the maps and that of the best
alternative.

## Main definitions

* `Predicate.accepts`, `Predicate.rank`: a predicate on a message
* `HeaderPredicate.accepts`, `HeaderPredicate.rank`: a predicate on headers
-/

namespace Understudy

namespace Predicate

/-- Whether the patterns of a map match, if the map is there. -/
def patternsHold (matching : Option Fields) (message : Fields) : Consult Bool :=
  match matching with
  | some want => Matching.fields want message
  | none => return true

mutual
/-- Whether a message satisfies the predicate. -/
def accepts : Predicate → Fields → Consult Bool
  | ⟨anyOrder, equalTo, containing, matching, anyOf⟩, message => do
    let matched ← patternsHold matching message
    let equal := equalTo.all fun want => Equality.fields anyOrder want message
    let contained := containing.all fun want => Containment.fields want message
    if equal && contained && matched then
      if anyOf.isEmpty then return true else anyAccepts anyOf message
    else return false
termination_by structural predicate => predicate

/-- Whether a message satisfies one of some predicates. -/
def anyAccepts : List Predicate → Fields → Consult Bool
  | [], _ => return false
  | alternative :: rest, message => do
    if ← alternative.accepts message then return true else anyAccepts rest message
termination_by structural alternatives => alternatives
end

mutual
/-- How close a message comes to satisfying the predicate. -/
def rank : Predicate → Fields → Consult Float
  | ⟨_, equalTo, containing, matching, anyOf⟩, message => do
    let alternatives ← bestRank 0 anyOf message
    let equal ← Rank.fields (equalTo.getD []) message
    let contained ← Rank.fields (containing.getD []) message
    let matched ← Rank.fields (matching.getD []) message
    return equal + contained + matched + alternatives
termination_by structural predicate => predicate

/-- The highest of a rank and the ranks of some predicates. -/
def bestRank (best : Float) : List Predicate → Fields → Consult Float
  | [], _ => return best
  | alternative :: rest, message => do
    let score ← alternative.rank message
    bestRank (if best < score then score else best) rest message
termination_by structural alternatives => alternatives
end

end Predicate

namespace HeaderPredicate

/-- Whether headers satisfy the predicate. A predicate that wants any header refuses a call without
headers. -/
def accepts (predicate : HeaderPredicate) (headers : Fields) : Consult Bool :=
  if predicate.isEmpty then return true
  else if headers.isEmpty then return false
  else if Equality.fields false predicate.equalTo headers
      && Containment.fields predicate.containing headers then
    Matching.fields predicate.matching headers
  else return false

/-- How close headers come to satisfying the predicate; zero if no header is wanted. -/
def rank (predicate : HeaderPredicate) (headers : Fields) : Consult Float :=
  if predicate.isEmpty then return 0
  else do
    let equal ← Rank.fields predicate.equalTo headers
    let contained ← Rank.fields predicate.containing headers
    let matched ← Rank.fields predicate.matching headers
    return equal + contained + matched

end HeaderPredicate

end Understudy
