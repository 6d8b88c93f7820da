import Understudy.Identifier

/-!
# Filed values

What the store needs of the values it keeps: an identifier, a name of two parts under which they are
looked up, and a score. Looked up together, values come by descending score, and those of one score
by ascending identifier.

## Main definitions

* `Filed`: values that can be stored
* `precedes`: which of two values comes first
-/

namespace Understudy

/-- Values that can be stored. -/
class Filed (α : Type) where
  id : α → Identifier
  /-- The first part of the name. -/
  left : α → String
  /-- The second part of the name. -/
  right : α → String
  score : α → Int64

/-- Whether the first of two values comes before the second. -/
def precedes {α : Type} [Filed α] (a b : α) : Bool :=
  Filed.score b < Filed.score a || (Filed.score a = Filed.score b && Filed.id a < Filed.id b)

end Understudy
