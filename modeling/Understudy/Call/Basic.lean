import Understudy.Identifier
import Understudy.Json.Basic

/-!
# Calls

What is asked of the engine: a query with all messages of a call, or the opening of a call whose
messages come one by one. Both name a service and a method, and may name one stub by its identifier.

## Main definitions

* `Query`: a call with its messages
* `Opening`, `Query.opening`: a call without them
-/

namespace Understudy

/-- A call with its messages. -/
structure Query where
  id : Option Identifier := none
  service : String := ""
  method : String := ""
  session : String := ""
  headers : Fields := []
  messages : List Fields := []
  /-- Whether the query only looks: what it finds does not count as used. -/
  quiet : Bool := false
deriving Inhabited

/-- The opening of a call whose messages come one by one. -/
structure Opening where
  id : Option Identifier := none
  service : String := ""
  method : String := ""
  session : String := ""
  headers : Fields := []
  /-- Whether the call only looks: what answers it does not count as used. -/
  quiet : Bool := false
deriving Inhabited

/-- The query with one more message. -/
def Query.addMessage (query : Query) (message : Fields) : Query :=
  { query with messages := query.messages ++ [message] }

/-- The opening of the call that a query makes. -/
def Query.opening (query : Query) : Opening where
  id := query.id
  service := query.service
  method := query.method
  session := query.session
  headers := query.headers
  quiet := query.quiet

end Understudy
