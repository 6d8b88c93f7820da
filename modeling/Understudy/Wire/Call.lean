import Understudy.Call.Basic
import Understudy.Wire.Basic

/-!
# Wire forms of calls

A query gives its messages as an array or, if there is only one, as an object of its own. If it
gives both, an array with messages stands. Whether a call only looks is not part of its wire form.

## Main definitions

* `Query.ofJson`, `Query.toJson`: queries
* `Opening.ofJson`, `Opening.toJson`: openings
-/

namespace Understudy

namespace Opening

/-- The fields of an opening, in order of position. -/
def fieldOrder : List String :=
  ["id", "service", "method", "session", "headers"]

/-- Sets a field. -/
def setField (key : String) (value : Json) (opening : Opening) : Reading Opening :=
  match key with
  | "id" => do return { opening with id := ← Wire.optional Wire.identifier value }
  | "service" => do return { opening with service := ← Wire.text value }
  | "method" => do return { opening with method := ← Wire.text value }
  | "session" => do return { opening with session := ← Wire.text value }
  | "headers" => do return { opening with headers := ← Wire.fields value }
  | _ => return opening

/-- Reads an opening. -/
def ofJson (json : Json) : Reading Opening :=
  Wire.record fieldOrder setField {} json

/-- The fields that an opening is written with. -/
def written (opening : Opening) : List (String × Json) :=
  Wire.field? "id" (opening.id.map fun id => .str id.text)
    ++ [("service", .str opening.service), ("method", .str opening.method)]
    ++ Wire.field? "session" (Wire.nonemptyText opening.session)
    ++ Wire.field? "headers" (Wire.nonempty opening.headers)

/-- The opening as a value. -/
def toJson (opening : Opening) : Json :=
  Json.object opening.written

end Opening

namespace Query

/-- The fields of a query as they are written. -/
structure Draft where
  opening : Opening := {}
  data : Option Fields := none
  input : List Fields := []

/-- The fields of a query, in order of position. -/
def fieldOrder : List String :=
  Opening.fieldOrder ++ ["data", "input"]

/-- Sets a field. -/
def Draft.setField (key : String) (value : Json) (draft : Draft) : Reading Draft :=
  match key with
  | "data" => do return { draft with data := ← Wire.optional Wire.fields value }
  | "input" => do return { draft with input := ← Wire.list Wire.fields value }
  | _ => do return { draft with opening := ← draft.opening.setField key value }

/-- The query that the fields describe. -/
def Draft.query (draft : Draft) : Query where
  id := draft.opening.id
  service := draft.opening.service
  method := draft.opening.method
  session := draft.opening.session
  headers := draft.opening.headers
  messages := if draft.input.isEmpty then draft.data.toList else draft.input

/-- Reads a query. -/
def ofJson (json : Json) : Reading Query := do
  return (← Wire.record fieldOrder Draft.setField {} json).query

/-- The query as a value. -/
def toJson (query : Query) : Json :=
  Json.object (query.opening.written
    ++ Wire.field? "input" (Wire.nonemptyList (query.messages.map .obj)))

end Query

end Understudy
