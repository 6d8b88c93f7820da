import Understudy.Identifier
import Understudy.Json.Basic
import Understudy.Stub.Delay
import Understudy.Stub.Status

/-!
# Wire forms

How the parts of stubs and calls are read from JSON values. A record is an object, whose fields are
visited in ascending order and whose unknown fields do not count, or an array with the values of its
fields by position. What is absent keeps its default. The first thing wrong decides the refusal.

## Main definitions

* `Refusal`: why a value is refused, with `Refusal.message?`
* `Wire.record`: reads a record field by field
* `Wire.text`, `Wire.flag`, `Wire.fields` and others: read the values of fields
-/

namespace Understudy

/-- Why a value is refused. -/
inductive Refusal where
  /-- A value of the wrong kind, out of range or misspelt. -/
  | malformed
  | unknownStatus (number : Nat)
  | unknownStatusName (name : String)
  | delay (error : Delay.Error)
  /-- A stub that expects both one message and several. -/
  | bothExpectations (service method : String)
deriving DecidableEq

/-- The message for a refusal, if it has one of its own. -/
def Refusal.message? : Refusal → Option String
  | .malformed => none
  | .unknownStatus number => some ("unknown gRPC status code " ++ toString number)
  | .unknownStatusName name => some ("unknown gRPC status code " ++ Text.quoted name)
  | .delay error => some error.message
  | .bothExpectations service method =>
    some ("stub " ++ service ++ "/" ++ method ++ " declares both 'input' and 'inputs'")

/-- A value that has been read, or why it is refused. -/
abbrev Reading := Except Refusal

namespace Wire

variable {α ρ : Type}

/-- The value of an option; nothing stands for a malformed value. -/
def required : Option α → Reading α
  | some value => .ok value
  | none => .error .malformed

/-- Reads a text. -/
def text (json : Json) : Reading String :=
  required json.str?

/-- Reads a truth value. -/
def flag (json : Json) : Reading Bool :=
  required json.bool?

/-- Reads a whole number of 32 bits without a sign. -/
def word (json : Json) : Reading UInt32 := do
  return UInt32.ofNat (← required (json.intBetween? 0 (UInt32.size - 1))).toNat

/-- Reads a whole number of 64 bits with a sign. -/
def int (json : Json) : Reading Int64 := do
  return Int64.ofInt (← required (json.intBetween? Int64.minValue.toInt Int64.maxValue.toInt))

/-- Reads the fields of an object. -/
def fields (json : Json) : Reading Fields :=
  required json.fields?

/-- Reads an array, item by item. -/
def list (item : Json → Reading α) (json : Json) : Reading (List α) := do
  (← required json.items?).mapM item

/-- Reads an object whose values are texts. -/
def texts (json : Json) : Reading (Table String String) := do
  (← required json.fields?).mapM fun field => do return (field.1, ← text field.2)

/-- Reads a value for which null stands for none. -/
def optional (value : Json → Reading α) : Json → Reading (Option α)
  | .null => return none
  | json => some <$> value json

/-- Reads an identifier. -/
def identifier (json : Json) : Reading Identifier := do
  required (Identifier.ofText? (← text json))

/-- Reads a status, given by its number or its name. -/
def status : Json → Reading Status
  | .str name =>
    match Status.ofName? name with
    | some status => return status
    | none => throw (.unknownStatusName name)
  | json => do
    let number := (← required (json.intBetween? 0 (UInt32.size - 1))).toNat
    match Status.ofNumber? number with
    | some status => return status
    | none => throw (.unknownStatus number)

/-- Reads a delay, given by a text or by its nanoseconds. -/
def delay : Json → Reading Delay
  | .str text => (Delay.ofText? text).mapError .delay
  | json => do
    return ⟨UInt64.ofNat (← required (json.intBetween? 0 (UInt64.size - 1))).toNat⟩

/-- Sets fields to the values of an array, by position; there must not be more values than
fields. -/
def byPosition (set : String → Json → ρ → Reading ρ) : List String → List Json → ρ → Reading ρ
  | _, [], record => return record
  | [], _ :: _, _ => throw .malformed
  | key :: keys, value :: values, record => do
    byPosition set keys values (← set key value record)

/-- Reads a record whose fields have some order. `set` sets a field and leaves the record as it is
for a name that is no field. -/
def record (order : List String) (set : String → Json → ρ → Reading ρ) (start : ρ) :
    Json → Reading ρ
  | .obj fields => fields.foldlM (fun record field => set field.1 field.2 record) start
  | .arr items => byPosition set order items start
  | _ => throw .malformed

/-- A field that is written only if there is a value for it. -/
def field? (key : String) (value : Option Json) : List (String × Json) :=
  (value.map fun value => (key, value)).toList

/-- The fields of an object that is written only if there are any. -/
def nonempty (fields : Fields) : Option Json :=
  if fields.isEmpty then none else some (.obj fields)

/-- A text that is written only if it is not empty. -/
def nonemptyText (text : String) : Option Json :=
  if text.isEmpty then none else some (.str text)

/-- An array that is written only if it has items. -/
def nonemptyList (items : List Json) : Option Json :=
  if items.isEmpty then none else some (.arr items)

/-- An object whose values are texts, written only if it has any. -/
def nonemptyTexts (texts : Table String String) : Option Json :=
  nonempty (texts.map fun entry => (entry.1, .str entry.2))

end Wire

end Understudy
