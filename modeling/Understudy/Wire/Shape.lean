import Understudy.Engine.Settings
import Understudy.Json.Reader
import Understudy.Wire.Call
import Understudy.Wire.Stub
import Understudy.Yaml.Node

/-!
# Reading straight from text

What is read straight from text is held to more than a value is, and to less. No known field of a
record may be repeated; what stands in fields that are not known has to follow the grammar, but not
to be a value. In YAML text, whose scalars do not tell texts from numbers, the shape that a place
calls for decides: where a text is called for every scalar is one, nothing at all stands for an
object or an array without parts, and a record must be a mapping.

## Main definitions

* `Shape`, `Record.shapes`: what a place calls for
* `Shape.ofSource?`: the value of what JSON text writes
* `Shape.ofNode?`: the value of a tree from YAML text
* `Stub.ofJsonText?`, `Stub.ofYamlText?`, `Query.ofJsonText?`, `Settings.ofYamlText?`: the readers
-/

namespace Understudy

/-- The records that are read from text. -/
inductive Record where
  | stub
  | options
  | predicate
  | headerPredicate
  | reply
  | query
  | settings
deriving DecidableEq

/-- What a place calls for. -/
inductive Shape where
  /-- A value as it stands. -/
  | value
  | text
  /-- An object of values as they stand. -/
  | fields
  /-- An object of texts. -/
  | texts
  | list (item : Shape)
  | optional (shape : Shape)
  | record (record : Record)

/-- The fields of a record, in order of position, with their shapes. -/
def Record.shapes : Record → List (String × Shape)
  | .stub =>
    [("id", .text), ("service", .text), ("method", .text), ("session", .text),
      ("priority", .value), ("times", .value), ("options", .record .options),
      ("headers", .record .headerPredicate), ("input", .record .predicate),
      ("inputs", .list (.record .predicate)), ("output", .record .reply),
      ("responseHeaders", .texts), ("responseTrailers", .texts)]
  | .options => [("times", .value)]
  | .predicate =>
    [("ignoreArrayOrder", .value), ("equals", .optional .fields), ("contains", .optional .fields),
      ("matches", .optional .fields), ("any", .list (.record .predicate))]
  | .headerPredicate => [("equals", .fields), ("contains", .fields), ("matches", .fields)]
  | .reply =>
    [("headers", .texts), ("data", .optional .fields), ("stream", .list .value),
      ("error", .text), ("code", .value), ("delay", .value)]
  | .query =>
    [("id", .optional .text), ("service", .text), ("method", .text), ("session", .text),
      ("headers", .fields), ("data", .optional .fields), ("input", .list .fields)]
  | .settings =>
    [("string_cache_size", .value), ("regex_cache_size", .value), ("parallel_threshold", .value),
      ("chunk_size", .value), ("method_title", .value)]

/-- The shape that a field of a record calls for, if the field is known. -/
def Record.shape? (record : Record) (key : String) : Option Shape :=
  record.shapes.lookup key

namespace Shape

/-- What is called for where there is something. -/
def present : Shape → Shape
  | .optional shape => shape.present
  | shape => shape

/-! ## JSON text -/

/-- Fields whose values are texts, the repeated ones too. -/
def textFields? (fields : List (Option String × Json.Source)) : Option (List (String × Json)) :=
  fields.mapM fun
    | (some key, .str (some content)) => some (key, .str content)
    | _ => none

mutual
/-- The value that a source writes for a shape, where so many levels are left. What has no form that
the shape calls for is a value as it stands. -/
def ofSource? (depth : Nat) (shape : Shape) : Json.Source → Option Json
  | .obj parts =>
    if depth = 0 then none
    else
      match shape.present with
      | .record name => (ofParts? (depth - 1) name [] parts).map Json.object
      | .texts => (textFields? parts).map Json.object
      | _ => (Json.Source.fieldValues? (depth - 1) parts).map Json.object
  | .arr items =>
    if depth = 0 then none
    else
      match shape.present with
      | .record name => (ofPositions? (depth - 1) (name.shapes.map Prod.snd) items).map .arr
      | .list item => (ofSources? (depth - 1) item items).map .arr
      | _ => (Json.Source.itemValues? (depth - 1) items).map .arr
  | source => source.value? depth
termination_by structural source => source

/-- The values that items write for a shape. -/
def ofSources? (depth : Nat) (shape : Shape) : List Json.Source → Option (List Json)
  | [] => some []
  | item :: rest => do return (← ofSource? depth shape item) :: (← ofSources? depth shape rest)
termination_by structural items => items

/-- The values that items write for shapes, by position; there must not be more items. -/
def ofPositions? (depth : Nat) (shapes : List Shape) : List Json.Source → Option (List Json)
  | [] => some []
  | item :: rest =>
    match shapes with
    | [] => none
    | shape :: shapes => do
      return (← ofSource? depth shape item) :: (← ofPositions? depth shapes rest)
termination_by structural items => items

/-- The known fields of a record, given those seen before. -/
def ofParts? (depth : Nat) (name : Record) (seen : List String) :
    List (Option String × Json.Source) → Option (List (String × Json))
  | [] => some []
  | (none, _) :: _ => none
  | (some key, part) :: rest =>
    match name.shape? key with
    | some shape =>
      if seen.contains key then none
      else do
        return (key, ← ofSource? depth shape part) :: (← ofParts? depth name (key :: seen) rest)
    | none => ofParts? depth name seen rest
termination_by structural parts => parts
end

/-- The value that JSON text writes for a shape. -/
def ofJsonText? (shape : Shape) (text : String) : Option Json :=
  (Json.Source.parse? text).bind (shape.ofSource? Json.deepest)

/-! ## YAML text -/

/-- The value that a scalar writes for a shape. -/
def ofScalar? (content : String) (plain : Bool) : Shape → Option Json
  | .value => (Yaml.Node.scalar content plain).value?
  | .text => some (.str content)
  | .optional shape =>
    if plain && Yaml.isNull content then some .null else ofScalar? content plain shape
  | .list _ => if plain && content.isEmpty then some (.arr []) else none
  | .fields | .texts | .record _ =>
    if plain && content.isEmpty then some (.obj []) else none

/-- Entries whose values are scalars, as texts. -/
def textEntries? (entries : List (String × Yaml.Node)) : Option (List (String × Json)) :=
  entries.mapM fun entry => entry.2.key?.map fun content => (entry.1, .str content)

mutual
/-- The value that a tree writes for a shape. -/
def ofNode? (shape : Shape) : Yaml.Node → Option Json
  | .scalar content plain => shape.ofScalar? content plain
  | .sequence items =>
    match shape.present with
    | .list item => (ofItems? item items).map .arr
    | .value => (Yaml.Node.itemValues? items).map .arr
    | _ => none
  | .mapping entries =>
    match shape.present with
    | .record name => (ofEntries? name [] entries).map Json.object
    | .texts => (textEntries? entries).map Json.object
    | .fields | .value => (Yaml.Node.entryValues? entries).map Json.object
    | _ => none
termination_by structural node => node

/-- The values that items write for a shape. -/
def ofItems? (shape : Shape) : List Yaml.Node → Option (List Json)
  | [] => some []
  | item :: rest => do return (← ofNode? shape item) :: (← ofItems? shape rest)
termination_by structural items => items

/-- The known fields of a record that entries write, given those seen before. -/
def ofEntries? (name : Record) (seen : List String) :
    List (String × Yaml.Node) → Option (List (String × Json))
  | [] => some []
  | (key, node) :: rest =>
    match name.shape? key with
    | some shape =>
      if seen.contains key then none
      else do return (key, ← ofNode? shape node) :: (← ofEntries? name (key :: seen) rest)
    | none => ofEntries? name seen rest
termination_by structural entries => entries
end

/-- The value that YAML text writes for a shape. -/
def ofYamlText? (shape : Shape) (source : String) : Option Json :=
  (Yaml.Node.parse? source).bind shape.ofNode?

end Shape

/-- The stub that JSON text describes. -/
def Stub.ofJsonText? (source : String) : Option Stub :=
  ((Shape.record .stub).ofJsonText? source).bind fun json => (Stub.ofJson json).toOption

/-- The stub that YAML text describes. -/
def Stub.ofYamlText? (source : String) : Option Stub :=
  ((Shape.record .stub).ofYamlText? source).bind fun json => (Stub.ofJson json).toOption

/-- The query that JSON text describes. -/
def Query.ofJsonText? (source : String) : Option Query :=
  ((Shape.record .query).ofJsonText? source).bind fun json => (Query.ofJson json).toOption

/-- The settings that YAML text describes. -/
def Settings.ofYamlText? (source : String) : Option Settings :=
  ((Shape.record .settings).ofYamlText? source).bind fun json => (Settings.ofJson json).toOption

end Understudy
