import Understudy.Yaml.Scalar
import Understudy.Yaml.Token

/-!
# YAML documents

The tree of a document: scalars, sequences and mappings whose keys are scalars. What is left out
between signs is an empty scalar. A text holds one document, which may nest at most 128 levels; an
empty text holds an empty scalar.

## Main definitions

* `Node`: the trees
* `Node.ofTokens?`, `Node.parse?`: the tree of a document
* `Node.value?`: the JSON value of a tree
-/

namespace Understudy.Yaml

/-- The tree of a document. -/
inductive Node where
  | scalar (text : String) (plain : Bool)
  | sequence (items : List Node)
  /-- Keys and values in the order in which they are written. -/
  | mapping (entries : List (String × Node))
deriving Inhabited

namespace Node

/-- What is left out. -/
def empty : Node := .scalar "" true

/-- The levels that a document may nest. -/
def deepest : Nat := 128

/-- The text of a scalar, which is what a key must be. -/
def key? : Node → Option String
  | .scalar text _ => some text
  | _ => none

/-- Whether no node stands here, given the tokens that may stand instead. -/
def absent (ends : List Token) : List Token → Bool
  | [] => true
  | token :: _ => ends.contains token

mutual
/-- Reads a node, and yields the tokens after it. `fuel` bounds the nodes and entries, `depth` the
levels; items of a sequence may stand without a block of their own if `bare` is set. -/
def read (fuel depth : Nat) (inBlock bare : Bool) (tokens : List Token) :
    Option (Node × List Token) :=
  match fuel with
  | 0 => none
  | fuel + 1 =>
    match tokens, depth with
    | .scalar text plain :: rest, _ => some (.scalar text plain, rest)
    | .item :: rest, depth + 1 =>
      if bare then (readBareItems fuel depth [] (.item :: rest)).map fun r => (.sequence r.1, r.2)
      else none
    | .blockSequence :: rest, depth + 1 =>
      if inBlock then (readItems fuel depth [] rest).map fun r => (.sequence r.1, r.2) else none
    | .blockMapping :: rest, depth + 1 =>
      if inBlock then (readEntries fuel depth [] rest).map fun r => (.mapping r.1, r.2) else none
    | .flowSequence :: rest, depth + 1 =>
      (readFlowItems fuel depth [] true rest).map fun r => (.sequence r.1, r.2)
    | .flowMapping :: rest, depth + 1 =>
      (readFlowEntries fuel depth [] true rest).map fun r => (.mapping r.1, r.2)
    | _, _ => none
termination_by structural fuel

/-- Reads a node, or what is left out where one of some tokens stands. -/
def readOr (ends : List Token) (fuel depth : Nat) (inBlock bare : Bool) (tokens : List Token) :
    Option (Node × List Token) :=
  match fuel with
  | 0 => none
  | fuel + 1 =>
    if absent ends tokens then some (empty, tokens) else read fuel depth inBlock bare tokens
termination_by structural fuel

/-- Reads the items of a block; `done` holds those so far, the last one first. -/
def readItems (fuel depth : Nat) (done : List Node) (tokens : List Token) :
    Option (List Node × List Token) :=
  match fuel with
  | 0 => none
  | fuel + 1 =>
    match tokens with
    | .item :: rest => do
      let (item, rest) ← readOr [.item, .blockEnd] fuel depth true false rest
      readItems fuel depth (item :: done) rest
    | .blockEnd :: rest => some (done.reverse, rest)
    | _ => none
termination_by structural fuel

/-- Reads the items of a sequence that stands without a block of its own. -/
def readBareItems (fuel depth : Nat) (done : List Node) (tokens : List Token) :
    Option (List Node × List Token) :=
  match fuel with
  | 0 => none
  | fuel + 1 =>
    match tokens with
    | .item :: rest => do
      let (item, rest) ← readOr [.item, .key, .value, .blockEnd] fuel depth true false rest
      readBareItems fuel depth (item :: done) rest
    | rest => some (done.reverse, rest)
termination_by structural fuel

/-- Reads the entries of a block. -/
def readEntries (fuel depth : Nat) (done : List (String × Node)) (tokens : List Token) :
    Option (List (String × Node) × List Token) :=
  match fuel with
  | 0 => none
  | fuel + 1 =>
    match tokens with
    | .key :: rest => do
      let (key, rest) ← readOr [.key, .value, .blockEnd] fuel depth true true rest
      let (value, rest) ← readValue [.key, .value, .blockEnd] fuel depth true rest
      readEntries fuel depth ((← key.key?, value) :: done) rest
    | .blockEnd :: rest => some (done.reverse, rest)
    | _ => none
termination_by structural fuel

/-- Reads the value of an entry, which may be left out with its colon. -/
def readValue (ends : List Token) (fuel depth : Nat) (inBlock : Bool) (tokens : List Token) :
    Option (Node × List Token) :=
  match fuel with
  | 0 => none
  | fuel + 1 =>
    match tokens with
    | .value :: rest => readOr ends fuel depth inBlock inBlock rest
    | rest => some (empty, rest)
termination_by structural fuel

/-- Reads the items of a flow sequence. An item with a colon is a mapping of one entry. -/
def readFlowItems (fuel depth : Nat) (done : List Node) (first : Bool) (tokens : List Token) :
    Option (List Node × List Token) :=
  match fuel with
  | 0 => none
  | fuel + 1 =>
    let next := if first then some tokens else
      match tokens with
      | .comma :: rest => some rest
      | .flowSequenceEnd :: rest => some (.flowSequenceEnd :: rest)
      | _ => none
    match next with
    | some (.flowSequenceEnd :: rest) => some (done.reverse, rest)
    | some (.key :: rest) => do
      let (key, rest) ← readOr [.value, .comma, .flowSequenceEnd] fuel (depth - 1) false false rest
      let (value, rest) ← readValue [.comma, .flowSequenceEnd] fuel (depth - 1) false rest
      readFlowItems fuel depth (.mapping [(← key.key?, value)] :: done) false rest
    | some rest => do
      let (item, rest) ← read fuel depth false false rest
      readFlowItems fuel depth (item :: done) false rest
    | none => none
termination_by structural fuel

/-- Reads the entries of a flow mapping. A key may stand without a colon. -/
def readFlowEntries (fuel depth : Nat) (done : List (String × Node)) (first : Bool)
    (tokens : List Token) : Option (List (String × Node) × List Token) :=
  match fuel with
  | 0 => none
  | fuel + 1 =>
    let next := if first then some tokens else
      match tokens with
      | .comma :: rest => some rest
      | .flowMappingEnd :: rest => some (.flowMappingEnd :: rest)
      | _ => none
    match next with
    | some (.flowMappingEnd :: rest) => some (done.reverse, rest)
    | some (.key :: rest) => do
      let (key, rest) ← readOr [.value, .comma, .flowMappingEnd] fuel depth false false rest
      let (value, rest) ← readValue [.comma, .flowMappingEnd] fuel depth false rest
      readFlowEntries fuel depth ((← key.key?, value) :: done) false rest
    | some rest => do
      let (key, rest) ← read fuel depth false false rest
      readFlowEntries fuel depth ((← key.key?, empty) :: done) false rest
    | none => none
termination_by structural fuel
end

/-- The tree of the document that some tokens hold. -/
def ofTokens? (tokens : List Token) : Option Node := do
  let fuel := 4 * tokens.length + 4
  let (node, rest) ← match tokens with
    | [] => some (empty, [])
    | .documentStart :: rest =>
      readOr [.documentStart, .documentEnd] fuel deepest true false rest
    | tokens => read fuel deepest true false tokens
  if rest.all (· == .documentEnd) then some node else none

/-- The tree of the document in a text. -/
def parse? (text : String) : Option Node :=
  (tokens? text).bind ofTokens?

mutual
/-- The JSON value of a tree; the last value of a repeated key stands. -/
def value? : Node → Option Json
  | .scalar text plain => if plain then plainValue? text else some (.str text)
  | .sequence items => (itemValues? items).map .arr
  | .mapping entries => (entryValues? entries).map Json.object
termination_by structural node => node

/-- The values of items. -/
def itemValues? : List Node → Option (List Json)
  | [] => some []
  | item :: rest => do return (← item.value?) :: (← itemValues? rest)
termination_by structural items => items

/-- The values of entries. -/
def entryValues? : List (String × Node) → Option (List (String × Json))
  | [] => some []
  | (key, value) :: rest => do return (key, ← value.value?) :: (← entryValues? rest)
termination_by structural entries => entries
end

end Node

end Understudy.Yaml
