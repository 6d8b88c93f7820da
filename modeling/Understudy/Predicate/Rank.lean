import Understudy.Json.Printer
import Understudy.Memo.Consult
import Understudy.Predicate.Equality
import Understudy.Text.EditDistance

/-!
# Ranks

How close a value comes to a wanted one, from zero to one. Ranks order candidates that match, and
find the closest one where none does. A text is compared as a pattern, by the share of the text that
it matches, and failing that by edit distance. Objects and arrays have the mean rank of their parts,
over the larger number of parts.

## Main definitions

* `Rank.similarity`: two texts by edit distance
* `Rank.text`, `Rank.value`, `Rank.fields`: texts, values and fields
-/

namespace Understudy.Rank

/-- The rank of wanted fields of which there are none. -/
def unconditional : Float := 0.1

/-- The share of one number in another. -/
def share (part whole : Nat) : Float :=
  Decimal.ofNat part / Decimal.ofNat whole

/-- One less the edit distance per character of the longer text. -/
def similarity (want got : String) : Float :=
  if want = got then 1
  else if want.isEmpty || got.isEmpty then 0
  else
    let longest := max want.length got.length
    share (longest - Text.editDistance want.toList got.toList) longest

/-- The rank of a text against a wanted one. -/
def text (want got : String) : Consult Float :=
  if want = got then return 1
  else if got.isEmpty then return similarity want got
  else do
    match (← Consult.compiled want).bind fun pattern => pattern.find? got with
    | some (first, last) => return share (last - first) got.utf8ByteSize
    | none => return similarity want got

/-- The mean of some ranks, given their sum, over the larger of two numbers of parts; parts of which
there are none rank as equal. -/
def mean (sum : Float) (wanted given : Nat) : Float :=
  if max wanted given = 0 then 1 else sum / Decimal.ofNat (max wanted given)

/-- The first item whose rank is not zero, as that rank and the other items. -/
def claim (rank : Json → Consult Float) : List Json → Consult (Option (Float × List Json))
  | [] => return none
  | item :: rest => do
    let score ← rank item
    if score != 0 then return some (score, rest)
    else return (← claim rank rest).map fun found => (found.1, item :: found.2)

mutual
/-- The rank of a value against a wanted one. A truth value has rank zero. -/
def value : Json → Json → Consult Float
  | .null, got => return if Equality.value false .null got then 1 else 0
  | .bool _, _ => return 0
  | .num want, got => return if Equality.value false (.num want) got then 1 else 0
  | .str want, got =>
    match got.plainText? with
    | some got => text want got
    | none => return 0
  | .arr want, .arr got => do return mean (← itemsSum 0 want got) want.length got.length
  | .arr _, _ => return 0
  | .obj want, .obj got =>
    if want.isEmpty then return unconditional
    else do return mean (← fieldsSum 0 want got) want.length got.length
  | .obj _, _ => return 0
termination_by structural want => want

/-- The ranks of wanted items, added to a sum. Each wanted item takes the first item that is left
and that has a rank for it. -/
def itemsSum (sum : Float) : List Json → List Json → Consult Float
  | [], _ => return sum
  | want :: wants, gots => do
    match ← claim (fun got => value want got) gots with
    | some (score, left) => itemsSum (sum + score) wants left
    | none => itemsSum sum wants gots
termination_by structural wants => wants

/-- The ranks of the wanted fields that are there, added to a sum. -/
def fieldsSum (sum : Float) : List (String × Json) → Fields → Consult Float
  | [], _ => return sum
  | (key, want) :: wants, got =>
    match got.find? key with
    | some got' => do
      let score ← value want got'
      fieldsSum (sum + score) wants got
    | none => fieldsSum sum wants got
termination_by structural wants => wants
end

/-- The rank of the fields of a message against wanted ones. -/
def fields (want got : Fields) : Consult Float :=
  if want.isEmpty then return unconditional
  else do return mean (← fieldsSum 0 want got) want.length got.length

end Understudy.Rank
