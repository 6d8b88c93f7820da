import Understudy.Json.Basic
import Understudy.Decimal.Shortest
import Understudy.Text.Hex

/-!
# JSON text

Values as text, on one line or indented. A binary64 number is written with the fewest digits that
read back as it, always with a decimal point or an exponent, so that a reader tells it from a whole
number.

## Main definitions

* `Number.text`: a number as text
* `Json.compact`, `Json.pretty`: a value on one line, and with two spaces of indentation
* `Json.plainText?`: a value where text is expected
-/

namespace Understudy

/-- The least and the greatest decimal exponent of the first digit with which a number is written
without an exponent. -/
def Number.leastPlain : Int := -5

@[inherit_doc Number.leastPlain]
def Number.greatestPlain : Int := 15

/-- The text of a decimal, given its digits and the decimal exponent of the first one. -/
def Number.decimalText (digits : List Char) (exponent : Int) : List Char :=
  if exponent < leastPlain ∨ greatestPlain < exponent then
    let tail := match digits.drop 1 with
      | [] => []
      | rest => '.' :: rest
    let sign := if exponent < 0 then '-' else '+'
    digits.take 1 ++ tail ++ 'e' :: sign :: Nat.toDigits 10 exponent.natAbs
  else if exponent < 0 then
    '0' :: '.' :: List.replicate (exponent.natAbs - 1) '0' ++ digits
  else
    let whole := exponent.toNat + 1
    let rest := match digits.drop whole with
      | [] => ['0']
      | rest => rest
    digits.take whole ++ List.replicate (whole - digits.length) '0' ++ '.' :: rest

/-- The text of a binary64 number. -/
def Number.floatText (x : Float) : List Char :=
  let magnitude := x.abs
  let sign := if x.toBits >>> 63 = 1 then ['-'] else []
  if magnitude == 0 then sign ++ ['0', '.', '0']
  else
    let shortest := (Decimal.Binary.ofBits magnitude.toBits).shortest
    let digits := Nat.toDigits 10 shortest.digits
    sign ++ decimalText digits (shortest.exponent + digits.length - 1)

/-- The text of a number. -/
def Number.text : Number → String
  | .int value => toString value
  | .float value => String.ofList (floatText value)

namespace Json

/-- What stands for a character in a string. -/
def escape (c : Char) : List Char :=
  if c = '"' ∨ c = '\\' then ['\\', c]
  else if c = '\n' then ['\\', 'n']
  else if c = '\r' then ['\\', 'r']
  else if c = '\t' then ['\\', 't']
  else if c = '\x08' then ['\\', 'b']
  else if c = '\x0c' then ['\\', 'f']
  else if c.toNat < 32 then '\\' :: 'u' :: Text.hexDigits 4 c.toNat
  else [c]

/-- A text between quotes. -/
def quote (text : String) : String :=
  String.ofList ('"' :: text.toList.flatMap escape ++ ['"'])

/-- The texts of several values between brackets, on one line. -/
def bracketed (opening closing : String) (parts : List String) : String :=
  opening ++ String.intercalate "," parts ++ closing

mutual
/-- A value on one line, without spaces. -/
def compact : Json → String
  | .null => "null"
  | .bool value => if value then "true" else "false"
  | .num number => number.text
  | .str text => quote text
  | .arr items => bracketed "[" "]" (compactItems items)
  | .obj fields => bracketed "\x7b" "\x7d" (compactFields fields)
termination_by structural json => json

/-- The items of an array, each on one line. -/
def compactItems : List Json → List String
  | [] => []
  | item :: rest => item.compact :: compactItems rest
termination_by structural items => items

/-- The fields of an object, each on one line. -/
def compactFields : List (String × Json) → List String
  | [] => []
  | (key, value) :: rest => (quote key ++ ":" ++ value.compact) :: compactFields rest
termination_by structural fields => fields
end

/-- The start of a line at some depth. -/
def indentation (depth : Nat) : String :=
  String.ofList ('\n' :: List.replicate (2 * depth) ' ')

/-- The texts of several values between brackets, each on a line of its own. -/
def indented (depth : Nat) (opening closing : String) : List String → String
  | [] => opening ++ closing
  | parts =>
    let lineStart := indentation (depth + 1)
    opening ++ lineStart ++ String.intercalate ("," ++ lineStart) parts ++ indentation depth
      ++ closing

mutual
/-- A value with every item and field on a line of its own, at some depth. -/
def prettyAt (depth : Nat) : Json → String
  | .arr items => indented depth "[" "]" (prettyItems (depth + 1) items)
  | .obj fields => indented depth "\x7b" "\x7d" (prettyFields (depth + 1) fields)
  | .null => "null"
  | .bool value => if value then "true" else "false"
  | .num number => number.text
  | .str text => quote text
termination_by structural json => json

/-- The items of an array at some depth. -/
def prettyItems (depth : Nat) : List Json → List String
  | [] => []
  | item :: rest => item.prettyAt depth :: prettyItems depth rest
termination_by structural items => items

/-- The fields of an object at some depth. -/
def prettyFields (depth : Nat) : List (String × Json) → List String
  | [] => []
  | (key, value) :: rest =>
    (quote key ++ ": " ++ value.prettyAt depth) :: prettyFields depth rest
termination_by structural fields => fields
end

/-- A value over several lines, indented by two spaces. -/
def pretty (json : Json) : String :=
  json.prettyAt 0

/-- What a value reads as where text is expected: a string as it is, a number as it is written, and
nothing for null. Truth values, arrays and objects do not read as text. -/
def plainText? : Json → Option String
  | .str text => some text
  | .num number => some number.text
  | .null => some ""
  | _ => none

end Json

end Understudy
