import Understudy.Json.Basic
import Understudy.Decimal.Reading
import Understudy.Text.Hex

/-!
# Reading JSON text

A text is read in two steps. The first one follows the grammar and yields a `Source`: the fields of
objects as they are written, repeated keys included, and scalars that may stand for nothing, such as
a number out of range or half a surrogate pair. The second one yields the value, if every part
stands for something and there are no more than 127 levels; the last of a repeated key stands.

## Main definitions

* `Source`: what a text writes
* `readNumber`, `readString`: the scalars
* `Source.parse?`, `Source.value?`: the two steps
* `Json.parse`: the value of a whole text
-/

namespace Understudy.Json

/-- What a text writes. A scalar without a value is written in the right form, but stands for
nothing. -/
inductive Source where
  | null
  | bool (value : Bool)
  | num (number : Option Number)
  | str (text : Option String)
  | arr (items : List Source)
  /-- Keys and values in the order in which they are written. -/
  | obj (fields : List (Option String × Source))
deriving Inhabited

/-- The levels of arrays and objects that a value may nest. -/
def deepest : Nat := 127

/-- The levels that are followed in a text, whether it is a value or not. -/
def deepestSource : Nat := 4000

/-- The greatest significand kept while digits are read. -/
def greatestSignificand : Nat := UInt64.size - 1

/-- The text after leading white space. -/
def skipSpace (chars : List Char) : List Char :=
  chars.dropWhile fun c => c == ' ' || c == '\n' || c == '\t' || c == '\r'

/-- The value of a decimal digit. -/
def digitValue (c : Char) : Nat :=
  c.toNat - '0'.toNat

/-- Reads digits into a significand for as long as it fits; yields the significand, the number of
digits read, and the text from the first digit that no longer fits or the end of the digits. -/
def readDigits (significand count : Nat) : List Char → Nat × Nat × List Char
  | [] => (significand, count, [])
  | c :: rest =>
    if c.isDigit ∧ 10 * significand + digitValue c ≤ greatestSignificand then
      readDigits (10 * significand + digitValue c) (count + 1) rest
    else (significand, count, c :: rest)

/-- A binary64 number from its significand and exponent, negated on demand. -/
def floatOf? (negative : Bool) (significand : Nat) (exponent : Int) : Option Number :=
  (Decimal.scaled? significand exponent).map fun x => .float (if negative then -x else x)

/-- Reads the exponent after a significand, if there is one. -/
def readExponent (negative : Bool) (significand : Nat) (exponent : Int) (chars : List Char) :
    Option (Option Number × List Char) :=
  match chars with
  | c :: rest =>
    if c = 'e' ∨ c = 'E' then
      let (below, digits) := match rest with
        | '+' :: rest => (false, rest)
        | '-' :: rest => (true, rest)
        | rest => (false, rest)
      let power := (digits.takeWhile Char.isDigit).foldl (fun n d => 10 * n + digitValue d) 0
      match digits.takeWhile Char.isDigit, digits.dropWhile Char.isDigit with
      | [], _ => none
      | _, rest =>
        let exponent := if below then exponent - power else exponent + power
        some (floatOf? negative significand exponent, rest)
    else some (floatOf? negative significand exponent, c :: rest)
  | [] => some (floatOf? negative significand exponent, [])

/-- Reads the digits after a decimal point, and an exponent after them. -/
def readFraction (negative : Bool) (significand : Nat) (exponent : Int) (chars : List Char) :
    Option (Option Number × List Char) :=
  match readDigits significand 0 chars with
  | (total, count, rest) =>
    if chars.head?.any Char.isDigit then
      readExponent negative total (exponent - count) (rest.dropWhile Char.isDigit)
    else none

/-- A whole number, as a binary64 number if it does not fit 64 bits or is a negative zero. -/
def wholeNumber (negative : Bool) (significand : Nat) : Number :=
  if negative then
    if significand = 0 ∨ UInt64.size / 2 < significand then .float (-(Decimal.ofNat significand))
    else .int (-significand)
  else .int significand

/-- Reads a number whose sign has been read. Digits beyond the significand count for the exponent
alone. -/
def readUnsigned (negative : Bool) (chars : List Char) : Option (Option Number × List Char) :=
  match chars with
  | [] => none
  | first :: _ =>
    if ¬ first.isDigit then none
    else if first = '0' ∧ (chars.drop 1).head?.any Char.isDigit then none
    else
      let (significand, _, rest) := readDigits 0 0 chars
      let dropped := (rest.takeWhile Char.isDigit).length
      match rest.dropWhile Char.isDigit with
      | '.' :: rest => readFraction negative significand dropped rest
      | 'e' :: rest => readExponent negative significand dropped ('e' :: rest)
      | 'E' :: rest => readExponent negative significand dropped ('E' :: rest)
      | rest =>
        let number := if dropped = 0 then some (wholeNumber negative significand)
          else floatOf? negative significand dropped
        some (number, rest)

/-- Reads a number, which may be out of range. -/
def readNumber : List Char → Option (Option Number × List Char)
  | '-' :: rest => readUnsigned true rest
  | chars => readUnsigned false chars

/-- The character that a letter stands for after a backslash. -/
def unescape? : Char → Option Char
  | '"' => some '"'
  | '\\' => some '\\'
  | '/' => some '/'
  | 'b' => some '\x08'
  | 'f' => some '\x0c'
  | 'n' => some '\n'
  | 'r' => some '\r'
  | 't' => some '\t'
  | _ => none

/-- The character of a pair of surrogates. -/
def joinSurrogates (high low : Nat) : Char :=
  Char.ofNat (0x10000 + (high - 0xd800) * 0x400 + (low - 0xdc00))

/-- Reads the rest of a string whose opening quote has been read; `done` holds the characters so
far, the last one first, unless there has been half a surrogate pair. -/
def readString (done : Option (List Char)) : List Char → Option (Option String × List Char)
  | '"' :: rest => some (done.map fun chars => String.ofList chars.reverse, rest)
  | '\\' :: 'u' :: a :: b :: c :: d :: rest =>
    match Text.ofHex? [a, b, c, d] with
    | none => none
    | some unit =>
      if unit < 0xd800 ∨ 0xe000 ≤ unit then readString (done.map (Char.ofNat unit :: ·)) rest
      else if 0xdc00 ≤ unit then readString none rest
      else
        match rest with
        | '\\' :: 'u' :: e :: f :: g :: h :: rest =>
          match Text.ofHex? [e, f, g, h] with
          | none => none
          | some low =>
            if 0xdc00 ≤ low ∧ low < 0xe000 then
              readString (done.map (joinSurrogates unit low :: ·)) rest
            else readString none rest
        | rest => readString none rest
  | '\\' :: c :: rest =>
    match unescape? c with
    | some c => readString (done.map (c :: ·)) rest
    | none => none
  | c :: rest => if c.toNat < 32 then none else readString (done.map (c :: ·)) rest
  | [] => none

/-- The text after a word that it must start with. -/
def expect (word : String) (chars : List Char) : Option (List Char) :=
  if word.toList.isPrefixOf chars then some (chars.drop word.length) else none

mutual
/-- Reads a value. `steps` bounds the values and separators still to be read, `depth` the levels
they may nest. -/
def readValue (steps depth : Nat) (chars : List Char) : Option (Source × List Char) :=
  match steps with
  | 0 => none
  | steps + 1 =>
    match skipSpace chars with
    | 'n' :: rest => do some (.null, ← expect "ull" rest)
    | 't' :: rest => do some (.bool true, ← expect "rue" rest)
    | 'f' :: rest => do some (.bool false, ← expect "alse" rest)
    | '"' :: rest => do
      let (text, rest) ← readString (some []) rest
      some (.str text, rest)
    | '[' :: rest =>
      match depth with
      | 0 => none
      | depth + 1 =>
        match skipSpace rest with
        | ']' :: rest => some (.arr [], rest)
        | rest => do
          let (items, rest) ← readItems steps depth [] rest
          some (.arr items, rest)
    | '{' :: rest =>
      match depth with
      | 0 => none
      | depth + 1 =>
        match skipSpace rest with
        | '}' :: rest => some (.obj [], rest)
        | rest => do
          let (fields, rest) ← readFields steps depth [] rest
          some (.obj fields, rest)
    | chars => do
      let (number, rest) ← readNumber chars
      some (.num number, rest)
termination_by structural steps

/-- Reads the items of an array up to its closing bracket; `done` holds those so far, the last one
first. -/
def readItems (steps depth : Nat) (done : List Source) (chars : List Char) :
    Option (List Source × List Char) :=
  match steps with
  | 0 => none
  | steps + 1 => do
    let (item, rest) ← readValue steps depth chars
    match skipSpace rest with
    | ',' :: rest => readItems steps depth (item :: done) rest
    | ']' :: rest => some ((item :: done).reverse, rest)
    | _ => none
termination_by structural steps

/-- Reads the fields of an object up to its closing brace; `done` holds those so far, the last one
first. -/
def readFields (steps depth : Nat) (done : List (Option String × Source)) (chars : List Char) :
    Option (List (Option String × Source) × List Char) :=
  match steps with
  | 0 => none
  | steps + 1 =>
    match skipSpace chars with
    | '"' :: rest => do
      let (key, rest) ← readString (some []) rest
      match skipSpace rest with
      | ':' :: rest => do
        let (value, rest) ← readValue steps depth rest
        match skipSpace rest with
        | ',' :: rest => readFields steps depth ((key, value) :: done) rest
        | '}' :: rest => some (((key, value) :: done).reverse, rest)
        | _ => none
      | _ => none
    | _ => none
termination_by structural steps
end

namespace Source

/-- What a text writes; `none` if the text is not JSON. -/
def parse? (text : String) : Option Source :=
  let chars := text.toList
  match readValue (2 * chars.length + 2) deepestSource chars with
  | some (source, rest) => if skipSpace rest = [] then some source else none
  | none => none

mutual
/-- The value that is written, where so many levels are left. -/
def value? (depth : Nat) : Source → Option Json
  | .null => some .null
  | .bool value => some (.bool value)
  | .num number => number.map .num
  | .str text => text.map .str
  | .arr items => if depth = 0 then none else (itemValues? (depth - 1) items).map .arr
  | .obj fields => if depth = 0 then none else (fieldValues? (depth - 1) fields).map Json.object
termination_by structural source => source

/-- The values of items. -/
def itemValues? (depth : Nat) : List Source → Option (List Json)
  | [] => some []
  | item :: rest => do return (← item.value? depth) :: (← itemValues? depth rest)
termination_by structural items => items

/-- The values of fields, with their keys. -/
def fieldValues? (depth : Nat) : List (Option String × Source) → Option (List (String × Json))
  | [] => some []
  | (key, value) :: rest => do
    return (← key, ← value.value? depth) :: (← fieldValues? depth rest)
termination_by structural fields => fields
end

end Source

/-- The value a text holds; `none` if the text is not JSON. -/
def parse (text : String) : Option Json :=
  (Source.parse? text).bind (Source.value? deepest)

end Understudy.Json
