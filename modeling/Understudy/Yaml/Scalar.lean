import Understudy.Decimal.Reading
import Understudy.Json.Basic
import Understudy.Text.Hex

/-!
# Plain scalars

What a scalar without quotes stands for: nothing, a truth value, a number or a text. Whole numbers
may be written in four bases, and a decimal one with leading zeros is a text.

## Main definitions

* `isNull`: the spellings of null
* `plainValue?`: the value of a plain scalar
-/

namespace Understudy.Yaml

/-- Whether a plain scalar stands for nothing. -/
def isNull (text : String) : Bool :=
  ["", "~", "null", "Null", "NULL"].contains text

/-- The truth value that a plain scalar stands for. -/
def truth? (text : String) : Option Bool :=
  if ["true", "True", "TRUE"].contains text then some true
  else if ["false", "False", "FALSE"].contains text then some false
  else none

/-- The number that digits of a base write, of which there is at least one. -/
def ofDigits? (base : Nat) (digits : List Char) : Option Nat :=
  if digits.isEmpty then none
  else digits.foldl (fun sum c => do
    let digit ← Text.hexValue? c
    if digit < base then some (base * (← sum) + digit) else none) (some 0)

/-- Whether decimal digits have a zero in front. -/
def hasLeadingZero (digits : List Char) : Bool :=
  1 < digits.length && digits.head? == some '0' && digits.all Char.isDigit

/-- The magnitude of a whole number, after its sign. -/
def magnitude? (chars : List Char) : Option Nat :=
  match chars with
  | '0' :: 'x' :: digits => ofDigits? 16 digits
  | '0' :: 'o' :: digits => ofDigits? 8 digits
  | '0' :: 'b' :: digits => ofDigits? 2 digits
  | digits => if hasLeadingZero digits then none else ofDigits? 10 digits

/-- The whole number that a plain scalar writes. -/
def whole? (chars : List Char) : Option Int :=
  match chars with
  | '+' :: rest => (magnitude? rest).map Int.ofNat
  | '-' :: rest => (magnitude? rest).map fun n => -(Int.ofNat n)
  | chars => (magnitude? chars).map Int.ofNat

/-- The exponent at the end of a number, if there is one. -/
def exponent? (chars : List Char) : Option Int :=
  match chars with
  | [] => some 0
  | c :: rest =>
    if c = 'e' ∨ c = 'E' then
      match rest with
      | '+' :: digits => (ofDigits? 10 digits).map Int.ofNat
      | '-' :: digits => (ofDigits? 10 digits).map fun n => -(Int.ofNat n)
      | digits => (ofDigits? 10 digits).map Int.ofNat
    else none

/-- The largest exponent that is told from larger ones. -/
def farthest : Int := 100000

/-- The binary64 number of a decimal without a sign, with a point or an exponent or neither. -/
def decimal? (chars : List Char) : Option Float :=
  let whole := chars.takeWhile Char.isDigit
  let (fraction, rest) := match chars.drop whole.length with
    | '.' :: rest => (rest.takeWhile Char.isDigit, rest.dropWhile Char.isDigit)
    | rest => ([], rest)
  match ofDigits? 10 (whole ++ fraction), exponent? rest with
  | some digits, some exponent =>
    some (Decimal.nearest digits (max (-farthest) (min farthest exponent) - fraction.length))
  | _, _ => none

/-- The binary64 number that a plain scalar writes, if it is finite. -/
def finite? (chars : List Char) : Option Float :=
  let number := match chars with
    | '+' :: rest => decimal? rest
    | '-' :: rest => (decimal? rest).map fun x => -x
    | chars => decimal? chars
  number.bind fun x => if x.isFinite then some x else none

/-- Whether a plain scalar stands for a number that is not finite. -/
def isInfinite (text : String) : Bool :=
  [".inf", ".Inf", ".INF", "+.inf", "+.Inf", "+.INF", "-.inf", "-.Inf", "-.INF",
    ".nan", ".NaN", ".NAN"].contains text

/-- The largest magnitude of a whole number that is read at all; larger ones are read as binary64
numbers. -/
def widest (value : Int) : Bool :=
  if 0 ≤ value then value < Int.pow 2 128 else -Int.pow 2 127 ≤ value

/-- The value of a plain scalar. A whole number beyond 64 bits is refused, unless it is so large
that it is read as a binary64 number; a number that is not finite has no value and is null. -/
def plainValue? (text : String) : Option Json :=
  if isNull text then some .null
  else
    match truth? text with
    | some value => some (.bool value)
    | none =>
      let number := match finite? text.toList with
        | some x => .num (.float x)
        | none => if isInfinite text then .null else .str text
      match whole? text.toList with
      | some value =>
        if Number.leastInt ≤ value ∧ value ≤ Number.greatestInt then some (.int value)
        else if widest value then none
        else some number
      | none => if hasLeadingZero (text.toList.dropWhile fun c => c == '+' || c == '-') then
          some (.str text) else some number

end Understudy.Yaml
