import Understudy.Decimal.Reading
import Understudy.Text.Letter
import Understudy.Text.Quoted

/-!
# Delays

How long an answer waits, in nanoseconds. A delay is written as a number with a unit, such as
`250ms`, in the largest unit below the minute that leaves no remainder. It is read from any row of
such numbers, with fractions, and up to hours.

## Main definitions

* `Delay`: a number of nanoseconds
* `Delay.text`: the delay as a text
* `Delay.ofText?`: the delay a text writes, or what is wrong with the text
-/

namespace Understudy

/-- A number of nanoseconds. -/
structure Delay where
  nanoseconds : UInt64
deriving DecidableEq, Inhabited

namespace Delay

/-- What can be wrong with a text that should write a delay. -/
inductive Error where
  | empty
  | negative (text : String)
  | invalid (text : String)
  | missingUnit (text : String)
  | unknownUnit (unit text : String)
deriving DecidableEq

/-- The message for an error. -/
def Error.message : Error → String
  | .empty => "empty duration"
  | .negative text => "negative duration " ++ Text.quoted text
  | .invalid text => "invalid duration " ++ Text.quoted text
  | .missingUnit text => "missing unit in duration " ++ Text.quoted text
  | .unknownUnit unit text =>
    "unknown unit " ++ Text.quoted unit ++ " in duration " ++ Text.quoted text

/-- The nanoseconds in a unit. -/
def unit? (unit : List Char) : Option Float :=
  match String.ofList unit with
  | "ns" => some 1
  | "us" | "\u00b5s" | "\u03bcs" => some 1000
  | "ms" => some 1000000
  | "s" => some 1000000000
  | "m" => some 60000000000
  | "h" => some 3600000000000
  | _ => none

/-- Whether a character may be part of a number. -/
def isNumeral (c : Char) : Bool :=
  c.isDigit || c == '.'

/-- Splits a text into numbers and the units after them. Only the first number can be empty, and
only the last unit. -/
def segments : List Char → List (List Char × List Char)
  | [] => []
  | c :: rest =>
    match isNumeral c, segments rest with
    | true, (number, unit) :: later => (c :: number, unit) :: later
    | true, [] => [([c], [])]
    | false, ([], unit) :: later => ([], c :: unit) :: later
    | false, later => ([], [c]) :: later

/-- The number that digits with at most one point write. -/
def number? (numerals : List Char) : Option Float :=
  let whole := numerals.takeWhile Char.isDigit
  let fraction := (numerals.drop whole.length).drop 1
  if (whole ++ fraction).isEmpty || !fraction.all Char.isDigit then none
  else
    let digits := (whole ++ fraction).foldl (fun n d => 10 * n + (d.toNat - '0'.toNat)) 0
    some (Decimal.nearest digits (-fraction.length))

/-- Adds a segment to a sum of nanoseconds. -/
def addSegment (text : String) (sum : Float) (segment : List Char × List Char) :
    Except Error Float :=
  match number? segment.1, unit? segment.2 with
  | none, _ => .error (.invalid text)
  | some number, some unit => .ok (sum + number * unit)
  | some _, none =>
    .error (if segment.2.isEmpty then .missingUnit text
      else .unknownUnit (String.ofList segment.2) text)

/-- The delay that a text writes. -/
def ofText? (text : String) : Except Error Delay :=
  match (Text.trim text).toList with
  | [] => .error .empty
  | ['0'] => .ok ⟨0⟩
  | chars =>
    let rest := if chars.head? = some '+' then chars.tail else chars
    if rest.head? = some '-' then .error (.negative text)
    else (fun sum => ⟨Decimal.toWord sum⟩) <$> (segments rest).foldlM (addSegment text) 0

/-- The delay as a text. -/
def text (delay : Delay) : String :=
  let n := delay.nanoseconds.toNat
  if n = 0 then "0s"
  else if n % 1000000000 = 0 then toString (n / 1000000000) ++ "s"
  else if n % 1000000 = 0 then toString (n / 1000000) ++ "ms"
  else if n % 1000 = 0 then toString (n / 1000) ++ "us"
  else toString n ++ "ns"

end Delay

end Understudy
