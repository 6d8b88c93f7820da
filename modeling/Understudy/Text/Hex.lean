/-!
# Hexadecimal text

Numbers written with the digits `0` to `f`. Writing uses lower-case digits; reading accepts both
cases.
-/

namespace Understudy.Text

/-- The value of a hexadecimal digit. -/
def hexValue? (c : Char) : Option Nat :=
  if '0' ≤ c ∧ c ≤ '9' then some (c.toNat - '0'.toNat)
  else if 'a' ≤ c ∧ c ≤ 'f' then some (c.toNat - 'a'.toNat + 10)
  else if 'A' ≤ c ∧ c ≤ 'F' then some (c.toNat - 'A'.toNat + 10)
  else none

/-- The lower-case digit of a value below sixteen. -/
def hexDigit (value : Nat) : Char :=
  if value < 10 then Char.ofNat ('0'.toNat + value) else Char.ofNat ('a'.toNat + (value - 10))

/-- The last `width` hexadecimal digits of a number, leading zeros included. -/
def hexDigits : Nat → Nat → List Char
  | 0, _ => []
  | width + 1, value => hexDigits width (value / 16) ++ [hexDigit (value % 16)]

/-- A number with as few hexadecimal digits as it needs, but at least one. -/
def hex (value : Nat) : List Char :=
  Nat.toDigits 16 value

/-- The number written by hexadecimal digits, read from the left on top of `start`. -/
def hexFrom? (start : Nat) : List Char → Option Nat
  | [] => some start
  | c :: rest =>
    match hexValue? c with
    | some digit => hexFrom? (16 * start + digit) rest
    | none => none

/-- The number that a non-empty row of hexadecimal digits writes. -/
def ofHex? : List Char → Option Nat
  | [] => none
  | digits => hexFrom? 0 digits

end Understudy.Text
