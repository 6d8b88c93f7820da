/-!
# Binary64 numbers and decimals

Two ways to read a decimal as a binary64 number: rounded once from its exact value, or computed from
its significant digits with one multiplication or division by a power of ten, as readers of data
files do. Both agree wherever the digits and the power are represented exactly.

## Main definitions

* `ofNat`, `ofInt`: the nearest binary64 number of a whole number below 2^64
* `nearest`: the nearest binary64 number of a decimal
* `scaled?`: the number computed from a significand and a power of ten
* `toWord`: the nearest whole number of 64 bits
-/

namespace Understudy.Decimal

/-- The nearest binary64 number of a number below 2^64. -/
def ofNat (n : Nat) : Float :=
  n.toUInt64.toFloat

/-- The nearest binary64 number of a whole number of magnitude below 2^64. -/
def ofInt (i : Int) : Float :=
  if i < 0 then -(ofNat i.natAbs) else ofNat i.natAbs

/-- The nearest binary64 number of `digits * 10 ^ exponent`. -/
def nearest (digits : Nat) (exponent : Int) : Float :=
  Float.ofScientific digits (exponent < 0) exponent.natAbs

/-- The nearest binary64 number of a power of ten. -/
def powerOfTen (n : Nat) : Float :=
  nearest 1 n

/-- The largest power of ten that a binary64 number holds. -/
def topPower : Nat := 308

/-- Scales a number by a power of ten, dividing by the largest power while the rest is out of its
reach; `none` if the result is too large. Four divisions take every significand to zero. -/
def scaleBy? : Nat → Float → Int → Option Float
  | 0, x, _ => some x
  | steps + 1, x, exponent =>
    if exponent.natAbs ≤ topPower then
      let scaledUp := x * powerOfTen exponent.natAbs
      if exponent < 0 then some (x / powerOfTen exponent.natAbs)
      else if scaledUp.isInf then none
      else some scaledUp
    else if x == 0 then some x
    else if 0 ≤ exponent then none
    else scaleBy? steps (x / powerOfTen topPower) (exponent + topPower)

/-- The number computed from a significand below 2^64 and a power of ten; `none` if it is too
large. -/
def scaled? (significand : Nat) (exponent : Int) : Option Float :=
  scaleBy? 5 (ofNat significand) exponent

/-- The nearest whole number below 2^64, a half going up; the least one for a number below zero and
the greatest one for a number above all. -/
def toWord (x : Float) : UInt64 :=
  let whole := x.toUInt64
  if 0.5 ≤ x - whole.toFloat ∧ whole.toNat + 1 < UInt64.size then whole + 1 else whole

end Understudy.Decimal
