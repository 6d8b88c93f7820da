/-!
# Shortest decimals

The decimal number with the fewest digits that lies closer to a binary64 number than to any other:
the text from which exactly that number is read back. All comparisons are exact, in whole numbers.

## Main definitions

* `Binary`: a positive finite binary64 number as `mantissa * 2 ^ exponent`
* `Numeral`: a decimal number as `digits * 10 ^ exponent`
* `Binary.shortest`: the shortest decimal that reads back
-/

namespace Understudy.Decimal

/-- The number `mantissa * 2 ^ exponent`. -/
structure Binary where
  mantissa : Nat
  exponent : Int

/-- The number `digits * 10 ^ exponent`. -/
structure Numeral where
  digits : Nat
  exponent : Int
deriving DecidableEq

/-- The bit of a mantissa that stands before the bits that are written. -/
def hiddenBit : Nat := 0x10000000000000

/-- The magnitude of a finite binary64 number, from the bits that represent it. -/
def Binary.ofBits (bits : UInt64) : Binary :=
  let fraction := (bits &&& 0xfffffffffffff).toNat
  let biased := ((bits >>> 52) &&& 0x7ff).toNat
  if biased = 0 then ⟨fraction, -1074⟩ else ⟨fraction + hiddenBit, biased - 1075⟩

/-- The interval of the numbers that round to a binary64 number, in quarters of its last place. -/
structure Interval where
  low : Nat
  value : Nat
  high : Nat
  /-- Whether the ends round to the number too. -/
  closed : Bool
  /-- The exponent of a quarter of the last place. -/
  exponent : Int

/-- The numbers that round to a positive binary64 number. Below a power of two the next number is
only half as far away as above it. -/
def Binary.interval (x : Binary) : Interval where
  low :=
    if x.mantissa = hiddenBit ∧ x.exponent ≠ -1074 then 4 * x.mantissa - 1
    else 4 * x.mantissa - 2
  value := 4 * x.mantissa
  high := 4 * x.mantissa + 2
  closed := x.mantissa % 2 = 0
  exponent := x.exponent - 2

/-- Compares `a * 2 ^ p` with `b * 10 ^ q`. -/
def compareScaled (a : Nat) (p : Int) (b : Nat) (q : Int) : Ordering :=
  compare (a * Nat.pow 2 p.toNat * Nat.pow 10 (-q).toNat)
    (b * Nat.pow 10 q.toNat * Nat.pow 2 (-p).toNat)

/-- Whether a decimal lies in an interval. -/
def Interval.contains (i : Interval) (d : Numeral) : Bool :=
  let low := compareScaled i.low i.exponent d.digits d.exponent
  let high := compareScaled i.high i.exponent d.digits d.exponent
  (low == .lt || (i.closed && low == .eq)) && (high == .gt || (i.closed && high == .eq))

/-- The largest multiple of `10 ^ exponent` that is not above the value of an interval. -/
def Interval.below (i : Interval) (exponent : Int) : Numeral where
  digits := i.value * Nat.pow 2 i.exponent.toNat * Nat.pow 10 (-exponent).toNat
    / (Nat.pow 10 exponent.toNat * Nat.pow 2 (-i.exponent).toNat)
  exponent := exponent

/-- Of the two multiples of `10 ^ exponent` around the value the one that reads back; if both do,
the nearer one, and of two equally near ones the even one. -/
def Interval.onGrid (i : Interval) (exponent : Int) : Option Numeral :=
  let down := i.below exponent
  let up : Numeral := ⟨down.digits + 1, exponent⟩
  match down.digits ≠ 0 && i.contains down, i.contains up with
  | false, false => none
  | true, false => some down
  | false, true => some up
  | true, true =>
    match compareScaled (2 * i.value) i.exponent (2 * down.digits + 1) exponent with
    | .lt => some down
    | .gt => some up
    | .eq => some (if down.digits % 2 = 0 then down else up)

/-- The first hit on ever finer grids, from `10 ^ exponent` down. -/
def Interval.search (i : Interval) : Nat → Int → Numeral
  | 0, exponent => i.below exponent
  | steps + 1, exponent =>
    match i.onGrid exponent with
    | some found => found
    | none => i.search steps (exponent - 1)

/-- A decimal whose digits do not end in zero; `steps` bounds the number of zeros taken off. -/
def Numeral.trimmed : Nat → Numeral → Numeral
  | 0, d => d
  | steps + 1, d =>
    if d.digits ≠ 0 ∧ d.digits % 10 = 0 then trimmed steps ⟨d.digits / 10, d.exponent + 1⟩ else d

/-- The shortest decimal that reads back as a positive binary64 number. The search starts at a
power of ten above the number and needs at most seventeen digits from its first one. -/
def Binary.shortest (x : Binary) : Numeral :=
  let size : Int := (Nat.log2 x.mantissa : Int) + x.exponent
  let start : Int := size * 30103 / 100000 + 2
  ((x.interval.search 40 start).trimmed 400)

end Understudy.Decimal
