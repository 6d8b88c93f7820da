import Understudy.Decimal.Reading
import Understudy.Proofs.Decimal.Arithmetic
import Understudy.Proofs.Decimal.Order

/-!
# The values of floating-point numbers

A finite floating-point number has a rational value. Operations round the exact result of values, as
long as it is far from the greatest number, and comparisons are those of values. So what is known of
the values that go into a computation, as lower and upper bounds, passes to the value that comes out
of it: rounding is monotone, and leaves bounds alone that are representable.

## Main definitions

* `HasValue`: a finite number has a value
* `Between`: a finite number lies between two bounds

## Main results

* `HasValue.add`, `HasValue.sub`, `HasValue.mul`, `HasValue.div`: operations round exact results
* `HasValue.lt_iff`, `HasValue.le_iff`: comparisons are those of values
* `Between.add`, `Between.mul`, `Between.div_of_le`: bounds of a result
-/

namespace Understudy.Decimal

open Float.Model Float.Model.UnpackedFloat

/-! ## Values -/

/-- The value of a finite number. -/
def HasValue (number : Float) (x : ℚ) : Prop :=
  valueOf? number.toModel.unpack = some x

/-- A size that every computation here stays far below, and the greatest number far above. -/
def ample : ℚ := 2 ^ (1000 : ℤ)

theorem representable_ample : Representable ample :=
  representable_two_zpow (by decide)

theorem ample_lt : ample < 2 ^ (1024 : ℤ) :=
  zpow_lt_zpow_right₀ (by norm_num) (by norm_num)

theorem le_ample {x : ℚ} (h : x ≤ 2 ^ 100) : x ≤ ample := by
  have hle : (2 : ℚ) ^ (100 : ℤ) ≤ ample := two_zpow_le (by norm_num)
  exact h.trans (by exact_mod_cast hle)

theorem abs_rounded_le_ample {x : ℚ} (h : |x| ≤ ample) : |rounded x| ≤ ample := by
  obtain ⟨hlow, hhigh⟩ := abs_le.mp h
  exact abs_le.mpr ⟨le_rounded representable_ample.neg hlow, rounded_le representable_ample hhigh⟩

/-- A number that is kept and not too large has its value when it is packed. -/
theorem hasValue_pack {a : UnpackedFloat} {x : ℚ} (ha : Canonical a) (hx : valueOf? a = some x)
    (h : |x| ≤ ample) : HasValue ⟨Float.Model.pack a⟩ x := by
  have hunpack := unpack_pack ha hx (h.trans_lt ample_lt)
  show valueOf? (UnpackedFloat.unpack _ (UnpackedFloat.pack _ a)) = some x
  rw [hunpack, hx]

namespace HasValue

variable {a b : Float} {x y : ℚ}

theorem canonical (ha : HasValue a x) : Canonical a.toModel.unpack :=
  canonical_unpack ha

theorem add (ha : HasValue a x) (hb : HasValue b y) (h : |x + y| ≤ ample) :
    HasValue (a + b) (rounded (x + y)) := by
  obtain ⟨hcanonical, hvalue⟩ := add_spec ha.canonical hb.canonical ha hb
  exact hasValue_pack hcanonical hvalue (abs_rounded_le_ample h)

theorem mul (ha : HasValue a x) (hb : HasValue b y) (h : |x * y| ≤ ample) :
    HasValue (a * b) (rounded (x * y)) := by
  obtain ⟨hcanonical, hvalue⟩ := mul_spec ha.canonical hb.canonical ha hb
  exact hasValue_pack hcanonical hvalue (abs_rounded_le_ample h)

theorem div (ha : HasValue a x) (hb : HasValue b y) (hy : y ≠ 0) (h : |x / y| ≤ ample) :
    HasValue (a / b) (rounded (x / y)) := by
  obtain ⟨hcanonical, hvalue⟩ := div_spec ha.canonical hb.canonical ha hb hy
  exact hasValue_pack hcanonical hvalue (abs_rounded_le_ample h)

theorem neg (ha : HasValue a x) (h : |x| ≤ ample) : HasValue (-a) (-x) := by
  obtain ⟨hcanonical, hvalue⟩ := neg_spec ha.canonical ha
  have hsmall : |-x| ≤ ample := (abs_neg x).trans_le h
  exact hasValue_pack hcanonical hvalue hsmall

theorem sub (ha : HasValue a x) (hb : HasValue b y) (h : |x - y| ≤ ample) :
    HasValue (a - b) (rounded (x - y)) := by
  obtain ⟨hcanonical, hvalue⟩ := sub_spec ha.canonical hb.canonical ha hb
  exact hasValue_pack hcanonical hvalue (abs_rounded_le_ample h)

theorem representable (ha : HasValue a x) : Representable x :=
  representable_of_canonical ha.canonical ha

end HasValue

/-! ## Whole numbers -/

/-- A word is rounded to the nearest number. -/
theorem hasValue_ofNat (n : ℕ) : HasValue (ofNat n) (rounded (n % 2 ^ 64 : ℕ)) := by
  have hsmall : |((n % 2 ^ 64 : ℕ) : ℚ)| ≤ ample := by
    rw [abs_of_nonneg (Nat.cast_nonneg _)]
    have hlt : ((n % 2 ^ 64 : ℕ) : ℚ) ≤ 2 ^ 64 := by
      exact_mod_cast (Nat.mod_lt n (Nat.two_pow_pos 64)).le
    exact le_ample (hlt.trans (by norm_num))
  have hspec := @normalize_spec 0 ((n % 2 ^ 64 : ℕ) : ℤ) .positive
  rw [zpow_zero, mul_one, Int.cast_natCast] at hspec
  exact hasValue_pack hspec.1 hspec.2 (abs_rounded_le_ample hsmall)

theorem hasValue_ofNat_of_lt {n : ℕ} (h : n < 2 ^ 64) : HasValue (ofNat n) (rounded n) := by
  have hvalue := hasValue_ofNat n
  rwa [Nat.mod_eq_of_lt h] at hvalue

theorem hasValue_ofNat_of_le {n : ℕ} (h : n ≤ 2 ^ 53) : HasValue (ofNat n) n := by
  have hvalue := hasValue_ofNat_of_lt (n := n) (by omega)
  rwa [rounded_eq_self (representable_natCast h)] at hvalue

theorem hasValue_zero : HasValue 0 0 := by
  exact_mod_cast @hasValue_ofNat_of_le 0 (by norm_num)

theorem hasValue_one : HasValue 1 1 := by
  exact_mod_cast @hasValue_ofNat_of_le 1 (by norm_num)

/-- A whole number of 64 bits is rounded to the nearest number. -/
theorem hasValue_ofInt {i : ℤ} (h : i.natAbs < 2 ^ 64) : HasValue (ofInt i) (rounded i) := by
  have hvalue := hasValue_ofNat i.natAbs
  rw [Nat.mod_eq_of_lt h] at hvalue
  unfold ofInt
  split
  · next hneg =>
    have hcast : ((i.natAbs : ℕ) : ℚ) = -i := by
      rw [Nat.cast_natAbs, abs_of_neg hneg, Int.cast_neg]
    rw [hcast, rounded_neg] at hvalue
    have hsmall : |(i : ℚ)| ≤ ample := by
      rw [← Int.cast_abs, Int.abs_eq_natAbs, Int.cast_natCast]
      have hlt : (i.natAbs : ℚ) ≤ 2 ^ 64 := by exact_mod_cast h.le
      exact le_ample (hlt.trans (by norm_num))
    have hback := hvalue.neg (by rw [abs_neg]; exact abs_rounded_le_ample hsmall)
    rwa [neg_neg] at hback
  · next hpos =>
    have hcast : ((i.natAbs : ℕ) : ℚ) = i := by
      rw [Nat.cast_natAbs, abs_of_nonneg (not_lt.mp hpos)]
    rwa [hcast] at hvalue

/-! ## Comparisons -/

/-- Exponents and then mantissas order the numbers that are kept as their values do. -/
theorem value_lt_of_lex {m m' : ℕ} {e e' : ℤ} (hm : m < 2 ^ 53)
    (hm' : 2 ^ 52 ≤ m' ∨ e' = leastQuantum) (he : leastQuantum ≤ e)
    (h : toLex (e, (m : ℤ)) < toLex (e', (m' : ℤ))) : (m : ℚ) * 2 ^ e < m' * 2 ^ e' := by
  rcases Prod.Lex.toLex_lt_toLex.mp h with hlt | ⟨heq, hlt⟩
  · -- a greater exponent is not the least one, so the mantissa that comes with it is full
    have hfull : 2 ^ 52 ≤ m' := hm'.resolve_right (by omega)
    calc (m : ℚ) * 2 ^ e < 2 ^ (53 : ℤ) * 2 ^ e := by
          refine mul_lt_mul_of_pos_right ?_ (two_zpow_pos e)
          exact_mod_cast hm
      _ = 2 ^ (53 + e) := (two_zpow_add 53 e).symm
      _ ≤ 2 ^ (52 + e') := two_zpow_le (by simp only at hlt; omega)
      _ = 2 ^ (52 : ℤ) * 2 ^ e' := two_zpow_add 52 e'
      _ ≤ m' * 2 ^ e' := by
          refine mul_le_mul_of_nonneg_right ?_ (two_zpow_pos e').le
          exact_mod_cast hfull
  · obtain rfl : e = e' := heq
    have hmantissa : m < m' := Int.ofNat_lt.mp hlt
    refine mul_lt_mul_of_pos_right ?_ (two_zpow_pos e)
    exact_mod_cast hmantissa

/-- Numbers that are kept are ordered as their values are. -/
theorem value_lt_of_magnitudeOf_lt {a b : UnpackedFloat} {x y : ℚ} (ha : Canonical a)
    (hb : Canonical b) (hx : valueOf? a = some x) (hy : valueOf? b = some y)
    (h : magnitudeOf a < magnitudeOf b) : x < y := by
  have hpos : ∀ {m : ℕ} (e : ℤ), 0 < m → (0 : ℚ) < m * 2 ^ e := fun e hm =>
    mul_pos (by exact_mod_cast hm) (two_zpow_pos e)
  cases a with
  | infinity | notANumber => cases hx
  | zero sign =>
    obtain rfl := Option.some.inj hx
    cases b with
    | infinity | notANumber => cases hy
    | zero sign' => exact h.false.elim
    | finite sign' m' e' hm' =>
      obtain rfl := Option.some.inj hy
      cases sign' with
      | negative => simp [magnitudeOf, Prod.Lex.toLex_lt_toLex] at h
      | positive => simpa [factor] using hpos e' hm'
  | finite sign m e hm =>
    obtain rfl := Option.some.inj hx
    cases b with
    | infinity | notANumber => cases hy
    | zero sign' =>
      obtain rfl := Option.some.inj hy
      cases sign with
      | negative => simpa [factor] using hpos e hm
      | positive => simp [magnitudeOf, Prod.Lex.toLex_lt_toLex] at h
    | finite sign' m' e' hm' =>
      obtain rfl := Option.some.inj hy
      cases sign with
      | negative =>
        cases sign' with
        | negative =>
          have hlex : toLex (e', (m' : ℤ)) < toLex (e, (m : ℤ)) := by
            simp only [magnitudeOf, WithBot.coe_lt_coe, Prod.Lex.toLex_lt_toLex] at h ⊢
            omega
          have hlt := value_lt_of_lex hb.1 ha.2.2 hb.2.1 hlex
          simpa [factor] using hlt
        | positive =>
          have hfirst := hpos e hm
          have hsecond := hpos e' hm'
          simp only [factor]
          linarith
      | positive =>
        cases sign' with
        | negative => simp [magnitudeOf, Prod.Lex.toLex_lt_toLex] at h
        | positive =>
          have hlex : toLex (e, (m : ℤ)) < toLex (e', (m' : ℤ)) := by
            simp only [magnitudeOf, WithBot.coe_lt_coe, Prod.Lex.toLex_lt_toLex] at h ⊢
            omega
          have hlt := value_lt_of_lex ha.1 hb.2.2 ha.2.1 hlex
          simpa [factor] using hlt

theorem value_eq_of_magnitudeOf_eq {a b : UnpackedFloat} {x y : ℚ} (hx : valueOf? a = some x)
    (hy : valueOf? b = some y) (h : magnitudeOf a = magnitudeOf b) : x = y := by
  cases a with
  | infinity | notANumber => cases hx
  | zero sign =>
    obtain rfl := Option.some.inj hx
    cases b with
    | infinity | notANumber => cases hy
    | zero sign' => exact Option.some.inj hy
    | finite sign' m' e' hm' => cases sign' <;> simp [magnitudeOf] at h
  | finite sign m e hm =>
    obtain rfl := Option.some.inj hx
    cases b with
    | infinity | notANumber => cases hy
    | zero sign' => cases sign <;> simp [magnitudeOf] at h
    | finite sign' m' e' hm' =>
      obtain rfl := Option.some.inj hy
      cases sign <;> cases sign' <;> simp [magnitudeOf] at h <;> rw [h.1, h.2]

namespace HasValue

variable {a b : Float} {x y : ℚ}

theorem isNaN_eq_false (ha : HasValue a x) : a.isNaN = false := by
  show a.toModel.unpack.isNaN = false
  unfold HasValue at ha
  cases hunpack : a.toModel.unpack with
  | notANumber =>
    rw [hunpack] at ha
    cases ha
  | infinity | zero | finite => rfl

/-- **Comparisons** are those of values. -/
theorem lt_iff (ha : HasValue a x) (hb : HasValue b y) : a < b ↔ x < y := by
  rw [lt_iff_magnitude, and_iff_right (isNaN_iff_magnitude.mp ha.isNaN_eq_false)]
  refine ⟨value_lt_of_magnitudeOf_lt ha.canonical hb.canonical ha hb, fun hlt => ?_⟩
  rcases lt_trichotomy (magnitude a) (magnitude b) with h | h | h
  · exact h
  · exact absurd (value_eq_of_magnitudeOf_eq ha hb h) hlt.ne
  · exact absurd (value_lt_of_magnitudeOf_lt hb.canonical ha.canonical hb ha h) hlt.asymm

theorem le_iff (ha : HasValue a x) (hb : HasValue b y) : a ≤ b ↔ x ≤ y := by
  have hnumber := isNaN_iff_magnitude.mp ha.isNaN_eq_false
  rw [← not_lt, ← hb.lt_iff ha, lt_iff_magnitude, le_iff_magnitude, and_iff_right hnumber,
    and_iff_right (isNaN_iff_magnitude.mp hb.isNaN_eq_false), not_lt]

end HasValue

/-! ## Bounds -/

/-- A finite number lies between two bounds. -/
def Between (low high : ℚ) (number : Float) : Prop :=
  ∃ x, HasValue number x ∧ low ≤ x ∧ x ≤ high

theorem HasValue.between {a : Float} {x : ℚ} (ha : HasValue a x) : Between x x a :=
  ⟨x, ha, le_rfl, le_rfl⟩

namespace Between

variable {a b : Float} {l h l' h' : ℚ}

theorem isNaN_eq_false (ha : Between l h a) : a.isNaN = false := by
  obtain ⟨x, hx, -⟩ := ha
  exact hx.isNaN_eq_false

theorem mono (ha : Between l h a) (hlow : l' ≤ l) (hhigh : h ≤ h') : Between l' h' a := by
  obtain ⟨x, hx, hl, hh⟩ := ha
  exact ⟨x, hx, hlow.trans hl, hh.trans hhigh⟩

/-- A sum lies between the rounded sums of the bounds. -/
theorem add (ha : Between l h a) (hb : Between l' h' b) (hlow : -ample ≤ l + l')
    (hhigh : h + h' ≤ ample) : Between (rounded (l + l')) (rounded (h + h')) (a + b) := by
  obtain ⟨x, hx, hl, hh⟩ := ha
  obtain ⟨y, hy, hl', hh'⟩ := hb
  have hsum := hx.add hy (abs_le.mpr ⟨by linarith, by linarith⟩)
  exact ⟨_, hsum, rounded_mono (by linarith), rounded_mono (by linarith)⟩

/-- A sum of numbers that are not negative. -/
theorem add_of_nonneg (ha : Between 0 h a) (hb : Between 0 h' b) (hhigh : h + h' ≤ ample) :
    Between 0 (rounded (h + h')) (a + b) := by
  have hsum := ha.add hb (by rw [add_zero]; exact neg_nonpos.mpr (two_zpow_pos _).le) hhigh
  rwa [add_zero, rounded_zero] at hsum

/-- Whole bounds that are not too large add up. -/
theorem add_natCast {m n : ℕ} (ha : Between 0 m a) (hb : Between 0 n b) (hle : m + n ≤ 2 ^ 53) :
    Between 0 (m + n : ℕ) (a + b) := by
  have hsum : ((m + n : ℕ) : ℚ) ≤ 2 ^ 53 := by exact_mod_cast hle
  have hadd := ha.add_of_nonneg hb (le_ample (by
    rw [← Nat.cast_add]
    exact hsum.trans (by norm_num)))
  rwa [← Nat.cast_add, rounded_eq_self (representable_natCast hle)] at hadd

/-- A product of numbers that are not negative lies between the rounded products of the bounds. -/
theorem mul_of_nonneg (ha : Between l h a) (hb : Between l' h' b) (hlow : 0 ≤ l) (hlow' : 0 ≤ l')
    (hhigh : h * h' ≤ ample) : Between (rounded (l * l')) (rounded (h * h')) (a * b) := by
  obtain ⟨x, hx, hl, hh⟩ := ha
  obtain ⟨y, hy, hl', hh'⟩ := hb
  have hpos := hlow.trans hl
  have hproduct : 0 ≤ x * y := mul_nonneg hpos (hlow'.trans hl')
  have hge : l * l' ≤ x * y := mul_le_mul hl hl' hlow' hpos
  have hle : x * y ≤ h * h' := mul_le_mul hh hh' (hlow'.trans hl') (hpos.trans hh)
  have hmul := hx.mul hy (by rw [abs_of_nonneg hproduct]; exact hle.trans hhigh)
  exact ⟨_, hmul, rounded_mono hge, rounded_mono hle⟩

theorem mul (ha : Between 0 h a) (hb : Between 0 h' b) (hhigh : h * h' ≤ ample) :
    Between 0 (rounded (h * h')) (a * b) := by
  have hproduct := ha.mul_of_nonneg hb le_rfl le_rfl hhigh
  rwa [zero_mul, rounded_zero] at hproduct

/-- A share lies between zero and one. -/
theorem div_of_le (ha : Between 0 h a) (hb : Between l h' b) (hpos : 0 < l) (hle : h ≤ l) :
    Between 0 1 (a / b) := by
  obtain ⟨x, hx, hl, hh⟩ := ha
  obtain ⟨y, hy, hl', hh'⟩ := hb
  have hy_pos : 0 < y := hpos.trans_le hl'
  have hnonneg : 0 ≤ x / y := div_nonneg hl hy_pos.le
  have hone : x / y ≤ 1 := div_le_one_of_le₀ (by linarith) hy_pos.le
  have hrep : Representable 1 := by exact_mod_cast @representable_natCast 1 (by norm_num)
  have hdiv := hx.div hy hy_pos.ne' (by
    rw [abs_of_nonneg hnonneg]
    exact le_ample (hone.trans (by norm_num)))
  exact ⟨_, hdiv, le_rounded representable_zero hnonneg, rounded_le hrep hone⟩

end Between

end Understudy.Decimal
