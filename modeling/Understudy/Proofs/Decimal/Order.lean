import Mathlib

/-!
# The order of floating-point numbers

Numbers are compared by their *magnitude*: the sign, then the exponent, then the mantissa, all taken
negatively for negative numbers, so that magnitudes are ordered linearly. What is not a number has
the least magnitude, and compares with nothing. The usual laws of comparisons follow from those of
the linear order.

## Main definitions

* `magnitude`: where a floating-point number lies in the order

## Main results

* `lt_iff_magnitude`, `le_iff_magnitude`, `beq_iff_magnitude`: comparisons are those of magnitudes
* `isNaN_iff_magnitude`: what is not a number lies below everything
-/

namespace Understudy.Decimal

open Float.Model

/-- Where a number taken apart lies in the order. -/
def magnitudeOf : UnpackedFloat → WithBot (ℤ ×ₗ ℤ ×ₗ ℤ)
  | .notANumber => ⊥
  | .infinity .negative => ↑(toLex ((-2 : ℤ), toLex ((0 : ℤ), (0 : ℤ))))
  | .finite .negative mantissa exponent _ =>
    ↑(toLex ((-1 : ℤ), toLex (-exponent, -(mantissa : ℤ))))
  | .zero _ => ↑(toLex ((0 : ℤ), toLex ((0 : ℤ), (0 : ℤ))))
  | .finite .positive mantissa exponent _ => ↑(toLex ((1 : ℤ), toLex (exponent, (mantissa : ℤ))))
  | .infinity .positive => ↑(toLex ((2 : ℤ), toLex ((0 : ℤ), (0 : ℤ))))

/-- Where a floating-point number lies in the order; what is not a number lies lowest. -/
def magnitude (number : Float) : WithBot (ℤ ×ₗ ℤ ×ₗ ℤ) :=
  magnitudeOf number.toModel.unpack

theorem bot_lt_magnitudeOf_iff (a : UnpackedFloat) : ⊥ < magnitudeOf a ↔ a.isNaN = false := by
  cases a with
  | notANumber => simp [magnitudeOf, UnpackedFloat.isNaN]
  | infinity sign => cases sign <;> simp [magnitudeOf, UnpackedFloat.isNaN]
  | zero sign => simp [magnitudeOf, UnpackedFloat.isNaN]
  | finite sign mantissa exponent pos => cases sign <;> simp [magnitudeOf, UnpackedFloat.isNaN]

/-- A comparison of finite numbers of one sign is one of exponents and then of mantissas. -/
theorem compare_finite_eq_lt_iff {m m' : ℕ} {e e' : ℤ} :
    (compare e e').then (compare m m') = .lt ↔
      toLex (e, (m : ℤ)) < toLex (e', (m' : ℤ)) := by
  simp only [Prod.Lex.toLex_lt_toLex, Ordering.then_eq_lt, compare_lt_iff_lt, compare_eq_iff_eq]
  omega

theorem compare_finite_eq_gt_iff {m m' : ℕ} {e e' : ℤ} :
    (compare e e').then (compare m m') = .gt ↔
      toLex (-e, -(m : ℤ)) < toLex (-e', -(m' : ℤ)) := by
  simp only [Prod.Lex.toLex_lt_toLex, Ordering.then_eq_gt, compare_gt_iff_gt, compare_eq_iff_eq]
  omega

theorem compare_eq_lt_iff (a b : UnpackedFloat) :
    a.compare b = some .lt ↔ ⊥ < magnitudeOf a ∧ magnitudeOf a < magnitudeOf b := by
  -- by the kinds and the signs of both numbers; only two finite ones of one sign compare parts
  cases a with
  | notANumber => simp [magnitudeOf, UnpackedFloat.compare]
  | infinity sign =>
    cases b with
    | notANumber => simp [magnitudeOf, UnpackedFloat.compare]
    | infinity sign' =>
      cases sign <;> cases sign' <;>
        simp [magnitudeOf, UnpackedFloat.compare, compare, Prod.Lex.toLex_lt_toLex]
    | zero => cases sign <;> simp [magnitudeOf, UnpackedFloat.compare, Prod.Lex.toLex_lt_toLex]
    | finite sign' =>
      cases sign <;> cases sign' <;>
        simp [magnitudeOf, UnpackedFloat.compare, Prod.Lex.toLex_lt_toLex]
  | zero =>
    cases b with
    | notANumber => simp [magnitudeOf, UnpackedFloat.compare]
    | infinity sign' =>
      cases sign' <;> simp [magnitudeOf, UnpackedFloat.compare, Prod.Lex.toLex_lt_toLex]
    | zero => simp [magnitudeOf, UnpackedFloat.compare]
    | finite sign' =>
      cases sign' <;> simp [magnitudeOf, UnpackedFloat.compare, Prod.Lex.toLex_lt_toLex]
  | finite sign =>
    cases b with
    | notANumber => simp [magnitudeOf, UnpackedFloat.compare]
    | infinity sign' =>
      cases sign <;> cases sign' <;>
        simp [magnitudeOf, UnpackedFloat.compare, Prod.Lex.toLex_lt_toLex]
    | zero => cases sign <;> simp [magnitudeOf, UnpackedFloat.compare, Prod.Lex.toLex_lt_toLex]
    | finite sign' =>
      cases sign <;> cases sign' <;>
        simp [magnitudeOf, UnpackedFloat.compare, Prod.Lex.toLex_lt_toLex,
          compare_finite_eq_lt_iff, compare_finite_eq_gt_iff]

theorem compare_eq_eq_iff (a b : UnpackedFloat) :
    a.compare b = some .eq ↔ ⊥ < magnitudeOf a ∧ magnitudeOf a = magnitudeOf b := by
  cases a with
  | notANumber => simp [magnitudeOf, UnpackedFloat.compare]
  | infinity sign =>
    cases b with
    | notANumber => cases sign <;> simp [magnitudeOf, UnpackedFloat.compare]
    | infinity sign' =>
      cases sign <;> cases sign' <;> simp [magnitudeOf, UnpackedFloat.compare, compare]
    | zero => cases sign <;> simp [magnitudeOf, UnpackedFloat.compare]
    | finite sign' => cases sign <;> cases sign' <;> simp [magnitudeOf, UnpackedFloat.compare]
  | zero =>
    cases b with
    | notANumber => simp [magnitudeOf, UnpackedFloat.compare]
    | infinity sign' => cases sign' <;> simp [magnitudeOf, UnpackedFloat.compare]
    | zero => simp [magnitudeOf, UnpackedFloat.compare]
    | finite sign' => cases sign' <;> simp [magnitudeOf, UnpackedFloat.compare]
  | finite sign =>
    cases b with
    | notANumber => cases sign <;> simp [magnitudeOf, UnpackedFloat.compare]
    | infinity sign' => cases sign <;> cases sign' <;> simp [magnitudeOf, UnpackedFloat.compare]
    | zero => cases sign <;> simp [magnitudeOf, UnpackedFloat.compare]
    | finite sign' =>
      cases sign <;> cases sign' <;>
        simp [magnitudeOf, UnpackedFloat.compare]

/-! ## Comparisons -/

/-- What is not a number lies below everything. -/
theorem isNaN_iff_magnitude {a : Float} : a.isNaN = false ↔ ⊥ < magnitude a :=
  (bot_lt_magnitudeOf_iff a.toModel.unpack).symm

theorem lt_iff_magnitude {a b : Float} : a < b ↔ ⊥ < magnitude a ∧ magnitude a < magnitude b := by
  rw [magnitude, magnitude, ← compare_eq_lt_iff]
  show Float.lt a b = true ↔ _
  rw [Float.lt, decide_eq_true_iff]
  show (a.toModel.unpack.compare b.toModel.unpack == some .lt) = true ↔ _
  rw [beq_iff_eq]

theorem beq_iff_magnitude {a b : Float} :
    (a == b) = true ↔ ⊥ < magnitude a ∧ magnitude a = magnitude b := by
  rw [magnitude, magnitude, ← compare_eq_eq_iff]
  show (a.toModel.unpack.compare b.toModel.unpack == some .eq) = true ↔ _
  rw [beq_iff_eq]

theorem le_iff_magnitude {a b : Float} :
    a ≤ b ↔ ⊥ < magnitude a ∧ magnitude a ≤ magnitude b := by
  have hsplit : a ≤ b ↔ a < b ∨ (a == b) = true := by
    show Float.le a b = true ↔ Float.lt a b = true ∨ _
    rw [Float.le, Float.lt, decide_eq_true_iff, decide_eq_true_iff]
    show (a.toModel.unpack.compare b.toModel.unpack).any (·.isLE) = true ↔
      (a.toModel.unpack.compare b.toModel.unpack == some .lt) = true ∨
        (a.toModel.unpack.compare b.toModel.unpack == some .eq) = true
    cases a.toModel.unpack.compare b.toModel.unpack with
    | none => simp
    | some order => cases order <;> simp
  rw [hsplit, lt_iff_magnitude, beq_iff_magnitude, ← and_or_left, le_iff_lt_or_eq]

theorem lt_irrefl (a : Float) : ¬ a < a := fun h => (lt_iff_magnitude.mp h).2.false

theorem lt_trans {a b c : Float} (hab : a < b) (hbc : b < c) : a < c :=
  have h := lt_iff_magnitude.mp hab
  lt_iff_magnitude.mpr ⟨h.1, h.2.trans (lt_iff_magnitude.mp hbc).2⟩

/-- A number that equals a larger one is larger. -/
theorem lt_of_lt_of_beq {a b c : Float} (hab : a < b) (hcb : (c == b) = true) : a < c := by
  have h := lt_iff_magnitude.mp hab
  exact lt_iff_magnitude.mpr ⟨h.1, (beq_iff_magnitude.mp hcb).2 ▸ h.2⟩

end Understudy.Decimal
