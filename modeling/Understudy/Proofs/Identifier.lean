import Mathlib
import Understudy.Identifier

/-!
# The order of identifiers

Identifiers are ordered linearly, as the numbers that they are.
-/

namespace Understudy

theorem Identifier.eq_of_bits_eq {a b : Identifier} (h : a.bits = b.bits) : a = b := by
  cases a
  cases b
  exact congrArg _ h

instance : LinearOrder Identifier where
  le_refl a := BitVec.le_refl a.bits
  le_trans a b c := BitVec.le_trans
  le_antisymm a b hab hba := Identifier.eq_of_bits_eq (BitVec.le_antisymm hab hba)
  le_total a b := BitVec.le_total a.bits b.bits
  lt_iff_le_not_ge a b := by
    show a.bits < b.bits ↔ a.bits ≤ b.bits ∧ ¬ b.bits ≤ a.bits
    rw [BitVec.not_le]
    exact ⟨fun h => ⟨BitVec.le_of_lt h, h⟩, And.right⟩
  toDecidableLE := inferInstance
  toDecidableEq := inferInstance
  toDecidableLT := inferInstance

end Understudy
