import Mathlib
import Understudy.Identifier

/-!
# Identifiers as texts

An identifier is written with 32 digits in groups, and what is written is read as that identifier
again.

## Main results

* `Text.hexFrom?_hexDigits`: the digits of a number write the number
* `Identifier.ungroup?_group`: taking groups apart yields what has been grouped
* `Identifier.ofText?_text`: the text of an identifier writes the identifier
-/

namespace Understudy

namespace Text

theorem hexValue?_hexDigit {value : Nat} (h : value < 16) :
    hexValue? (hexDigit value) = some value := by
  interval_cases value <;> rfl

/-- A digit opens no brace and begins no name. -/
theorem hexDigit_plain {value : Nat} (h : value < 16) :
    hexDigit value ≠ '\x7b' ∧ (hexDigit value).toLower ≠ 'u' := by
  interval_cases value <;> decide

@[simp] theorem length_hexDigits (width value : Nat) : (hexDigits width value).length = width := by
  induction width generalizing value with
  | zero => rfl
  | succ width ih => rw [hexDigits, List.length_append, ih, List.length_singleton]

theorem mem_hexDigits {width value : Nat} {c : Char} (h : c ∈ hexDigits width value) :
    ∃ digit < 16, c = hexDigit digit := by
  induction width generalizing value with
  | zero => cases h
  | succ width ih =>
    rcases List.mem_append.mp h with h | h
    · exact ih h
    · exact ⟨value % 16, Nat.mod_lt _ (by decide), List.mem_singleton.mp h⟩

theorem hexFrom?_append (start : Nat) (chars later : List Char) :
    hexFrom? start (chars ++ later) =
      (hexFrom? start chars).bind fun value => hexFrom? value later := by
  induction chars generalizing start with
  | nil => rfl
  | cons c rest ih =>
    simp only [List.cons_append, hexFrom?]
    cases hexValue? c with
    | none => rfl
    | some digit => exact ih _

/-- The last digits of a number, read on top of a start, write what they keep of the number. -/
theorem hexFrom?_hexDigits (start width value : Nat) :
    hexFrom? start (hexDigits width value) = some (16 ^ width * start + value % 16 ^ width) := by
  induction width generalizing value with
  | zero => simp [hexDigits, hexFrom?, Nat.mod_one]
  | succ width ih =>
    have hdigit := hexValue?_hexDigit (Nat.mod_lt value (show 0 < 16 by decide))
    simp only [hexDigits, hexFrom?_append, ih, Option.bind_some, hexFrom?, hdigit]
    -- the last digit is the remainder, and those before it are the digits of the quotient
    have hsplit : value % 16 ^ (width + 1) = value % 16 + 16 * (value / 16 % 16 ^ width) := by
      rw [Nat.pow_succ, Nat.mul_comm, Nat.mod_mul]
    rw [hsplit, Nat.pow_succ]
    congr 1
    ring

end Text

namespace Identifier

/-- Groups with hyphens between them are taken apart into what has been grouped. -/
theorem ungroup?_group {lengths : List Nat} {digits : List Char} (hne : lengths ≠ [])
    (hlength : digits.length = lengths.sum) :
    ungroup? lengths (group lengths digits) = some digits := by
  induction lengths generalizing digits with
  | nil => exact absurd rfl hne
  | cons length rest ih =>
    cases rest with
    | nil => exact if_pos (by simpa [group] using hlength)
    | cons next rest =>
      have hfirst : length ≤ digits.length := by
        rw [hlength, List.sum_cons]
        exact Nat.le_add_right _ _
      have htake : (digits.take length).length = length := List.length_take_of_le hfirst
      have hdrop : (digits.drop length).length = (next :: rest).sum := by
        rw [List.length_drop, hlength, List.sum_cons, Nat.add_sub_cancel_left]
      have hlater := ih (List.cons_ne_nil _ _) hdrop
      have hgroup : group (length :: next :: rest) digits =
          digits.take length ++ '-' :: group (next :: rest) (digits.drop length) := rfl
      -- the first group ends where the hyphen stands
      simp only [ungroup?, hgroup, List.drop_left' htake, List.take_left' htake, hlater,
        Option.map_some, List.take_append_drop]

theorem ofDigits?_hexDigits (id : Identifier) :
    ofDigits? (Text.hexDigits 32 id.bits.toNat) = some id := by
  have hread : Text.ofHex? (Text.hexDigits 32 id.bits.toNat) = some id.bits.toNat := by
    have hbound : id.bits.toNat < 16 ^ 32 := id.bits.isLt
    have hfrom := Text.hexFrom?_hexDigits 0 32 id.bits.toNat
    rw [Nat.mul_zero, Nat.zero_add, Nat.mod_eq_of_lt hbound] at hfrom
    rw [← hfrom]
    cases hdigits : Text.hexDigits 32 id.bits.toNat with
    | nil => simpa [hdigits] using Text.length_hexDigits 32 id.bits.toNat
    | cons digit rest => rfl
  rw [ofDigits?, if_pos (Text.length_hexDigits ..), hread, Option.map_some, BitVec.ofNat_toNat]
  simp

/-- **Identifiers survive**: the text of an identifier writes that identifier. -/
theorem ofText?_text (id : Identifier) : ofText? id.text = some id := by
  let digits := Text.hexDigits 32 id.bits.toNat
  have hchars : id.text.toList = group groups digits := String.toList_ofList
  obtain ⟨digit, rest, hdigits⟩ : ∃ digit rest, digits = digit :: rest :=
    List.exists_cons_of_length_pos (by simp [digits])
  obtain ⟨value, hvalue, rfl⟩ : ∃ value < 16, digit = Text.hexDigit value :=
    Text.mem_hexDigits (show digit ∈ digits by simp [hdigits])
  obtain ⟨hbrace, hname⟩ := Text.hexDigit_plain hvalue
  -- the text begins with a digit, so neither a brace nor a name is in front
  obtain ⟨later, hlater⟩ : ∃ later, id.text.toList = Text.hexDigit value :: later := by
    rw [hchars, hdigits]
    exact ⟨_, rfl⟩
  have hlength : id.text.toList.length ≠ 32 := by
    rw [hchars]
    simp [group, groups, digits]
  have hgroups : ofGroups? id.text.toList = some id := by
    rw [ofGroups?, hchars, ungroup?_group (by decide) (by simp [digits, groups]), Option.bind_some]
    exact ofDigits?_hexDigits id
  unfold ofText?
  simp only
  split
  · next heq =>
    rw [hlater] at heq
    exact absurd (List.cons.inj heq).1 hbrace
  · rw [if_neg, if_neg hlength, hgroups]
    rw [hlater]
    intro hprefix
    exact hname (List.cons.inj hprefix).1

end Identifier

end Understudy
