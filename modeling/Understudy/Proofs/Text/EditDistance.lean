import Mathlib
import Understudy.Predicate.Rank

/-!
# The edit distance of two texts

One edit inserts, deletes or substitutes a character anywhere in a text. The distance of two texts
is the least number of edits, one after the other, that turn the first into the second. Edits can be
put into the order of the text: they then are an *alignment*, which goes through both texts from the
left and keeps, substitutes, deletes or inserts at each place. An alignment of two texts can also be
taken apart at the end, which is how the rows are computed: each entry follows from the entries of
texts that lack their last character.

## Main definitions

* `Edit`, `Edits`: one edit, and so many of them one after the other
* `Aligned`: two texts side by side, with so many places at which they differ
* `Distance`: the least number of places at which two texts differ
* `IsRow`: a row of distances

## Main results

* `Aligned.edits`, `Aligned.of_edits`: alignments and edits
* `Distance.concat`: the distance of two texts from those of shorter ones
* `isRow_lastRow`: each entry of a row is the distance of a start of the one text from one of the
  other
* `editDistance_least`: the last entry is the least number of edits
* `Rank.similarity_comm`: similarity does not depend on which text is the wanted one
-/

namespace Understudy.Text

variable {a b c : List Char} {x y : Char} {n m : ℕ}

/-! ## Edits -/

/-- One text turns into another by one edit. -/
inductive Edit : List Char → List Char → Prop
  | insertion (start rest : List Char) (y : Char) : Edit (start ++ rest) (start ++ y :: rest)
  | deletion (start rest : List Char) (x : Char) : Edit (start ++ x :: rest) (start ++ rest)
  | substitution (start rest : List Char) (x y : Char) :
    Edit (start ++ x :: rest) (start ++ y :: rest)

/-- One text turns into another by so many edits, one after the other. -/
inductive Edits : ℕ → List Char → List Char → Prop
  | none (a : List Char) : Edits 0 a a
  | more {n : ℕ} {a b c : List Char} : Edit a b → Edits n b c → Edits (n + 1) a c

theorem Edit.cons (x : Char) (h : Edit a b) : Edit (x :: a) (x :: b) := by
  cases h with
  | insertion start rest y => exact .insertion (x :: start) rest y
  | deletion start rest y => exact .deletion (x :: start) rest y
  | substitution start rest y z => exact .substitution (x :: start) rest y z

theorem Edits.cons (x : Char) (h : Edits n a b) : Edits n (x :: a) (x :: b) := by
  induction h with
  | none a => exact .none (x :: a)
  | more hedit _ ih => exact .more (hedit.cons x) ih

/-! ## Alignments -/

/-- Two texts side by side, with so many places at which they differ. -/
inductive Aligned : ℕ → List Char → List Char → Prop
  | nil : Aligned 0 [] []
  | keep {n : ℕ} {a b : List Char} (x : Char) : Aligned n a b → Aligned n (x :: a) (x :: b)
  | substitute {n : ℕ} {a b : List Char} (x y : Char) :
    Aligned n a b → Aligned (n + 1) (x :: a) (y :: b)
  | delete {n : ℕ} {a b : List Char} (x : Char) : Aligned n a b → Aligned (n + 1) (x :: a) b
  | insert {n : ℕ} {a b : List Char} (y : Char) : Aligned n a b → Aligned (n + 1) a (y :: b)

namespace Aligned

theorem refl (a : List Char) : Aligned 0 a a := by
  induction a with
  | nil => exact .nil
  | cons x a ih => exact .keep x ih

theorem symm (h : Aligned n a b) : Aligned n b a := by
  induction h with
  | nil => exact .nil
  | keep x _ ih => exact .keep x ih
  | substitute x y _ ih => exact .substitute y x ih
  | delete x _ ih => exact .insert x ih
  | insert y _ ih => exact .delete y ih

theorem append {a' b' : List Char} (h : Aligned n a b) (h' : Aligned m a' b') :
    Aligned (n + m) (a ++ a') (b ++ b') := by
  induction h with
  | nil => simpa using h'
  | keep x _ ih => exact .keep x ih
  | substitute x y _ ih =>
    rw [Nat.add_right_comm]
    exact .substitute x y ih
  | delete x _ ih =>
    rw [Nat.add_right_comm]
    exact .delete x ih
  | insert y _ ih =>
    rw [Nat.add_right_comm]
    exact .insert y ih

/-- An alignment can be read from the right. -/
theorem reverse (h : Aligned n a b) : Aligned n a.reverse b.reverse := by
  induction h with
  | nil => exact .nil
  | keep x _ ih => simpa using ih.append (.keep x .nil)
  | substitute x y _ ih => simpa using ih.append (.substitute x y .nil)
  | delete x _ ih => simpa using ih.append (.delete x .nil)
  | insert y _ ih => simpa using ih.append (.insert y .nil)

/-- Where the first text is cut in two, so is the second. -/
theorem exists_append (h : Aligned n (a ++ b) c) : ∃ i j c₁ c₂, n = i + j ∧ c = c₁ ++ c₂ ∧
    Aligned i a c₁ ∧ Aligned j b c₂ := by
  generalize htext : a ++ b = text at h
  induction h generalizing a with
  | nil =>
    obtain ⟨rfl, rfl⟩ := List.append_eq_nil_iff.mp htext
    exact ⟨0, 0, [], [], rfl, rfl, .nil, .nil⟩
  | @keep n _ c x h ih =>
    rcases List.append_eq_cons_iff.mp htext with ⟨rfl, rfl⟩ | ⟨a, rfl, rfl⟩
    · exact ⟨0, n, [], x :: c, (Nat.zero_add n).symm, rfl, .nil, .keep x h⟩
    · obtain ⟨i, j, c₁, c₂, rfl, rfl, h₁, h₂⟩ := ih rfl
      exact ⟨i, j, x :: c₁, c₂, rfl, rfl, .keep x h₁, h₂⟩
  | @substitute n _ c x y h ih =>
    rcases List.append_eq_cons_iff.mp htext with ⟨rfl, rfl⟩ | ⟨a, rfl, rfl⟩
    · exact ⟨0, n + 1, [], y :: c, (Nat.zero_add _).symm, rfl, .nil, .substitute x y h⟩
    · obtain ⟨i, j, c₁, c₂, rfl, rfl, h₁, h₂⟩ := ih rfl
      exact ⟨i + 1, j, y :: c₁, c₂, by omega, rfl, .substitute x y h₁, h₂⟩
  | @delete n _ c x h ih =>
    rcases List.append_eq_cons_iff.mp htext with ⟨rfl, rfl⟩ | ⟨a, rfl, rfl⟩
    · exact ⟨0, n + 1, [], c, (Nat.zero_add _).symm, rfl, .nil, .delete x h⟩
    · obtain ⟨i, j, c₁, c₂, rfl, rfl, h₁, h₂⟩ := ih rfl
      exact ⟨i + 1, j, c₁, c₂, by omega, rfl, .delete x h₁, h₂⟩
  | @insert n _ c y h ih =>
    -- the inserted character goes with the first part
    obtain ⟨i, j, c₁, c₂, rfl, rfl, h₁, h₂⟩ := ih htext
    exact ⟨i + 1, j, y :: c₁, c₂, by omega, rfl, .insert y h₁, h₂⟩

/-- Each difference makes the second text longer by one character at most. -/
theorem length_le (h : Aligned n a b) : b.length ≤ a.length + n := by
  induction h with
  | nil => rfl
  | keep | substitute | delete | insert =>
    simp only [List.length_cons]
    omega

/-- No more places differ than the longer text has. -/
theorem exists_le_max (a b : List Char) : ∃ n ≤ max a.length b.length, Aligned n a b := by
  induction a generalizing b with
  | nil =>
    induction b with
    | nil => exact ⟨0, le_refl _, .nil⟩
    | cons y b ih =>
      obtain ⟨n, hn, h⟩ := ih
      exact ⟨n + 1, by simpa using hn, .insert y h⟩
  | cons x a ih =>
    cases b with
    | nil =>
      obtain ⟨n, hn, h⟩ := ih []
      exact ⟨n + 1, by simpa using hn, .delete x h⟩
    | cons y b =>
      obtain ⟨n, hn, h⟩ := ih b
      refine ⟨n + 1, ?_, .substitute x y h⟩
      simp only [List.length_cons]
      omega

/-- With at most one character in place of its first one, a text has an alignment with one more
difference at most. -/
theorem exists_replace (h : Aligned n (x :: a) c) (start : List Char) (hstart : start.length ≤ 1) :
    ∃ m ≤ n + 1, Aligned m (start ++ a) c := by
  -- what stood over the first character is short enough to be aligned anew
  obtain ⟨i, j, c₁, c₂, rfl, rfl, h₁, h₂⟩ := exists_append (a := [x]) h
  have hlength : c₁.length ≤ 1 + i := h₁.length_le
  obtain ⟨m, hm, hnew⟩ := exists_le_max start c₁
  exact ⟨m + j, by omega, hnew.append h₂⟩

/-- An edit before an alignment makes one more difference at most. -/
theorem exists_edit (hedit : Edit a b) (h : Aligned n b c) : ∃ m ≤ n + 1, Aligned m a c := by
  -- only the part of the text from the edit on is aligned anew
  cases hedit with
  | insertion start rest y =>
    obtain ⟨i, j, c₁, c₂, rfl, rfl, h₁, h₂⟩ := h.exists_append
    obtain ⟨m, hm, hrest⟩ := h₂.exists_replace [] (Nat.zero_le 1)
    exact ⟨i + m, by omega, h₁.append hrest⟩
  | deletion start rest x =>
    obtain ⟨i, j, c₁, c₂, rfl, rfl, h₁, h₂⟩ := h.exists_append
    exact ⟨i + (j + 1), by omega, h₁.append (.delete x h₂)⟩
  | substitution start rest x y =>
    obtain ⟨i, j, c₁, c₂, rfl, rfl, h₁, h₂⟩ := h.exists_append
    obtain ⟨m, hm, hrest⟩ := h₂.exists_replace [x] (le_refl 1)
    exact ⟨i + m, by omega, h₁.append hrest⟩

/-- An alignment is made of as many edits as there are differences. -/
theorem edits (h : Aligned n a b) : Edits n a b := by
  induction h with
  | nil => exact .none []
  | keep x _ ih => exact ih.cons x
  | substitute x y _ ih => exact .more (.substitution [] _ x y) (ih.cons y)
  | delete x _ ih => exact .more (.deletion [] _ x) ih
  | insert y _ ih => exact .more (.insertion [] _ y) (ih.cons y)

/-- Edits in any order leave texts that have an alignment with no more differences. -/
theorem of_edits (h : Edits n a b) : ∃ m ≤ n, Aligned m a b := by
  induction h with
  | none a => exact ⟨0, le_refl _, .refl a⟩
  | more hedit _ ih =>
    obtain ⟨m, hm, h⟩ := ih
    obtain ⟨k, hk, h⟩ := h.exists_edit hedit
    exact ⟨k, by omega, h⟩

theorem eq_of_zero (h : Aligned 0 a b) : a = b := by
  generalize hzero : 0 = n at h
  induction h with
  | nil => rfl
  | keep x _ ih => rw [ih hzero]
  | substitute => cases hzero
  | delete => cases hzero
  | insert => cases hzero

theorem length_of_nil (h : Aligned n a []) : n = a.length := by
  generalize hnil : [] = b at h
  induction h with
  | nil => rfl
  | keep => cases hnil
  | substitute => cases hnil
  | delete x _ ih => rw [ih hnil, List.length_cons]
  | insert => cases hnil

theorem of_nil (a : List Char) : Aligned a.length a [] := by
  induction a with
  | nil => exact .nil
  | cons x a ih => exact .delete x ih

/-- The last place of an alignment: the last character is deleted, or inserted, or stands over the
last one of the other text. -/
theorem of_concat (h : Aligned n (a ++ [x]) (b ++ [y])) :
    (∃ m, n = m + 1 ∧ Aligned m a (b ++ [y])) ∨ (∃ m, n = m + 1 ∧ Aligned m (a ++ [x]) b) ∨
      ∃ m, m + (if x = y then 0 else 1) ≤ n ∧ Aligned m a b := by
  have hreverse := h.reverse
  simp only [List.reverse_append, List.reverse_singleton, List.singleton_append] at hreverse
  cases hreverse with
  | keep _ h => exact .inr (.inr ⟨n, by simp, by simpa using h.reverse⟩)
  | @substitute m _ _ _ _ h =>
    refine .inr (.inr ⟨m, ?_, by simpa using h.reverse⟩)
    split <;> omega
  | @delete m _ _ _ h => exact .inl ⟨m, rfl, by simpa using h.reverse⟩
  | @insert m _ _ _ h => exact .inr (.inl ⟨m, rfl, by simpa using h.reverse⟩)

end Aligned

/-! ## Distances -/

/-- The least number of places at which two texts differ. -/
def Distance (a b : List Char) (d : ℕ) : Prop :=
  IsLeast {n | Aligned n a b} d

namespace Distance

variable {d up left diagonal : ℕ}

/-- This is the least number of edits. -/
theorem isLeast_edits (h : Distance a b d) : IsLeast {n | Edits n a b} d := by
  refine ⟨h.1.edits, ?_⟩
  intro n hedits
  obtain ⟨m, hm, haligned⟩ := Aligned.of_edits hedits
  exact (h.2 haligned).trans hm

theorem symm (h : Distance a b d) : Distance b a d :=
  ⟨h.1.symm, fun _ haligned => h.2 haligned.symm⟩

theorem of_nil (a : List Char) : Distance a [] a.length :=
  ⟨.of_nil a, fun _ haligned => haligned.length_of_nil.ge⟩

theorem le_max (h : Distance a b d) : d ≤ max a.length b.length := by
  obtain ⟨n, hn, haligned⟩ := Aligned.exists_le_max a b
  exact (h.2 haligned).trans hn

theorem eq_zero_iff (h : Distance a b d) : d = 0 ↔ a = b := by
  constructor
  · rintro rfl
    exact Aligned.eq_of_zero h.1
  · rintro rfl
    exact Nat.le_zero.mp (h.2 (Aligned.refl a))

/-- **The distance of two texts** follows from those of texts that lack a last character. -/
theorem concat (hup : Distance a (b ++ [y]) up) (hleft : Distance (a ++ [x]) b left)
    (hdiagonal : Distance a b diagonal) :
    Distance (a ++ [x]) (b ++ [y])
      (min (min (up + 1) (left + 1)) (diagonal + if x = y then 0 else 1)) := by
  constructor
  · -- each of the three is the number of differences of an alignment
    have halign : ∀ n, n = up + 1 ∨ n = left + 1 ∨ n = diagonal + (if x = y then 0 else 1) →
        Aligned n (a ++ [x]) (b ++ [y]) := by
      rintro n (rfl | rfl | rfl)
      · simpa using hup.1.append (.delete x .nil)
      · simpa using hleft.1.append (.insert y .nil)
      · split
        · next heq => exact heq ▸ hdiagonal.1.append (.keep x .nil)
        · exact hdiagonal.1.append (.substitute x y .nil)
    apply halign
    omega
  · intro n haligned
    rcases Aligned.of_concat haligned with ⟨m, rfl, h⟩ | ⟨m, rfl, h⟩ | ⟨m, hm, h⟩
    · have hle := hup.2 h
      omega
    · have hle := hleft.2 h
      omega
    · have hle := hdiagonal.2 h
      omega

end Distance

/-! ## Rows -/

/-- A row of distances from a text: to another one, and to it with more and more of a rest after
it. -/
inductive IsRow (a : List Char) : (b rest : List Char) → List ℕ → Prop
  | last {b : List Char} {d : ℕ} : Distance a b d → IsRow a b [] [d]
  | entry {b rest : List Char} {y : Char} {d : ℕ} {row : List ℕ} :
    Distance a b d → IsRow a (b ++ [y]) rest row → IsRow a b (y :: rest) (d :: row)

namespace IsRow

variable {rest : List Char} {row : List ℕ}

theorem exists_cons (h : IsRow a b rest row) : ∃ d row', row = d :: row' ∧ Distance a b d := by
  cases h with
  | last hd => exact ⟨_, [], rfl, hd⟩
  | entry hd hrow => exact ⟨_, _, rfl, hd⟩

theorem length_eq (h : IsRow a b rest row) : row.length = rest.length + 1 := by
  induction h with
  | last hd => rfl
  | entry hd hrow ih => rw [List.length_cons, ih, List.length_cons]

/-- The entries of a row are the distances to the starts of the other text. -/
theorem exists_getElem? (h : IsRow a b rest row) {j : ℕ} (hj : j ≤ rest.length) :
    ∃ d, row[j]? = some d ∧ Distance a (b ++ rest.take j) d := by
  induction h generalizing j with
  | @last b d hd =>
    obtain rfl := Nat.le_zero.mp hj
    exact ⟨d, rfl, by simpa using hd⟩
  | @entry b rest y d row hd hrow ih =>
    cases j with
    | zero => exact ⟨d, rfl, by simpa using hd⟩
    | succ j =>
      obtain ⟨d, hget, hd⟩ := ih (Nat.le_of_succ_le_succ hj)
      refine ⟨d, by simpa using hget, ?_⟩
      rwa [List.append_assoc, List.singleton_append] at hd

/-- The distances from the empty text are the lengths. -/
theorem of_nil (b rest : List Char) :
    IsRow [] b rest (List.range' b.length (rest.length + 1)) := by
  induction rest generalizing b with
  | nil => exact .last (Distance.of_nil b).symm
  | cons y rest ih =>
    have hrow := ih (b ++ [y])
    rw [List.length_append, List.length_singleton] at hrow
    exact .entry (Distance.of_nil b).symm hrow

/-- With one more character of the first text, the entries follow from left to right. -/
theorem nextEntries {diagonal left : ℕ} {above : List ℕ} (h : IsRow a b rest (diagonal :: above))
    (hleft : Distance (a ++ [x]) b left) :
    IsRow (a ++ [x]) b rest (left :: Text.nextEntries x rest diagonal left above) := by
  induction rest generalizing b diagonal left above with
  | nil =>
    cases h with
    | last => exact .last hleft
  | cons y rest ih =>
    cases h with
    | entry hdiagonal habove =>
      obtain ⟨up, above, rfl, hup⟩ := habove.exists_cons
      exact .entry hleft (ih habove (hup.concat hleft hdiagonal))

theorem nextRow (h : IsRow a [] b row) : IsRow (a ++ [x]) [] b (Text.nextRow b row x) := by
  obtain ⟨first, above, rfl, hfirst⟩ := h.exists_cons
  have hnext : Distance (a ++ [x]) [] (first + 1) := by
    rw [hfirst.1.length_of_nil, ← List.length_concat, List.concat_eq_append]
    exact .of_nil (a ++ [x])
  exact h.nextEntries hnext

end IsRow

/-- **The rows hold distances**: that of a start of the first text holds those to the starts of the
second one. -/
theorem isRow_lastRow (a b : List Char) : IsRow a [] b (lastRow a b) := by
  induction a using List.reverseRecOn with
  | nil =>
    rw [lastRow, List.foldl_nil, List.range_eq_range']
    exact IsRow.of_nil [] b
  | append_singleton a x ih =>
    rw [lastRow, List.foldl_append]
    exact ih.nextRow

theorem getElem?_lastRow (a b : List Char) : (lastRow a b)[b.length]? = some (editDistance a b) := by
  obtain ⟨d, hget, -⟩ := (isRow_lastRow a b).exists_getElem? (le_refl b.length)
  rw [editDistance, List.getLast?_eq_getElem?, (isRow_lastRow a b).length_eq, Nat.add_sub_cancel,
    hget]
  rfl

theorem distance_editDistance (a b : List Char) : Distance a b (editDistance a b) := by
  obtain ⟨d, hget, hd⟩ := (isRow_lastRow a b).exists_getElem? (le_refl b.length)
  rw [getElem?_lastRow] at hget
  obtain rfl := Option.some.inj hget
  simpa using hd

theorem editDistance_comm (a b : List Char) : editDistance a b = editDistance b a :=
  (distance_editDistance a b).unique (distance_editDistance b a).symm

/-- **The edit distance is the least number of edits.** In the row of a start of the first text,
each entry is the least number of edits that turn it into the start of the second text above which
it stands. The last entry of the last row is that of the whole texts. It is zero for equal texts
only, is no greater than the longer text is long, and leaves the same rest of that length if the two
texts are exchanged. -/
theorem editDistance_least (a b : List Char) :
    (∀ i, ∀ j ≤ b.length, ∃ d, (lastRow (a.take i) b)[j]? = some d ∧
      IsLeast {n | Edits n (a.take i) (b.take j)} d) ∧
    (lastRow a b)[b.length]? = some (editDistance a b) ∧
    IsLeast {n | Edits n a b} (editDistance a b) ∧
    (1 ≤ editDistance a b ↔ a ≠ b) ∧
    editDistance a b ≤ max a.length b.length ∧
    max a.length b.length - editDistance a b = max b.length a.length - editDistance b a := by
  have hdistance := distance_editDistance a b
  refine ⟨?_, getElem?_lastRow a b, hdistance.isLeast_edits, ?_, hdistance.le_max, ?_⟩
  · intro i j hj
    obtain ⟨d, hget, hd⟩ := (isRow_lastRow (a.take i) b).exists_getElem? hj
    exact ⟨d, hget, hd.isLeast_edits⟩
  · rw [Nat.one_le_iff_ne_zero, ne_eq, hdistance.eq_zero_iff]
  · rw [max_comm, editDistance_comm]

/-- One edit at least turns `kit` into `sit`, and three turn `kitten` into `sitting`. -/
theorem editDistance_least_kitten :
    3 ≤ "sitting".toList.length ∧
    (lastRow ("kitten".toList.take 3) "sitting".toList)[3]? = some 1 ∧
    IsLeast {n | Edits n ("kitten".toList.take 3) ("sitting".toList.take 3)} 1 ∧
    IsLeast {n | Edits n "kitten".toList "sitting".toList} 3 := by
  obtain ⟨hrows, -, hleast, -⟩ := editDistance_least "kitten".toList "sitting".toList
  obtain ⟨d, hget, hd⟩ := hrows 3 3 (by decide)
  have hentry : (lastRow ("kitten".toList.take 3) "sitting".toList)[3]? = some 1 := by
    decide +kernel
  obtain rfl := Option.some.inj (hget.symm.trans hentry)
  rw [show editDistance "kitten".toList "sitting".toList = 3 by decide +kernel] at hleast
  exact ⟨by decide, hentry, hd, hleast⟩

end Understudy.Text

namespace Understudy

/-- Similarity does not depend on which of two texts is the wanted one. -/
theorem Rank.similarity_comm (want got : String) : similarity want got = similarity got want := by
  unfold similarity
  rw [Text.editDistance_comm, max_comm, Bool.or_comm]
  simp only [eq_comm]

end Understudy
