import Understudy.Predicate.Message
import Understudy.Proofs.Decimal.Value
import Understudy.Proofs.Json.Parts
import Understudy.Proofs.Memo.Transparency
import Understudy.Proofs.Stub.Leaves

/-!
# How high ranks are

Ranks are computed with floating-point numbers, so that they stay between zero and one is a
statement about rounded sums and quotients. The rank of a text is a share of its bytes or characters.
The ranks of parts are added up and divided by the number of parts, and the sum cannot outgrow that
number: from 2^53 on, one more makes no difference. This takes sizes that fit a word, as those that
numbers are made from are taken for words.

A predicate adds up the ranks of three maps and that of the best alternative, so its rank is limited
by how deep its alternatives nest.

## Main definitions

* `Json.Fits`, `Predicate.Fits`: sizes fit a word
* `Predicate.levels`: how deep alternatives nest

## Main results

* `Rank.value_between`, `Rank.fields_between`: ranks lie between zero and one
* `Predicate.rank_between`: the rank of a predicate is at most three for each level
-/

namespace Understudy

open Decimal

/-! ## Sizes -/

namespace Json

/-- The number of parts, or that of the bytes of what a value reads as, fits a word. -/
def SizeFits : Json → Prop
  | .arr items => items.length < 2 ^ 64
  | .obj fields => fields.length < 2 ^ 64
  | json => ∀ text, json.plainText? = some text → text.utf8ByteSize < 2 ^ 64

/-- The sizes of a value and of all of its parts fit a word. -/
def Fits (json : Json) : Prop :=
  ∀ part, Part part json → part.SizeFits

variable {items : List Json} {fields : List (String × Json)}

theorem Fits.item (h : (Json.arr items).Fits) {item : Json} (hmem : item ∈ items) : item.Fits :=
  fun part hpart => h part (.item hmem hpart)

theorem Fits.field (h : (Json.obj fields).Fits) {entry : String × Json} (hmem : entry ∈ fields) :
    entry.2.Fits :=
  fun part hpart => h part (.field hmem hpart)

theorem Fits.length_items (h : (Json.arr items).Fits) : items.length < 2 ^ 64 :=
  h _ .self

theorem Fits.length_fields (h : (Json.obj fields).Fits) : fields.length < 2 ^ 64 :=
  h _ .self

theorem Fits.plainText {json : Json} {text : String} (h : json.Fits)
    (htext : json.plainText? = some text) : text.utf8ByteSize < 2 ^ 64 := by
  cases json with
  | arr | obj | bool => cases htext
  | null | num | str => exact h _ .self text htext

theorem fits_str {text : String} (h : text.utf8ByteSize < 2 ^ 64) : (Json.str text).Fits := by
  intro part hpart
  cases hpart with
  | self =>
    intro text' htext
    rwa [← Option.some.inj htext]

/-- The sizes in an object fit if its own does and those in its fields do. -/
theorem fits_obj (hlength : fields.length < 2 ^ 64) (h : ∀ entry ∈ fields, entry.2.Fits) :
    (Json.obj fields).Fits := by
  intro part hpart
  cases hpart with
  | self => exact hlength
  | field hmem hpart => exact h _ hmem part hpart

theorem fits_text (key : String) {text : String} (h : text.utf8ByteSize < 2 ^ 64) :
    (Json.obj [(key, .str text)]).Fits :=
  fits_obj (by norm_num) (List.forall_mem_singleton.mpr (fits_str h))

theorem fits_nil : (Json.obj []).Fits :=
  fits_obj (Nat.two_pow_pos 64) fun _ hmem => absurd hmem List.not_mem_nil

end Json

/-! ## Spans of matches -/

namespace Pattern

/-- A match ends in the text that is searched. -/
theorem searchFrom_le {program : Program} {place : ℕ} {before : Option Char} {arrived : List Way}
    {best : Option (ℕ × ℕ)} {rest : List Char}
    (hbest : ∀ span, best = some span → span.2 ≤ place + String.utf8Len rest)
    {span : ℕ × ℕ} (h : searchFrom program place before arrived best rest = some span) :
    span.2 ≤ place + String.utf8Len rest := by
  induction rest generalizing place before arrived best with
  | nil =>
    rw [searchFrom] at h
    split at h
    · obtain rfl := Option.some.inj h
      exact Nat.le_add_right _ _
    · exact hbest span h
  | cons c rest ih =>
    have hlength : place + c.utf8Size + String.utf8Len rest =
        place + String.utf8Len (c :: rest) := by
      rw [String.utf8Len_cons]
      omega
    -- whether a match ends here or not, what there is to beat ends in the text
    have hrest : ∀ {best : Option (ℕ × ℕ)} {taken : List Way},
        (∀ span, best = some span → span.2 ≤ place + String.utf8Len (c :: rest)) →
        (if taken.isEmpty && best.isSome then best
          else searchFrom program (place + c.utf8Size) (some c) taken best rest) = some span →
        span.2 ≤ place + String.utf8Len (c :: rest) := by
      intro best taken hbest h
      split at h
      · exact hbest span h
      · rw [← hlength] at hbest ⊢
        exact ih hbest h
    rw [searchFrom] at h
    refine hrest (fun span hspan => ?_) h
    split at hspan
    · obtain rfl := Option.some.inj hspan
      exact Nat.le_add_right _ _
    · exact hbest span hspan

theorem find?_le {pattern : Pattern} {text : String} {span : ℕ × ℕ}
    (h : pattern.find? text = some span) : span.2 ≤ text.utf8ByteSize := by
  have hle := searchFrom_le (by simp) h
  rwa [Nat.zero_add, String.utf8Len_toList] at hle

end Pattern

/-! ## Ranks of values -/

namespace Rank

variable {oracle : Oracle}

theorem between_zero : Between 0 1 0 :=
  hasValue_zero.between.mono le_rfl zero_le_one

theorem between_one : Between 0 1 1 :=
  hasValue_one.between.mono zero_le_one le_rfl

theorem between_hit (hit : Bool) : Between 0 1 (if hit then 1 else 0) := by
  cases hit
  · exact between_zero
  · exact between_one

theorem between_unconditional : Between 0 1 unconditional := by
  have htenth : unconditional = ofNat 1 / ofNat 10 := by decide +kernel
  rw [htenth]
  have hone := (@hasValue_ofNat_of_le 1 (by norm_num)).between
  have hten := (@hasValue_ofNat_of_le 10 (by norm_num)).between
  exact (hone.mono (Nat.cast_nonneg 1) le_rfl).div_of_le hten (by norm_num) (by norm_num)

theorem one_le_rounded {n : ℕ} (h : 0 < n) : 1 ≤ rounded n := by
  refine le_rounded ?_ (by exact_mod_cast h)
  exact_mod_cast @representable_natCast 1 (by norm_num)

/-- **A share** lies between zero and one. -/
theorem share_between {part whole : ℕ} (hle : part ≤ whole) (hpos : 0 < whole)
    (hlt : whole < 2 ^ 64) : Between 0 1 (share part whole) := by
  have hpart := (hasValue_ofNat_of_lt (hle.trans_lt hlt)).between
  have hwhole := (hasValue_ofNat_of_lt hlt).between
  have hnonneg : 0 ≤ rounded part := le_rounded representable_zero (Nat.cast_nonneg part)
  refine (hpart.mono hnonneg le_rfl).div_of_le hwhole ?_ (rounded_mono (by exact_mod_cast hle))
  exact zero_lt_one.trans_le (one_le_rounded hpos)

theorem length_le_utf8ByteSize (text : String) : text.length ≤ text.utf8ByteSize := by
  rw [← String.length_toList, ← String.utf8Len_toList]
  induction text.toList with
  | nil => exact le_rfl
  | cons c rest ih =>
    rw [List.length_cons, String.utf8Len_cons]
    exact Nat.add_le_add ih c.utf8Size_pos

theorem similarity_between {want got : String} (hwant : want.utf8ByteSize < 2 ^ 64)
    (hgot : got.utf8ByteSize < 2 ^ 64) : Between 0 1 (similarity want got) := by
  unfold similarity
  split_ifs with heq hempty
  · exact between_one
  · exact between_zero
  · have hpos : 0 < want.length := by
      rw [Nat.pos_iff_ne_zero, ne_eq, String.length_eq_zero_iff]
      rintro rfl
      exact hempty rfl
    refine share_between (Nat.sub_le _ _) (lt_max_of_lt_left hpos) (max_lt ?_ ?_)
    · exact (length_le_utf8ByteSize want).trans_lt hwant
    · exact (length_le_utf8ByteSize got).trans_lt hgot

theorem text_between {want got : String} (hwant : want.utf8ByteSize < 2 ^ 64)
    (hgot : got.utf8ByteSize < 2 ^ 64) : Between 0 1 ((text want got).evalBy oracle) := by
  unfold text
  split_ifs with heq hempty
  · exact between_one
  · exact similarity_between hwant hgot
  · rw [Consult.evalBy_bind, Consult.evalBy_compiled]
    split
    · next first last hspan =>
      obtain ⟨pattern, -, hfound⟩ := Option.bind_eq_some_iff.mp hspan
      have hle : last ≤ got.utf8ByteSize := Pattern.find?_le hfound
      refine share_between ((Nat.sub_le _ _).trans hle) ?_ hgot
      rw [Nat.pos_iff_ne_zero, ne_eq, ← String.isEmpty_iff_utf8ByteSize_eq_zero]
      exact hempty
    · exact similarity_between hwant hgot

/-- The most that some numbers of one at most add up to. -/
def most (n : ℕ) : ℚ :=
  min n (2 ^ 53)

theorem most_zero : most 0 = 0 := by
  simp [most]

theorem most_mono {n m : ℕ} (h : n ≤ m) : most n ≤ most m :=
  min_le_min_right _ (by exact_mod_cast h)

theorem most_le_rounded (n : ℕ) : most n ≤ rounded n := by
  rcases le_total n (2 ^ 53) with hle | hle
  · rw [rounded_eq_self (representable_natCast hle)]
    exact min_le_left _ _
  · refine (min_le_right _ _).trans (le_rounded ?_ (by exact_mod_cast hle))
    exact_mod_cast @representable_natCast (2 ^ 53) le_rfl

theorem most_add_one (n : ℕ) : rounded (most n + 1) ≤ most (n + 1) := by
  rcases Nat.lt_or_ge n (2 ^ 53) with hlt | hge
  · have hn : most n = n := min_eq_left (by exact_mod_cast hlt.le)
    have hsucc : most (n + 1) = (n + 1 : ℕ) := min_eq_left (by exact_mod_cast hlt)
    rw [hn, hsucc]
    exact rounded_le (representable_natCast hlt) (by push_cast; rfl)
  · -- one more makes no difference, as half the last digit goes to the even side
    have hn : most n = 2 ^ 53 := min_eq_right (by exact_mod_cast hge)
    have hsucc : most (n + 1) = 2 ^ 53 :=
      min_eq_right (by exact_mod_cast hge.trans (Nat.le_succ n))
    rw [hn, hsucc]
    exact rounded_le_two_pow (k := 0) (by norm_num) (by norm_num)

/-- A sum of ranks, and one more. -/
theorem add_between {sum score : Float} {n : ℕ} (hsum : Between 0 (most n) sum)
    (hscore : Between 0 1 score) : Between 0 (most (n + 1)) (sum + score) := by
  refine (hsum.add_of_nonneg hscore ?_).mono le_rfl (most_add_one n)
  have hle : most n + 1 ≤ 2 ^ 53 + 1 := add_le_add_left (min_le_right _ _) 1
  exact le_ample (hle.trans (by norm_num))

/-- **A mean** of ranks lies between zero and one. -/
theorem mean_between {sum : Float} {wanted given : ℕ} (hsum : Between 0 (most wanted) sum)
    (hwanted : wanted < 2 ^ 64) (hgiven : given < 2 ^ 64) :
    Between 0 1 (mean sum wanted given) := by
  unfold mean
  split_ifs with hzero
  · exact between_one
  · have hlength := (hasValue_ofNat_of_lt (max_lt hwanted hgiven)).between
    refine hsum.div_of_le hlength ?_ ?_
    · exact zero_lt_one.trans_le (one_le_rounded (Nat.pos_of_ne_zero hzero))
    · exact (most_mono (le_max_left _ _)).trans (most_le_rounded _)

/-- The item that is claimed is one of the items, and those that are left are. -/
theorem claim_spec {rank : Json → Consult Float} {items left : List Json} {score : Float}
    (h : (claim rank items).evalBy oracle = some (score, left)) :
    (∃ item ∈ items, (rank item).evalBy oracle = score) ∧ left ⊆ items := by
  induction items generalizing left with
  | nil => cases h
  | cons item rest ih =>
    rw [claim, Consult.evalBy_bind, Consult.evalBy_ite] at h
    split at h
    · obtain ⟨rfl, rfl⟩ := Prod.mk.inj (Option.some.inj h)
      exact ⟨⟨item, List.mem_cons_self, rfl⟩, List.subset_cons_self _ _⟩
    · rw [Consult.evalBy_bind, Consult.evalBy_pure] at h
      obtain ⟨⟨score', left'⟩, hclaim, hfound⟩ := Option.map_eq_some_iff.mp h
      obtain ⟨rfl, rfl⟩ := Prod.mk.inj hfound
      obtain ⟨⟨item', hmem, hrank⟩, hleft⟩ := ih hclaim
      exact ⟨⟨item', List.mem_cons_of_mem _ hmem, hrank⟩, List.cons_subset_cons _ hleft⟩

theorem itemsSum_between {wants gots : List Json} {sum : Float} {n : ℕ}
    (h : ∀ want ∈ wants, ∀ got ∈ gots, Between 0 1 ((value want got).evalBy oracle))
    (hsum : Between 0 (most n) sum) :
    Between 0 (most (n + wants.length)) ((itemsSum sum wants gots).evalBy oracle) := by
  induction wants generalizing sum n gots with
  | nil => exact hsum
  | cons want wants ih =>
    obtain ⟨hwant, hwants⟩ := List.forall_mem_cons.mp h
    rw [itemsSum, Consult.evalBy_bind, List.length_cons, Nat.add_comm wants.length 1,
      ← Nat.add_assoc]
    cases hclaim : (claim (fun got => value want got) gots).evalBy oracle with
    | none =>
      refine (ih hwants hsum).mono le_rfl (most_mono ?_)
      omega
    | some claimed =>
      obtain ⟨score, left⟩ := claimed
      obtain ⟨⟨item, hmem, rfl⟩, hleft⟩ := claim_spec hclaim
      exact ih (fun other hother got hgot => hwants other hother got (hleft hgot))
        (add_between hsum (hwant item hmem))

theorem fieldsSum_between {wants gots : Fields} {sum : Float} {n : ℕ}
    (h : ∀ want ∈ wants, ∀ got ∈ gots, Between 0 1 ((value want.2 got.2).evalBy oracle))
    (hsum : Between 0 (most n) sum) :
    Between 0 (most (n + wants.length)) ((fieldsSum sum wants gots).evalBy oracle) := by
  induction wants generalizing sum n with
  | nil => exact hsum
  | cons entry wants ih =>
    obtain ⟨key, want⟩ := entry
    obtain ⟨hwant, hwants⟩ := List.forall_mem_cons.mp h
    rw [fieldsSum, List.length_cons, Nat.add_comm wants.length 1, ← Nat.add_assoc]
    cases hfind : gots.find? key with
    | none =>
      refine (ih hwants hsum).mono le_rfl (most_mono ?_)
      omega
    | some got =>
      have hscore : Between 0 1 ((value want got).evalBy oracle) :=
        hwant (key, got) (Table.mem_of_find? hfind)
      rw [Consult.evalBy_bind]
      exact ih hwants (add_between hsum hscore)

/-- **The rank of a value** lies between zero and one. -/
theorem value_between {want got : Json} (hwant : want.Fits) (hgot : got.Fits) :
    Between 0 1 ((value want got).evalBy oracle) := by
  induction want using Json.induction generalizing got with
  | null =>
    rw [value, Consult.evalBy_pure]
    exact between_hit _
  | bool truth =>
    rw [value, Consult.evalBy_pure]
    exact between_zero
  | num number =>
    rw [value, Consult.evalBy_pure]
    exact between_hit _
  | str text =>
    rw [value]
    split
    · next got' htext => exact text_between (hwant.plainText rfl) (hgot.plainText htext)
    · exact between_zero
  | arr items ih =>
    cases got with
    | arr items' =>
      rw [value, Consult.evalBy_bind, Consult.evalBy_pure]
      have hsum := @itemsSum_between oracle items items' 0 0
        (fun want hmem got hmem' => ih want hmem (hwant.item hmem) (hgot.item hmem'))
        (by rw [most_zero]; exact hasValue_zero.between)
      rw [Nat.zero_add] at hsum
      exact mean_between hsum hwant.length_items hgot.length_items
    | null | bool | num | str | obj => exact between_zero
  | obj fields ih =>
    cases got with
    | obj fields' =>
      rw [value]
      split_ifs with hempty
      · exact between_unconditional
      · rw [Consult.evalBy_bind, Consult.evalBy_pure]
        have hsum := @fieldsSum_between oracle fields fields' 0 0
          (fun want hmem got hmem' => ih want hmem (hwant.field hmem) (hgot.field hmem'))
          (by rw [most_zero]; exact hasValue_zero.between)
        rw [Nat.zero_add] at hsum
        exact mean_between hsum hwant.length_fields hgot.length_fields
    | null | bool | num | str | arr => exact between_zero

/-- **The rank of fields** lies between zero and one. -/
theorem fields_between (oracle : Oracle) {want got : Fields} (hwant : (Json.obj want).Fits)
    (hgot : (Json.obj got).Fits) : Between 0 1 ((fields want got).evalBy oracle) := by
  have hvalue := @value_between oracle _ _ hwant hgot
  rwa [value] at hvalue

/-- The ranks of three maps add up to three at most. -/
theorem three_between {a b c : Float} (ha : Between 0 1 a) (hb : Between 0 1 b)
    (hc : Between 0 1 c) : Between 0 3 (a + b + c) := by
  have hcast : ((1 : ℕ) : ℚ) = 1 := Nat.cast_one
  rw [← hcast] at ha hb hc
  have hsum := (ha.add_natCast hb (by norm_num)).add_natCast hc (by norm_num)
  exact_mod_cast hsum

end Rank

/-! ## Ranks of predicates -/

namespace Predicate

mutual
/-- How deep alternatives nest, the predicate itself counted. -/
def levels : Predicate → ℕ
  | ⟨_, _, _, _, anyOf⟩ => levelsOf anyOf + 1
termination_by structural predicate => predicate

/-- How deep some predicates nest at most. -/
def levelsOf : List Predicate → ℕ
  | [] => 0
  | predicate :: rest => max predicate.levels (levelsOf rest)
termination_by structural predicates => predicates
end

theorem levels_eq (predicate : Predicate) : predicate.levels = levelsOf predicate.anyOf + 1 := by
  cases predicate
  rw [levels]

theorem levels_le_levelsOf {predicates : List Predicate} {predicate : Predicate}
    (h : predicate ∈ predicates) : predicate.levels ≤ levelsOf predicates := by
  induction predicates with
  | nil => cases h
  | cons first rest ih =>
    rw [levelsOf]
    rcases List.mem_cons.mp h with rfl | h
    · exact le_max_left _ _
    · exact (ih h).trans (le_max_right _ _)

/-- The highest rank that there can be with some levels: three for each, rounded as they are
added. -/
def highest : ℕ → ℚ
  | 0 => 0
  | levels + 1 => rounded (3 + highest levels)

theorem highest_eq {levels : ℕ} (h : 3 * levels ≤ 2 ^ 53) : highest levels = (3 * levels : ℕ) := by
  induction levels with
  | zero => simp [highest]
  | succ levels ih =>
    have hsum : (3 : ℚ) + (3 * levels : ℕ) = (3 * (levels + 1) : ℕ) := by
      push_cast
      ring
    rw [highest, ih (by omega), hsum, rounded_eq_self (representable_natCast h)]

theorem highest_le (levels : ℕ) : highest levels ≤ 2 ^ 60 := by
  induction levels with
  | zero => exact (by norm_num : (0 : ℚ) ≤ 2 ^ 60)
  | succ levels ih =>
    have hthree : (3 : ℚ) ≤ 2 ^ 7 := by norm_num
    exact rounded_le_two_pow (k := 7) (by norm_num) (by linarith)

theorem highest_nonneg (levels : ℕ) : 0 ≤ highest levels := by
  induction levels with
  | zero => exact le_rfl
  | succ levels ih => exact le_rounded representable_zero (by linarith)

theorem highest_mono : Monotone highest := by
  refine monotone_nat_of_le_succ fun levels => ?_
  have hrep : Representable (highest levels) := by
    cases levels with
    | zero => exact representable_zero
    | succ levels => exact representable_rounded _
  exact le_rounded hrep (by linarith)

/-- The sizes in the maps of the predicate and of its alternatives fit a word. -/
def Fits (predicate : Predicate) : Prop :=
  ∀ inner want, Within inner predicate → want ∈ inner.maps → (Json.obj want).Fits

variable {oracle : Oracle} {predicate : Predicate} {message : Fields}

theorem fits_of_maps (h : ∀ want ∈ predicate.maps, (Json.obj want).Fits)
    (halternatives : ∀ alternative ∈ predicate.anyOf, alternative.Fits) : predicate.Fits := by
  intro inner want hwithin hwant
  cases hwithin with
  | self => exact h want hwant
  | alternative hmem hwithin => exact halternatives _ hmem inner want hwithin hwant

theorem Fits.alternative (h : predicate.Fits) {alternative : Predicate}
    (hmem : alternative ∈ predicate.anyOf) : alternative.Fits :=
  fun inner want hwithin hwant => h inner want (.alternative hmem hwithin) hwant

/-- The sizes in a map fit a word, also if it is not there. -/
theorem Fits.map (h : predicate.Fits) (map : Option Fields)
    (hmap : map ∈ [predicate.equalTo, predicate.containing, predicate.matching]) :
    (Json.obj (map.getD [])).Fits := by
  cases map with
  | none => exact Json.fits_nil
  | some want =>
    refine h predicate want .self ?_
    simp only [maps, List.mem_append, Option.mem_toList]
    simpa [eq_comm, or_assoc] using hmap

/-- The best rank is one of those that there are. -/
theorem bestRank_between {predicates : List Predicate} {best : Float} {high : ℚ}
    (h : ∀ predicate ∈ predicates, Between 0 high ((predicate.rank message).evalBy oracle))
    (hbest : Between 0 high best) :
    Between 0 high ((bestRank best predicates message).evalBy oracle) := by
  induction predicates generalizing best with
  | nil => exact hbest
  | cons predicate rest ih =>
    obtain ⟨hfirst, hrest⟩ := List.forall_mem_cons.mp h
    rw [bestRank, Consult.evalBy_bind]
    refine ih hrest ?_
    split
    · exact hfirst
    · exact hbest

/-- **The rank of a predicate** is at most three for each level. -/
theorem rank_between (h : predicate.Fits) (hmessage : (Json.obj message).Fits) :
    Between 0 (highest predicate.levels) ((predicate.rank message).evalBy oracle) := by
  induction predicate using Predicate.induction with
  | step predicate ih =>
    have hmaps := Rank.three_between
      (Rank.fields_between oracle (h.map predicate.equalTo (by simp)) hmessage)
      (Rank.fields_between oracle (h.map predicate.containing (by simp)) hmessage)
      (Rank.fields_between oracle (h.map predicate.matching (by simp)) hmessage)
    have hbest : Between 0 (highest (levelsOf predicate.anyOf))
        ((bestRank 0 predicate.anyOf message).evalBy oracle) := by
      refine bestRank_between (fun alternative hmem => ?_)
        (hasValue_zero.between.mono le_rfl (highest_nonneg _))
      exact (ih alternative hmem (h.alternative hmem)).mono le_rfl
        (highest_mono (levels_le_levelsOf hmem))
    have hsum := hmaps.add_of_nonneg hbest (by
      have hle := highest_le (levelsOf predicate.anyOf)
      refine le_ample ((add_le_add_right hle 3).trans ?_)
      norm_num)
    rw [levels_eq, highest]
    cases predicate
    simpa only [rank, Consult.evalBy_bind, Consult.evalBy_pure] using hsum

end Predicate

namespace HeaderPredicate

/-- The sizes in the maps fit a word. -/
structure Fits (predicate : HeaderPredicate) : Prop where
  equalTo : (Json.obj predicate.equalTo).Fits
  containing : (Json.obj predicate.containing).Fits
  matching : (Json.obj predicate.matching).Fits

/-- The highest rank that headers can have. -/
def ceiling (predicate : HeaderPredicate) : ℕ :=
  if predicate.isEmpty then 0 else 3

/-- **The rank of headers** is at most three, and zero if no header is wanted. -/
theorem rank_between {oracle : Oracle} {predicate : HeaderPredicate} {headers : Fields}
    (h : predicate.Fits) (hheaders : (Json.obj headers).Fits) :
    Between 0 predicate.ceiling ((predicate.rank headers).evalBy oracle) := by
  unfold rank ceiling
  split_ifs with hempty
  · exact hasValue_zero.between.mono le_rfl (Nat.cast_nonneg 0)
  · have hmaps := Rank.three_between (Rank.fields_between oracle h.equalTo hheaders)
      (Rank.fields_between oracle h.containing hheaders)
      (Rank.fields_between oracle h.matching hheaders)
    rw [Nat.cast_ofNat]
    simpa only [Consult.evalBy_bind, Consult.evalBy_pure] using hmaps

end HeaderPredicate

end Understudy
