import Understudy.Proofs.Table
import Understudy.Proofs.Wire.Identifier
import Understudy.Wire.Basic

/-!
# Records survive being written

A record is written as an object with those of its fields that do not have their defaults, and is
read field by field in the order of their names. What is read on the way is followed through the
records in between: each has some of its fields from the record that was written, and the others
still have their defaults. So the order of the names does not matter, and two facts about each field
are enough: what is written for its value is read as that value, and where nothing is written its
value is the default.

## Main definitions

* `Wire.Survives`: the two facts about a field

## Main results

* `Wire.foldlM_object`: a record is read from what is written for it
* `Wire.Survives.unlessDefault`: a value that is written unless it is the default survives
-/

namespace Understudy

namespace Wire

variable {α ρ : Type}

/-! ## Fields -/

/-- What is written for a value is read as that value, and where nothing is written the value is the
default. -/
structure Survives (read : Json → Reading α) (default value : α) (written : Option Json) :
    Prop where
  present : ∀ json, written = some json → read json = .ok value
  absent : written = none → value = default

namespace Survives

variable {read : Json → Reading α} {default value : α}

/-- A value that is always written. -/
theorem always {json : Json} (h : read json = .ok value) :
    Survives read default value (some json) where
  present _ he := Option.some.inj he ▸ h
  absent he := nomatch he

/-- A value that is written unless it is the default. -/
theorem unlessDefault {p : Prop} [Decidable p] {json : Json} (hdefault : p → value = default)
    (h : read json = .ok value) : Survives read default value (if p then none else some json) := by
  split
  · next hp => exact ⟨fun _ he => (nomatch he), fun _ => hdefault hp⟩
  · exact always h

/-- A value is read as some value, unless it is null, which would stand for none. -/
theorem optional_of_ok {a : α} {json : Json} (h : read json = .ok a) (hnull : json ≠ .null) :
    Wire.optional read json = .ok (some a) := by
  rw [Wire.optional, h]
  · rfl
  · exact hnull

/-- A value that may be none, and is written if it is not. -/
theorem optional {value : Option α} {write : α → Json}
    (h : ∀ a, value = some a → read (write a) = .ok a ∧ write a ≠ .null) :
    Survives (Wire.optional read) none value (value.map write) := by
  cases value with
  | none => exact ⟨fun _ he => (nomatch he), fun _ => rfl⟩
  | some a =>
    obtain ⟨hread, hnull⟩ := h a rfl
    exact always (optional_of_ok hread hnull)

/-- What a record has for a field once all that is written has been read. -/
theorem eq_of_read {written : Option Json} (h : Survives read default value written) {key : String}
    {seen : List String} (hseen : ∀ field ∈ field? key written, field.1 ∈ seen) :
    (if key ∈ seen then value else default) = value := by
  cases hwritten : written with
  | none => rw [h.absent hwritten, ite_self]
  | some json => exact if_pos (hseen (key, json) (by simp [hwritten, field?]))

/-- A field is set as in the record if what is read as its value sets it so. -/
theorem set_field {written : Option Json} (h : Survives read default value written) {key : String}
    {set : String → Json → ρ → Reading ρ} {upTo : List String → ρ}
    (hset : ∀ json, read json = .ok value →
      ∀ seen, set key json (upTo seen) = .ok (upTo (key :: seen))) :
    ∀ field ∈ field? key written, ∀ seen,
      set field.1 field.2 (upTo seen) = .ok (upTo (field.1 :: seen)) := by
  rintro ⟨key', json⟩ hmem
  cases hwritten : written with
  | none => simp [hwritten, field?] at hmem
  | some json' =>
    obtain ⟨rfl, rfl⟩ : key' = key ∧ json = json' := by simpa [hwritten, field?] using hmem
    exact hset json (h.present json hwritten)

end Survives

/-! ## Values of fields -/

@[simp] theorem text_str (text : String) : Wire.text (.str text) = .ok text := rfl

theorem intBetween?_int {low high value : Int} (hlow : low ≤ value) (hhigh : value ≤ high) :
    (Json.int value).intBetween? low high = some value :=
  if_pos ⟨hlow, hhigh⟩

theorem word_nat (value : UInt32) : Wire.word (.nat value.toNat) = .ok value := by
  have hbetween : (Json.nat value.toNat).intBetween? 0 (UInt32.size - 1) = some ↑value.toNat :=
    intBetween?_int (Int.natCast_nonneg _) (Int.le_sub_one_of_lt (Int.ofNat_lt.mpr value.toNat_lt))
  rw [Wire.word, hbetween]
  simp [Wire.required]

theorem int_int (value : Int64) : Wire.int (.int value.toInt) = .ok value := by
  have hbetween : (Json.int value.toInt).intBetween? Int64.minValue.toInt Int64.maxValue.toInt =
      some value.toInt :=
    intBetween?_int value.minValue_le_toInt value.toInt_le
  rw [Wire.int, hbetween]
  simp [Wire.required]

theorem texts_obj (texts : Table String String) :
    Wire.texts (.obj (texts.map fun entry => (entry.1, .str entry.2))) = .ok texts := by
  have hread : (texts.map fun entry => (entry.1, Json.str entry.2)).mapM
      (fun field => do return (field.1, ← Wire.text field.2)) =
        (.ok texts : Reading (Table String String)) := by
    induction texts with
    | nil => rfl
    | cons entry rest ih =>
      rw [List.map_cons, List.mapM_cons, ih]
      rfl
  exact hread

theorem identifier_text (id : Identifier) : Wire.identifier (.str id.text) = .ok id := by
  simp only [Wire.identifier, text_str, bind, Except.bind, Identifier.ofText?_text, Wire.required]

theorem status_number (status : Status) : Wire.status (.nat status.number) = .ok status := by
  cases status <;> rfl

theorem delay_text {delay : Delay} (h : Delay.ofText? delay.text = .ok delay) :
    Wire.delay (.str delay.text) = .ok delay := by
  rw [Wire.delay, h]
  rfl

/-- A delay that is given by its nanoseconds is read as it is. -/
theorem delay_nat (delay : Delay) : Wire.delay (.nat delay.nanoseconds.toNat) = .ok delay := by
  have hbetween : (Json.nat delay.nanoseconds.toNat).intBetween? 0 (UInt64.size - 1) =
      some ↑delay.nanoseconds.toNat :=
    intBetween?_int (Int.natCast_nonneg _)
      (Int.le_sub_one_of_lt (Int.ofNat_lt.mpr delay.nanoseconds.toNat_lt))
  show (required ((Json.nat delay.nanoseconds.toNat).intBetween? 0 (UInt64.size - 1)) >>=
    fun value => pure (⟨UInt64.ofNat value.toNat⟩ : Delay)) = _
  rw [hbetween]
  simp [required]

/-! ## Fields as they are written -/

theorem survives_text (text : String) : Survives Wire.text "" text (nonemptyText text) :=
  .unlessDefault String.isEmpty_iff.mp rfl

theorem survives_fields (fields : Fields) : Survives Wire.fields [] fields (nonempty fields) :=
  .unlessDefault List.isEmpty_iff.mp rfl

theorem survives_texts (texts : Table String String) :
    Survives Wire.texts [] texts (nonemptyTexts texts) :=
  .unlessDefault (fun h => List.map_eq_nil_iff.mp (List.isEmpty_iff.mp h)) (texts_obj texts)

theorem survives_items (items : List Json) :
    Survives (fun json => Wire.required json.items?) [] items (nonemptyList items) :=
  .unlessDefault List.isEmpty_iff.mp rfl

/-! ## Records -/

section Records

variable {set : String → Json → ρ → Reading ρ} {upTo : List String → ρ}

/-- Fields that are read one after the other add up. -/
theorem foldlM_set {fields : List (String × Json)}
    (hset : ∀ field ∈ fields, ∀ seen,
      set field.1 field.2 (upTo seen) = .ok (upTo (field.1 :: seen))) (seen : List String) :
    fields.foldlM (fun record field => set field.1 field.2 record) (upTo seen) =
      .ok (upTo ((fields.map Prod.fst).reverse ++ seen)) := by
  induction fields generalizing seen with
  | nil => rfl
  | cons field rest ih =>
    -- what has been read stands in front of what had been before
    have hlater := ih (fun other hmem => hset other (List.mem_cons_of_mem _ hmem)) (field.1 :: seen)
    rw [List.foldlM_cons, hset field List.mem_cons_self seen, List.map_cons, List.reverse_cons,
      List.append_assoc]
    exact hlater

/-- **Records survive**: where every field that is written is set as in the record, and the fields
that are written are enough for the record, the record is read from the object of these fields. -/
theorem foldlM_object {written : List (String × Json)} {record : ρ}
    (hset : ∀ field ∈ written, ∀ seen,
      set field.1 field.2 (upTo seen) = .ok (upTo (field.1 :: seen)))
    (hall : ∀ seen, (∀ field ∈ written, field.1 ∈ seen) → upTo seen = record) :
    (Table.ofList written).foldlM (fun record field => set field.1 field.2 record) (upTo []) =
      .ok record := by
  have hread := foldlM_set (fun field hmem => hset field (Table.mem_of_mem_ofList hmem)) []
  rw [hread, List.append_nil]
  refine congrArg _ (hall _ fun field hmem => ?_)
  exact List.mem_reverse.mpr (Table.key_mem_ofList hmem)

end Records

end Wire

end Understudy
