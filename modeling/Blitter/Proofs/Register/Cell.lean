import Blitter.Proofs.Register.Field
import Mathlib.Data.List.Forall2

/-!
# Fields as cells

A field is a cell of the word it is in: what is inserted is read back as far as the cell has room,
nothing else of the word changes, and the last value inserted is the one that counts
(`Field.IsCell`). Cells that have no bit in common do not know of each other, so that it does not
matter which of them is filled first (`Field.Independent`). A word that is put together from the
encodings of such fields is therefore read field by field (`Field.readsAs_packed`), and an insertion
into one of the fields changes what is read from that field only.

The laws hold of fields of any width. A field without bits holds nothing but zero, and one of 32
bits is the whole word.
-/

namespace Blitter

namespace Field

variable {f g : Field}

/-! ### One field -/

/-- Words are equal if they agree in their thirty-two bits. -/
theorem eq_of_testBit {a b : UInt32} (h : ∀ i < 32, a.toNat.testBit i = b.toNat.testBit i) :
    a = b := by
  apply UInt32.toNat_inj.mp
  apply Nat.eq_of_testBit_eq
  intro i
  by_cases hi : i < 32
  · exact h i hi
  · rw [testBit_of_le a (Nat.le_of_not_lt hi), testBit_of_le b (Nat.le_of_not_lt hi)]

/-- **What is inserted is read back**, as far as the field has room. -/
theorem toNat_decode_insert (h : f.Fits) (word value : UInt32) :
    (f.decode (f.insert word value)).toNat = value.toNat % 2 ^ f.width.toNat := by
  apply Nat.eq_of_testBit_eq
  intro i
  rw [testBit_decode, Nat.testBit_mod_two_pow]
  by_cases hi : i < f.width.toNat
  · have hcovers : f.Covers (f.shift.toNat + i) :=
      ⟨Nat.le_add_right _ _, Nat.add_lt_add_left hi _⟩
    have hlt : f.shift.toNat + i < 32 := hcovers.2.trans_le h
    rw [testBit_insert f word value hlt, if_pos hcovers, Nat.add_sub_cancel_left]
  · rw [decide_eq_false hi, Bool.false_and, Bool.false_and]

/-- Bits outside the field are **what they were**. -/
theorem testBit_insert_of_not_covers (word value : UInt32) {i : Nat} (h : ¬ f.Covers i) :
    (f.insert word value).toNat.testBit i = word.toNat.testBit i := by
  by_cases hi : i < 32
  · rw [testBit_insert f word value hi, if_neg h]
  · rw [testBit_of_le _ (Nat.le_of_not_lt hi), testBit_of_le _ (Nat.le_of_not_lt hi)]

/-- Inserting what is there already changes nothing. -/
theorem insert_decode (f : Field) (word : UInt32) : f.insert word (f.decode word) = word := by
  refine eq_of_testBit fun i hi => ?_
  rw [testBit_insert f word _ hi, testBit_decode]
  split
  case isTrue h =>
    have hlt : i - f.shift.toNat < f.width.toNat := Nat.sub_lt_left_of_lt_add h.1 h.2
    rw [decide_eq_true hlt, Bool.true_and, Nat.add_sub_cancel' h.1]
  case isFalse => rfl

/-- The **last value** inserted is the one that counts. -/
theorem insert_insert (f : Field) (word first last : UInt32) :
    f.insert (f.insert word first) last = f.insert word last := by
  refine eq_of_testBit fun i hi => ?_
  rw [testBit_insert f _ last hi, testBit_insert f word last hi, testBit_insert f word first hi]
  split <;> rfl

/-- A field is **a cell of its own** in any word. -/
structure IsCell (f : Field) : Prop where
  decode_insert : ∀ word value,
    (f.decode (f.insert word value)).toNat = value.toNat % 2 ^ f.width.toNat
  outside : ∀ word value i, ¬ f.Covers i →
    (f.insert word value).toNat.testBit i = word.toNat.testBit i
  insert_decode : ∀ word, f.insert word (f.decode word) = word
  insert_insert : ∀ word first last, f.insert (f.insert word first) last = f.insert word last

theorem Fits.isCell (h : f.Fits) : f.IsCell where
  decode_insert := toNat_decode_insert h
  outside word value _ := testBit_insert_of_not_covers word value
  insert_decode := f.insert_decode
  insert_insert := f.insert_insert

/-! ### Fields that are apart -/

/-- What is read from a field does not depend on **what is inserted beside it**. -/
theorem decode_insert_of_apart (h : f.Apart g) (word value : UInt32) :
    f.decode (g.insert word value) = f.decode word := by
  apply UInt32.toNat_inj.mp
  apply Nat.eq_of_testBit_eq
  intro i
  rw [testBit_decode, testBit_decode]
  by_cases hi : i < f.width.toNat
  · have hout : ¬ g.Covers (f.shift.toNat + i) :=
      h _ ⟨Nat.le_add_right _ _, Nat.add_lt_add_left hi _⟩
    rw [testBit_insert_of_not_covers word value hout]
  · rw [decide_eq_false hi, Bool.false_and, Bool.false_and]

/-- It does not matter **which field is filled first**. -/
theorem insert_comm (h : f.Apart g) (word v w : UInt32) :
    f.insert (g.insert word w) v = g.insert (f.insert word v) w := by
  refine eq_of_testBit fun i hi => ?_
  simp only [testBit_insert _ _ _ hi]
  by_cases hf : f.Covers i
  · rw [if_pos hf, if_pos hf, if_neg (h i hf)]
  · rw [if_neg hf, if_neg hf]

/-- Two fields **do not know of each other**. -/
structure Independent (f g : Field) : Prop where
  insert_comm : ∀ word v w, f.insert (g.insert word w) v = g.insert (f.insert word v) w
  decode_left : ∀ word w, f.decode (g.insert word w) = f.decode word
  decode_right : ∀ word v, g.decode (f.insert word v) = g.decode word

theorem Apart.independent (h : f.Apart g) : f.Independent g where
  insert_comm := Field.insert_comm h
  decode_left := decode_insert_of_apart h
  decode_right := decode_insert_of_apart h.symm

/-! ### Words put together from fields -/

/-- The word that has **each value in its field**. -/
def packed : (fields : List Field) → (values : List UInt32) → UInt32
  | f :: fields, value :: values => f.encode value ||| packed fields values
  | _, _ => 0

/-- The fields lie inside a word, and no two of them have a bit in common. -/
def AreApart (fields : List Field) : Prop := (∀ f ∈ fields, f.Fits) ∧ fields.Pairwise Apart

instance (fields : List Field) : Decidable (AreApart fields) := inferInstanceAs (Decidable (_ ∧ _))

/-- The word **is read field by field**: each field has its value, as far as it has room, and there
is nothing beside the fields. -/
structure ReadsAs (word : UInt32) (fields : List Field) (values : List UInt32) : Prop where
  decode : List.Forall₂ (fun (f : Field) (value : UInt32) =>
    (f.decode word).toNat = value.toNat % 2 ^ f.width.toNat) fields values
  rest : ∀ f : Field, (∀ g ∈ fields, f.Apart g) → f.decode word = 0

theorem decode_zero (f : Field) : f.decode 0 = 0 := by
  rw [decode, UInt32.zero_shiftRight, UInt32.zero_and]

/-- A field beside those of a word is empty. -/
theorem decode_packed_of_apart {fields : List Field} (h : ∀ g ∈ fields, f.Apart g)
    (values : List UInt32) : f.decode (packed fields values) = 0 := by
  induction fields generalizing values with
  | nil => exact decode_zero f
  | cons g fields ih =>
    obtain ⟨hg, hfields⟩ := List.forall_mem_cons.mp h
    cases values with
    | nil => exact decode_zero f
    | cons value values =>
      rw [packed, decode_or, decode_encode_eq_zero hg, ih hfields, UInt32.zero_or]

/-- Values that are put beside **what leaves their fields empty** are read from them. -/
theorem forall₂_decode_or_packed {fields : List Field} {values : List UInt32}
    (h : AreApart fields) (hlength : fields.length = values.length) {word : UInt32}
    (hempty : ∀ f ∈ fields, f.decode word = 0) :
    List.Forall₂ (fun (f : Field) (value : UInt32) =>
      (f.decode (word ||| packed fields values)).toNat = value.toNat % 2 ^ f.width.toNat)
      fields values := by
  induction fields generalizing values word with
  | nil =>
    rw [List.eq_nil_of_length_eq_zero hlength.symm]
    exact .nil
  | cons f fields ih =>
    obtain ⟨hfits, hapart⟩ := h
    obtain ⟨hf, hfields⟩ := List.forall_mem_cons.mp hfits
    obtain ⟨hbeside, hrest⟩ := List.pairwise_cons.mp hapart
    obtain ⟨hfempty, hempty⟩ := List.forall_mem_cons.mp hempty
    cases values with
    | nil => cases hlength
    | cons value values =>
      rw [packed]
      constructor
      · rw [decode_or, decode_or, hfempty, decode_packed_of_apart hbeside, UInt32.zero_or,
          UInt32.or_zero, toNat_decode_encode hf]
      · -- the value in front is put beside as well, and leaves the other fields empty
        rw [← UInt32.or_assoc]
        refine ih ⟨hfields, hrest⟩ (Nat.succ.inj hlength) fun g hg => ?_
        rw [decode_or, hempty g hg, decode_encode_eq_zero (hbeside g hg).symm, UInt32.zero_or]

/-- **Words that are put together from fields are read field by field.** -/
theorem readsAs_packed {fields : List Field} {values : List UInt32} (h : AreApart fields)
    (hlength : fields.length = values.length) : ReadsAs (packed fields values) fields values where
  decode := by
    have hdecode := forall₂_decode_or_packed h hlength fun f _ => decode_zero f
    simp only [UInt32.zero_or] at hdecode
    exact hdecode
  rest _ hf := decode_packed_of_apart hf values

/-- Of the word's fields, an insertion changes **what is read from its own** and nothing else. -/
theorem ReadsAs.insert {word : UInt32} {fields : List Field} {values : List UInt32}
    (h : ReadsAs word fields values) (hfields : AreApart fields) {i : Nat}
    (hi : i < fields.length) (value : UInt32) :
    ReadsAs (fields[i].insert word value) fields (values.set i value) where
  decode := by
    obtain ⟨hlength, hdecode⟩ := List.forall₂_iff_get.mp h.decode
    obtain ⟨hfits, hapart⟩ := hfields
    refine List.forall₂_iff_get.mpr ⟨hlength.trans List.length_set.symm, fun j hj hj' => ?_⟩
    rw [List.get_eq_getElem, List.get_eq_getElem]
    by_cases hij : i = j
    · subst hij
      rw [List.getElem_set_self, toNat_decode_insert (hfits _ (List.getElem_mem hi))]
    · have hpair : fields[j].Apart fields[i] := by
        rcases Nat.lt_or_gt_of_ne hij with hlt | hlt
        · exact (List.pairwise_iff_getElem.mp hapart i j hi hj hlt).symm
        · exact List.pairwise_iff_getElem.mp hapart j i hj hi hlt
      rw [List.getElem_set_ne hij, decode_insert_of_apart hpair]
      exact hdecode j hj (hlength ▸ hj)
  rest f hf := by
    rw [decode_insert_of_apart (hf _ (List.getElem_mem hi))]
    exact h.rest f hf

/-- An insertion under a condition changes **one value under the condition**. -/
theorem ReadsAs.insert_ite {word : UInt32} {fields : List Field} {values : List UInt32}
    (h : ReadsAs word fields values) (hfields : AreApart fields) {i : Nat}
    (hi : i < fields.length) (p : Prop) [Decidable p] (value : UInt32) :
    ReadsAs (if p then fields[i].insert word value else word) fields
      (values.modify i fun old => if p then value else old) := by
  by_cases hp : p
  · simp only [if_pos hp, ← List.set_eq_modify]
    exact h.insert hfields hi value
  · have hsame : values.modify i (fun old => old) = values := List.modify_id i values
    simp only [if_neg hp, hsame]
    exact h

/-! ### Flags -/

theorem ofNat_lt_wordBits (i : BitVec 5) : UInt32.ofNat i.toNat < 32 := by
  have hword : i.toNat < 2 ^ 32 := i.isLt.trans (by decide)
  rw [UInt32.lt_iff_toNat_lt, UInt32.toNat_ofNat_of_lt' hword]
  exact i.isLt

/-- The field of a **single bit** of the word; its number has five bits. -/
def flag (i : BitVec 5) : Field :=
  { shift := .ofNat i.toNat, width := 1, shift_lt := ofNat_lt_wordBits i }

theorem max_flag (i : BitVec 5) : (flag i).max = 1 := by
  show (if (32 : UInt32) ≤ 1 then 0xFFFFFFFF else ((1 : UInt32) <<< (1 : UInt32)) - 1) = 1
  decide

theorem encode_flag (i : BitVec 5) (b : Bool) :
    (flag i).encode b.toUInt32 = if b then 1 <<< UInt32.ofNat i.toNat else 0 := by
  rw [encode, max_flag]
  cases b with
  | false => exact UInt32.zero_shiftLeft
  | true => rfl

/-- Setting a bit is inserting a one into its field. -/
theorem insert_flag (i : BitVec 5) (word : UInt32) :
    (flag i).insert word 1 = word ||| 1 <<< UInt32.ofNat i.toNat := by
  have hencode : (flag i).encode 1 = 1 <<< UInt32.ofNat i.toNat := encode_flag i true
  have habsorb : ∀ x y : Bool, ((x && !y) || y) = (x || y) := by decide
  rw [insert, hencode, max_flag]
  apply UInt32.toBitVec_inj.mp
  apply BitVec.eq_of_getLsbD_eq
  intro j hj
  simp only [UInt32.toBitVec_or, UInt32.toBitVec_and, UInt32.toBitVec_not, BitVec.getLsbD_or,
    BitVec.getLsbD_and, BitVec.getLsbD_not, hj, decide_true, Bool.true_and]
  exact habsorb _ _

end Field

end Blitter
