import Blitter.Register.Field
import Mathlib.Data.Nat.Bitwise

/-!
# Fields side by side

A word is put together from fields by "or". What is taken out of one of them is what was put into
it, and does not depend on what stands beside it: words are compared bit by bit. Sizes and
positions take half a word for each direction, and an address is put together from two words.
-/

namespace Blitter

namespace Field

variable {f g : Field}

theorem decode_or (f : Field) (a b : UInt32) :
    f.decode (a ||| b) = f.decode a ||| f.decode b := by
  apply UInt32.toBitVec_inj.mp
  apply BitVec.eq_of_getLsbD_eq
  intro i _
  simp [decode, Bool.and_or_distrib_right]

theorem toNat_shift_lt (f : Field) : f.shift.toNat < 32 := UInt32.lt_iff_toNat_lt.mp f.shift_lt

/-! ### The bits of a field -/

/-- The field ends inside the word. -/
def Fits (f : Field) : Prop := f.shift.toNat + f.width.toNat ≤ 32

instance (f : Field) : Decidable f.Fits := inferInstanceAs (Decidable (_ ≤ _))

/-- Bit `i` of a word **belongs to the field**. -/
def Covers (f : Field) (i : Nat) : Prop :=
  f.shift.toNat ≤ i ∧ i < f.shift.toNat + f.width.toNat

instance (f : Field) (i : Nat) : Decidable (f.Covers i) := inferInstanceAs (Decidable (_ ∧ _))

/-- No bit belongs to **both fields**. -/
def Apart (f g : Field) : Prop := ∀ i, f.Covers i → ¬ g.Covers i

theorem Apart.symm (h : f.Apart g) : g.Apart f := fun i hg hf => h i hf hg

/-- Fields are apart if one of them has no bits, or one ends where the other starts or before. -/
theorem apart_iff : f.Apart g ↔ f.width.toNat = 0 ∨ g.width.toNat = 0 ∨
    f.shift.toNat + f.width.toNat ≤ g.shift.toNat ∨
      g.shift.toNat + g.width.toNat ≤ f.shift.toNat := by
  unfold Apart Covers
  constructor
  · intro h
    -- if both have bits, the later of the two first bits is not one of both
    have hfirst := h (Max.max f.shift.toNat g.shift.toNat)
    omega
  · intro h i hf hg
    omega

instance (f g : Field) : Decidable (f.Apart g) := decidable_of_iff _ apart_iff.symm

/-! ### Bit by bit -/

/-- A word has no bits beyond its thirty-second. -/
theorem testBit_of_le (word : UInt32) {i : Nat} (hi : 32 ≤ i) : word.toNat.testBit i = false :=
  Nat.testBit_lt_two_pow (Nat.lt_of_lt_of_le word.toNat_lt (Nat.pow_le_pow_right Nat.two_pos hi))

/-- The largest value of a field has all the field's bits set. -/
theorem testBit_max (f : Field) (i : Nat) :
    f.max.toNat.testBit i = (decide (i < f.width.toNat) && decide (i < 32)) := by
  unfold max
  split
  case isTrue h =>
    have hwidth : 32 ≤ f.width.toNat := UInt32.le_iff_toNat_le.mp h
    have hones : (0xFFFFFFFF : UInt32).toNat = 2 ^ 32 - 1 := rfl
    rw [hones, Nat.testBit_two_pow_sub_one]
    by_cases hi : i < 32
    · rw [decide_eq_true hi, decide_eq_true (Nat.lt_of_lt_of_le hi hwidth), Bool.and_true]
    · rw [decide_eq_false hi, Bool.and_false]
  case isFalse h =>
    have hwidth : f.width.toNat < 32 :=
      Nat.lt_of_not_le fun hle => h (UInt32.le_iff_toNat_le.mpr hle)
    have hpow : 2 ^ f.width.toNat < 2 ^ 32 := Nat.pow_lt_pow_right Nat.one_lt_two hwidth
    have hone : (1 <<< f.width : UInt32).toNat = 2 ^ f.width.toNat := by
      rw [UInt32.toNat_shiftLeft, Nat.mod_eq_of_lt hwidth, UInt32.toNat_one, Nat.one_shiftLeft,
        Nat.mod_eq_of_lt hpow]
    have hle : (1 : UInt32) ≤ 1 <<< f.width := by
      rw [UInt32.le_iff_toNat_le, hone]
      exact Nat.two_pow_pos _
    rw [UInt32.toNat_sub_of_le _ _ hle, hone, UInt32.toNat_one, Nat.testBit_two_pow_sub_one]
    by_cases hi : i < f.width.toNat
    · rw [decide_eq_true hi, decide_eq_true (hi.trans hwidth), Bool.and_true]
    · rw [decide_eq_false hi, Bool.false_and]

/-- A word that has a value in a field has the value's bits **in the field's place**. -/
theorem testBit_encode (f : Field) (value : UInt32) (i : Nat) :
    (f.encode value).toNat.testBit i =
      (decide (f.Covers i ∧ i < 32) && value.toNat.testBit (i - f.shift.toNat)) := by
  rw [encode, UInt32.toNat_shiftLeft, Nat.mod_eq_of_lt f.toNat_shift_lt, Nat.testBit_mod_two_pow,
    Nat.testBit_shiftLeft, UInt32.toNat_and, Nat.testBit_and, testBit_max]
  grind [Covers]

/-- The value in a field has the bits **of the field's place**. -/
theorem testBit_decode (f : Field) (word : UInt32) (i : Nat) :
    (f.decode word).toNat.testBit i =
      (decide (i < f.width.toNat) && word.toNat.testBit (f.shift.toNat + i)) := by
  rw [decode, UInt32.toNat_and, Nat.testBit_and, UInt32.toNat_shiftRight,
    Nat.mod_eq_of_lt f.toNat_shift_lt, Nat.testBit_shiftRight, testBit_max]
  by_cases hi : i < 32
  · rw [decide_eq_true hi, Bool.and_true, Bool.and_comm]
  · rw [testBit_of_le word (by omega), Bool.false_and, Bool.and_false]

/-- Inserting a value changes **the bits of the field and no others**. -/
theorem testBit_insert (f : Field) (word value : UInt32) {i : Nat} (hi : i < 32) :
    (f.insert word value).toNat.testBit i =
      if f.Covers i then value.toNat.testBit (i - f.shift.toNat) else word.toNat.testBit i := by
  have hnot (x : UInt32) : (~~~x).toNat.testBit i = !x.toNat.testBit i := by
    rw [← UInt32.toNat_toBitVec, UInt32.toBitVec_not, BitVec.testBit_toNat, BitVec.getLsbD_not,
      ← BitVec.testBit_toNat, decide_eq_true hi, Bool.true_and]
    rfl
  have hmask : (f.max <<< f.shift).toNat.testBit i = decide (f.Covers i) := by
    rw [UInt32.toNat_shiftLeft, Nat.mod_eq_of_lt f.toNat_shift_lt, Nat.testBit_mod_two_pow,
      Nat.testBit_shiftLeft, testBit_max]
    grind [Covers]
  rw [insert, UInt32.toNat_or, Nat.testBit_or, UInt32.toNat_and, Nat.testBit_and, hnot, hmask,
    testBit_encode]
  split
  case isTrue h => simp [h, hi]
  case isFalse h => simp [h]

/-! ### What is taken out -/

theorem decode_lt (f : Field) (word : UInt32) : (f.decode word).toNat < 2 ^ f.width.toNat := by
  refine Nat.lt_pow_two_of_testBit _ fun i hi => ?_
  rw [testBit_decode, decide_eq_false (Nat.not_lt.mpr hi), Bool.false_and]

/-- What is put into a field is taken out of it, **as far as the field has room**. -/
theorem toNat_decode_encode (h : f.Fits) (value : UInt32) :
    (f.decode (f.encode value)).toNat = value.toNat % 2 ^ f.width.toNat := by
  apply Nat.eq_of_testBit_eq
  intro i
  rw [testBit_decode, testBit_encode, Nat.testBit_mod_two_pow, Nat.add_sub_cancel_left]
  by_cases hi : i < f.width.toNat
  · have hin : f.Covers (f.shift.toNat + i) ∧ f.shift.toNat + i < 32 := by
      unfold Fits at h
      unfold Covers
      omega
    rw [decide_eq_true hi, decide_eq_true hin, Bool.true_and]
  · rw [decide_eq_false hi, Bool.false_and, Bool.false_and]

/-- **What is put into a field is taken out of it**, if the field has room for it. -/
theorem decode_encode (h : f.Fits) {value : UInt32} (hv : value.toNat < 2 ^ f.width.toNat) :
    f.decode (f.encode value) = value := by
  apply UInt32.toNat_inj.mp
  rw [toNat_decode_encode h, Nat.mod_eq_of_lt hv]

/-- A field is empty in a word that holds **a field beside it** and nothing else. -/
theorem decode_encode_eq_zero (h : f.Apart g) (value : UInt32) : f.decode (g.encode value) = 0 := by
  apply UInt32.toNat_inj.mp
  apply Nat.eq_of_testBit_eq
  intro i
  rw [testBit_decode, testBit_encode, UInt32.toNat_zero, Nat.zero_testBit]
  by_cases hi : i < f.width.toNat
  · have hout : ¬ (g.Covers (f.shift.toNat + i) ∧ f.shift.toNat + i < 32) := fun hg =>
      h _ ⟨Nat.le_add_right _ _, Nat.add_lt_add_left hi _⟩ hg.1
    rw [decide_eq_false hout, Bool.false_and, Bool.and_false]
  · rw [decide_eq_false hi, Bool.false_and]

end Field

/-! ### Flags -/

/-- A bit that is set is there. -/
theorem or_and_self_right (word bits : UInt32) : (word ||| bits) &&& bits = bits := by
  have habsorb : ∀ x y : Bool, ((x || y) && y) = y := by decide
  apply UInt32.toBitVec_inj.mp
  apply BitVec.eq_of_getLsbD_eq
  intro i _
  rw [UInt32.toBitVec_and, UInt32.toBitVec_or, BitVec.getLsbD_and, BitVec.getLsbD_or, habsorb]

/-! ### Sizes, positions and addresses -/

/-- The column and the row in a position word. -/
def unpackPosition (word : UInt32) : UInt32 × UInt32 := (word &&& 0xFFFF, word >>> 16)

/-- The width and the height in a size word. -/
def unpackSize (word : UInt32) : UInt32 × UInt32 := ((word &&& 0xFFFF) + 1, (word >>> 16) + 1)

theorem toNat_and_lowerHalf (word : UInt32) : (word &&& 0xFFFF).toNat = word.toNat % 65536 := by
  rw [UInt32.toNat_and]
  exact Nat.and_two_pow_sub_one_eq_mod word.toNat 16

theorem toNat_shiftRight_half (word : UInt32) : (word >>> 16).toNat = word.toNat / 65536 := by
  rw [UInt32.toNat_shiftRight]
  exact Nat.shiftRight_eq_div_pow _ _

theorem toNat_packPosition {x y : UInt32} (hx : x.toNat < 65536) (hy : y.toNat < 65536) :
    (packPosition x y).toNat = y.toNat * 65536 + x.toNat := by
  have hlower : (x &&& 0xFFFF).toNat = x.toNat := by
    rw [toNat_and_lowerHalf]
    exact Nat.mod_eq_of_lt hx
  have hupper : ((y &&& 0xFFFF) <<< 16).toNat = y.toNat <<< 16 := by
    have hbound : y.toNat <<< 16 < 2 ^ 32 := by
      rw [Nat.shiftLeft_eq]
      omega
    rw [UInt32.toNat_shiftLeft, toNat_and_lowerHalf, Nat.mod_eq_of_lt hy]
    exact Nat.mod_eq_of_lt hbound
  rw [packPosition, UInt32.toNat_or, hupper, hlower, ← Nat.shiftLeft_add_eq_or_of_lt hx,
    Nat.shiftLeft_eq]

theorem unpackPosition_packPosition {x y : UInt32} (hx : x.toNat < 65536) (hy : y.toNat < 65536) :
    unpackPosition (packPosition x y) = (x, y) := by
  have hpack := toNat_packPosition hx hy
  refine Prod.ext (UInt32.toNat_inj.mp ?_) (UInt32.toNat_inj.mp ?_)
  · show (packPosition x y &&& 0xFFFF).toNat = x.toNat
    rw [toNat_and_lowerHalf, hpack]
    omega
  · show (packPosition x y >>> 16).toNat = y.toNat
    rw [toNat_shiftRight_half, hpack]
    omega

theorem toNat_lessOne (n : UInt32) : (lessOne n).toNat = n.toNat - 1 := by
  unfold lessOne
  split
  case isTrue h =>
    rw [h]
    rfl
  case isFalse h =>
    have hpos : 0 < n.toNat := Nat.pos_of_ne_zero fun h0 => h (UInt32.toNat_inj.mp h0)
    exact UInt32.toNat_sub_of_le _ _ (UInt32.le_iff_toNat_le.mpr hpos)

theorem lessOne_add_one {n : UInt32} (h : 0 < n.toNat) : lessOne n + 1 = n := by
  apply UInt32.toNat_inj.mp
  rw [UInt32.toNat_add, toNat_lessOne, UInt32.toNat_one, Nat.sub_add_cancel h]
  exact Nat.mod_eq_of_lt n.toNat_lt

/-- A size word carries **every size from 1 up to 65536**. -/
theorem unpackSize_packSize {w h : UInt32} (hw : 0 < w.toNat ∧ w.toNat ≤ 65536)
    (hh : 0 < h.toNat ∧ h.toNat ≤ 65536) : unpackSize (packSize w h) = (w, h) := by
  have hwl : (lessOne w).toNat < 65536 := by
    rw [toNat_lessOne]
    omega
  have hhl : (lessOne h).toNat < 65536 := by
    rw [toNat_lessOne]
    omega
  have hposition := unpackPosition_packPosition hwl hhl
  simp only [unpackPosition, Prod.mk.injEq] at hposition
  obtain ⟨hlower, hupper⟩ := hposition
  have hpack : packSize w h = packPosition (lessOne w) (lessOne h) := rfl
  rw [unpackSize, hpack, hlower, hupper, lessOne_add_one hw.1, lessOne_add_one hh.1]

/-- An address is made of its two words. -/
theorem joinWords_highWord_lowWord (address : UInt64) :
    joinWords (highWord address) (lowWord address) = address := by
  have hlt := address.toNat_lt
  have hhigh : (highWord address).toNat = address.toNat / 2 ^ 32 := by
    rw [highWord, UInt64.toNat_toUInt32, UInt64.toNat_shiftRight, Nat.shiftRight_eq_div_pow]
    exact Nat.mod_eq_of_lt (Nat.div_lt_of_lt_mul hlt)
  have hlow : (lowWord address).toNat = address.toNat % 2 ^ 32 := UInt64.toNat_toUInt32 address
  have hshift : (highWord address).toNat <<< 32 < 2 ^ 64 := by
    rw [hhigh, Nat.shiftLeft_eq]
    omega
  apply UInt64.toNat_inj.mp
  have hmod : ((highWord address).toUInt64 <<< 32).toNat = (highWord address).toNat <<< 32 := by
    rw [UInt64.toNat_shiftLeft, UInt32.toNat_toUInt64]
    exact Nat.mod_eq_of_lt hshift
  rw [joinWords, UInt64.toNat_or, hmod, UInt32.toNat_toUInt64,
    ← Nat.shiftLeft_add_eq_or_of_lt (UInt32.toNat_lt _), hhigh, hlow, Nat.shiftLeft_eq]
  omega

end Blitter
