import Blitter.Strip
import Mathlib.Algebra.Order.Ring.Nat

/-!
# The strips of a picture

`stripsOf` cuts the columns `0, …, width - 1` of a picture into strips: no strip is empty, none
reaches beyond the picture, and every column is held by exactly one of them
(`holds_getElem_stripsOf_iff` names it by number). A width of zero is cut like a width of one.
-/

namespace Blitter

/-- The strip **holds** column `x` of the picture. -/
def Strip.Holds (s : Strip) (x : Nat) : Prop :=
  s.x.toNat ≤ x ∧ x < s.x.toNat + s.width.toNat

instance (s : Strip) (x : Nat) : Decidable (s.Holds x) := inferInstanceAs (Decidable (_ ∧ _))

/-- The strip is a part of a picture of the given width, and not an empty one. -/
structure Strip.Within (s : Strip) (width : UInt32) : Prop where
  nonempty : 0 < s.width.toNat
  le_width : s.x.toNat + s.width.toNat ≤ width.toNat

namespace Strip.Within

variable {s : Strip} {width : UInt32}

/-- The far edge of a strip inside a picture does not wrap around. -/
theorem toNat_right (h : s.Within width) : s.right.toNat = s.x.toNat + s.width.toNat := by
  have := h.le_width
  have := width.toNat_lt
  rw [Strip.right, UInt32.toNat_add, Nat.mod_eq_of_lt (by omega)]

end Strip.Within

/-- The width of all strips but the last. -/
def stripStep (stripWidth : UInt32) : Nat := max stripWidth.toNat 1

theorem stripStep_pos (stripWidth : UInt32) : 0 < stripStep stripWidth := by
  unfold stripStep
  omega

variable {width stripWidth : UInt32}

theorem length_stripsOf :
    (stripsOf width stripWidth).length =
      (width.toNat + stripStep stripWidth - 1) / stripStep stripWidth := by
  rw [stripsOf, List.length_map, List.length_range]
  rfl

/-- There are as many strips as start inside the picture. -/
theorem lt_length_stripsOf_iff {i : Nat} :
    i < (stripsOf width stripWidth).length ↔ i * stripStep stripWidth < width.toNat := by
  have hpos := stripStep_pos stripWidth
  -- the number of strips is the width over the step, rounded up
  rw [length_stripsOf, Nat.lt_iff_add_one_le, Nat.le_div_iff_mul_le hpos, Nat.add_mul]
  omega

section Entry

variable {i : Nat} (hi : i < (stripsOf width stripWidth).length)

theorem getElem_stripsOf :
    (stripsOf width stripWidth)[i] =
      { index := i, x := UInt32.ofNat (i * stripStep stripWidth)
        width :=
          UInt32.ofNat (min (stripStep stripWidth) (width.toNat - i * stripStep stripWidth)) } := by
  simp only [stripsOf, List.getElem_map, List.getElem_range]
  rfl

theorem index_getElem_stripsOf : (stripsOf width stripWidth)[i].index = i := by
  rw [getElem_stripsOf]

theorem toNat_x_getElem_stripsOf :
    (stripsOf width stripWidth)[i].x.toNat = i * stripStep stripWidth := by
  have hlt := lt_length_stripsOf_iff.mp hi
  have := width.toNat_lt
  rw [getElem_stripsOf, UInt32.toNat_ofNat', Nat.mod_eq_of_lt (by omega)]

theorem toNat_width_getElem_stripsOf :
    (stripsOf width stripWidth)[i].width.toNat =
      min (stripStep stripWidth) (width.toNat - i * stripStep stripWidth) := by
  have := width.toNat_lt
  rw [getElem_stripsOf, UInt32.toNat_ofNat', Nat.mod_eq_of_lt (by omega)]

theorem within_getElem_stripsOf : (stripsOf width stripWidth)[i].Within width := by
  have hlt := lt_length_stripsOf_iff.mp hi
  have hpos := stripStep_pos stripWidth
  constructor
  · rw [toNat_width_getElem_stripsOf]
    omega
  · rw [toNat_x_getElem_stripsOf, toNat_width_getElem_stripsOf]
    omega

/-- The strip that holds a column is told by **division**. -/
theorem holds_getElem_stripsOf_iff {x : Nat} (hx : x < width.toNat) :
    (stripsOf width stripWidth)[i].Holds x ↔ i = x / stripStep stripWidth := by
  have hpos := stripStep_pos stripWidth
  have hlt := lt_length_stripsOf_iff.mp hi
  rw [Strip.Holds, toNat_x_getElem_stripsOf, toNat_width_getElem_stripsOf, eq_comm,
    Nat.div_eq_iff hpos]
  constructor <;> intro h <;> omega

/-- The last strip ends where the picture does. -/
theorem toNat_x_add_width_of_last (hlast : i + 1 = (stripsOf width stripWidth).length) :
    (stripsOf width stripWidth)[i].x.toNat + (stripsOf width stripWidth)[i].width.toNat =
      width.toNat := by
  have hlt := lt_length_stripsOf_iff.mp hi
  have hend : ¬ (i + 1) * stripStep stripWidth < width.toNat := by
    rw [← lt_length_stripsOf_iff]
    omega
  rw [Nat.add_mul] at hend
  rw [toNat_x_getElem_stripsOf, toNat_width_getElem_stripsOf]
  omega

end Entry

theorem within_of_mem_stripsOf {s : Strip} (h : s ∈ stripsOf width stripWidth) :
    s.Within width := by
  obtain ⟨i, hi, rfl⟩ := List.mem_iff_getElem.mp h
  exact within_getElem_stripsOf hi

theorem toNat_width_le_of_mem_stripsOf {s : Strip} (h : s ∈ stripsOf width stripWidth) :
    s.width.toNat ≤ stripStep stripWidth := by
  obtain ⟨i, hi, rfl⟩ := List.mem_iff_getElem.mp h
  rw [toNat_width_getElem_stripsOf]
  exact Nat.min_le_left _ _

/-- The number of the strip that holds a column of the picture. -/
theorem div_lt_length_stripsOf {x : Nat} (hx : x < width.toNat) :
    x / stripStep stripWidth < (stripsOf width stripWidth).length :=
  lt_length_stripsOf_iff.mpr ((Nat.div_mul_le_self _ _).trans_lt hx)

end Blitter
