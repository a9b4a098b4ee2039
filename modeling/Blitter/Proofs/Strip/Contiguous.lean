import Blitter.Proofs.InWords.Strip
import Mathlib.Algebra.Order.Floor.Div

/-!
# Strips one after the other

`Strip.IsPartition` says of a list of strips that they cut a width into steps: each starts where the
one before it ends, from the first column to the last, and all but the last are one step wide. So do
those of any width, cut at any step (`stripsOf_isPartition`), and an engine's driver can lay them out
in words: a strip starts inside the picture and ends no further than its end, so that no number on
the way is larger than the width.
-/

namespace Blitter

/-- The strips are **all of the width, from left to right**, in steps of which the last may be cut
short. -/
structure Strip.IsPartition (width : UInt32) (step : Nat) (strips : List Strip) : Prop where
  length : strips.length = width.toNat ⌈/⌉ step
  index : ∀ i (hi : i < strips.length), strips[i].index = i
  first : ∀ s ∈ strips.head?, s.x = 0
  next : ∀ i (hi : i + 1 < strips.length), strips[i + 1].x = strips[i].right
  last : ∀ s ∈ strips.getLast?, s.right = width
  nonempty : ∀ s ∈ strips, 0 < s.width
  full : ∀ i (hi : i + 1 < strips.length), strips[i].width.toNat = step

section Steps

variable {width stripWidth : UInt32} {i : Nat}

/-- The far edge of a strip is **the next step**, or the end of the picture. -/
theorem toNat_right_getElem_stripsOf (hi : i < (stripsOf width stripWidth).length) :
    (stripsOf width stripWidth)[i].right.toNat =
      min ((i + 1) * stripStep stripWidth) width.toNat := by
  have hstart := lt_length_stripsOf_iff.mp hi
  rw [(within_getElem_stripsOf hi).toNat_right, toNat_x_getElem_stripsOf,
    toNat_width_getElem_stripsOf, Nat.add_mul, Nat.one_mul]
  omega

variable (hi : i + 1 < (stripsOf width stripWidth).length)
include hi

/-- A strip that is not the last one ends inside the picture, where **the next one starts**. -/
theorem x_getElem_stripsOf_succ :
    (stripsOf width stripWidth)[i + 1].x = (stripsOf width stripWidth)[i].right := by
  have hstart := lt_length_stripsOf_iff.mp hi
  rw [← UInt32.toNat_inj, toNat_x_getElem_stripsOf, toNat_right_getElem_stripsOf,
    Nat.min_eq_left hstart.le]

theorem toNat_width_getElem_stripsOf_of_next :
    (stripsOf width stripWidth)[i].width.toNat = stripStep stripWidth := by
  have hstart := lt_length_stripsOf_iff.mp hi
  rw [Nat.add_mul, Nat.one_mul] at hstart
  rw [toNat_width_getElem_stripsOf, Nat.min_eq_left (by omega)]

end Steps

/-- **Strips of any width are cut at every step**, a step of zero being taken as one. They are laid
out in words, and so are their far edges. -/
theorem stripsOf_isPartition (width stripWidth : UInt32) :
    Strip.IsPartition width (max stripWidth.toNat 1) (stripsOf width stripWidth) ∧
      InWords.stripsOf width stripWidth = .ok (stripsOf width stripWidth) ∧
      ∀ s ∈ stripsOf width stripWidth, InWords.add s.x s.width = .ok s.right := by
  refine ⟨?_, InWords.stripsOf_eq width stripWidth, ?_⟩
  · exact
      { length := by
          rw [length_stripsOf, Nat.ceilDiv_eq_add_pred_div]
          rfl
        index := fun i hi => index_getElem_stripsOf hi
        first := by
          intro s hs
          obtain ⟨hpos, rfl⟩ := List.getElem?_eq_some_iff.mp (List.head?_eq_getElem? ▸ hs)
          rw [← UInt32.toNat_inj, toNat_x_getElem_stripsOf, Nat.zero_mul, UInt32.toNat_zero]
        next := fun i hi => x_getElem_stripsOf_succ hi
        last := by
          intro s hs
          obtain ⟨hlt, rfl⟩ := List.getElem?_eq_some_iff.mp (List.getLast?_eq_getElem? ▸ hs)
          have hend := toNat_x_add_width_of_last hlt (by omega)
          rw [← UInt32.toNat_inj, (within_getElem_stripsOf hlt).toNat_right, hend]
        nonempty := fun s hs => (within_of_mem_stripsOf hs).nonempty
        full := fun i hi => toNat_width_getElem_stripsOf_of_next hi }
  · intro s hs
    have hle := (within_of_mem_stripsOf hs).le_width
    have hlt := width.toNat_lt
    exact InWords.defined_eq_ok (by omega)

example : (stripsOf 600 256).map (fun s => (s.index, s.x, s.width)) =
    [(0, 0, 256), (1, 256, 256), (2, 512, 88)] := by decide

end Blitter
