import Blitter.Proofs.Rect
import Blitter.Proofs.Strip.Partition

/-!
# What a strip holds of a rectangle

A strip cuts some columns off either side of a rectangle and holds the rest. `Strip.Cuts` relates
the rectangle to the part that is held, whose columns are counted from the strip's own first one;
the part is found by `Strip.overlap?`.
-/

namespace Blitter

namespace Strip

/-- The columns of the rectangle on the near side of the strip. -/
def cutLeft (s : Strip) (r : Rect) : Nat := s.x.toNat - r.x.toNat

/-- The columns of the rectangle on the far side of the strip. -/
def cutRight (s : Strip) (r : Rect) : Nat :=
  r.x.toNat + r.w.toNat - (s.x.toNat + s.width.toNat)

/-- The strip **cuts** the whole rectangle down to the part. -/
structure Cuts (s : Strip) (whole part : Rect) : Prop where
  rest : part = { whole with x := part.x, w := part.w }
  nonempty : 0 < part.w.toNat
  width : whole.w.toNat = s.cutLeft whole + part.w.toNat + s.cutRight whole
  origin : whole.x.toNat + s.cutLeft whole = s.x.toNat + part.x.toNat

namespace Cuts

variable {s : Strip} {whole part : Rect} (h : s.Cuts whole part)
include h

/-- The part has the columns that the strip and the rectangle share. -/
theorem holdsColumn_iff {x : Nat} :
    s.Holds x ∧ whole.HoldsColumn x ↔ s.x.toNat ≤ x ∧ part.HoldsColumn (x - s.x.toNat) := by
  obtain ⟨-, hne, hw, ho⟩ := h
  unfold Holds Rect.HoldsColumn
  unfold cutLeft cutRight at hw
  unfold cutLeft at ho
  omega

/-- A cut rectangle has a column in the strip. -/
theorem exists_holds : ∃ x, s.Holds x ∧ whole.HoldsColumn x := by
  refine ⟨s.x.toNat + part.x.toNat, h.holdsColumn_iff.mpr ⟨Nat.le_add_right _ _, ?_⟩⟩
  have := h.nonempty
  unfold Rect.HoldsColumn
  omega

theorem width_le : part.w.toNat ≤ whole.w.toNat := by
  have := h.width
  omega

/-- The part is no wider than the strip. -/
theorem width_le_strip : part.w.toNat ≤ s.width.toNat := by
  obtain ⟨-, hne, hw, -⟩ := h
  unfold cutLeft cutRight at hw
  omega

end Cuts

variable {s : Strip} {width : UInt32} {r : Rect}

theorem overlap?_eq_none_iff (hs : s.Within width) (hr : r.ColumnsFit) :
    s.overlap? r = none ↔ ∀ x, ¬ (s.Holds x ∧ r.HoldsColumn x) := by
  have hne := hs.nonempty
  simp only [overlap?, ite_eq_right_iff, reduceCtorEq, imp_false, UInt32.lt_iff_toNat_lt,
    UInt32.toNat_max, UInt32.toNat_min, hs.toNat_right, hr.toNat_right]
  unfold Holds Rect.HoldsColumn
  constructor
  · intro h x
    omega
  · intro h
    have := h (max r.x.toNat s.x.toNat)
    omega

/-- What the clipping of layers works out of an overlap is a cut. -/
theorem cuts_of_overlap? {x0 x1 : UInt32} (hs : s.Within width) (hr : r.ColumnsFit)
    (h : s.overlap? r = some (x0, x1)) :
    s.Cuts r { r with x := x0 - s.x, w := x1 - x0 } ∧ (x0 - r.x).toNat = s.cutLeft r ∧
      (r.right - x1).toNat = s.cutRight r := by
  simp only [overlap?, Option.ite_none_right_eq_some, Option.some.injEq, Prod.mk.injEq] at h
  obtain ⟨hlt, rfl, rfl⟩ := h
  rw [UInt32.lt_iff_toNat_lt] at hlt
  -- the edges of the overlap, told by what is cut off on their sides
  obtain ⟨hstart, hnear⟩ : (max r.x s.x).toNat = r.x.toNat + s.cutLeft r ∧
      s.x.toNat ≤ (max r.x s.x).toNat := by
    rw [UInt32.toNat_max]
    unfold cutLeft
    omega
  obtain ⟨hstop, hfar⟩ : (min r.right s.right).toNat + s.cutRight r = r.x.toNat + r.w.toNat ∧
      (min r.right s.right).toNat ≤ r.x.toNat + r.w.toNat := by
    rw [UInt32.toNat_min, hr.toNat_right, hs.toNat_right]
    unfold cutRight
    omega
  generalize max r.x s.x = x0 at *
  generalize min r.right s.right = x1 at *
  -- none of the differences wraps around
  have hx : (x0 - s.x).toNat = x0.toNat - s.x.toNat :=
    UInt32.toNat_sub_of_le _ _ (UInt32.le_iff_toNat_le.mpr hnear)
  have hl : (x0 - r.x).toNat = x0.toNat - r.x.toNat :=
    UInt32.toNat_sub_of_le _ _ (UInt32.le_iff_toNat_le.mpr (by omega))
  have hw : (x1 - x0).toNat = x1.toNat - x0.toNat :=
    UInt32.toNat_sub_of_le _ _ (UInt32.le_iff_toNat_le.mpr (Nat.le_of_lt hlt))
  have hd : (r.right - x1).toNat = r.right.toNat - x1.toNat :=
    UInt32.toNat_sub_of_le _ _ (UInt32.le_iff_toNat_le.mpr (by rw [hr.toNat_right]; exact hfar))
  rw [hr.toNat_right] at hd
  refine ⟨⟨rfl, ?_, ?_, ?_⟩, ?_, ?_⟩
  · show 0 < (x1 - x0).toNat
    omega
  · show r.w.toNat = s.cutLeft r + (x1 - x0).toNat + s.cutRight r
    omega
  · show r.x.toNat + s.cutLeft r = s.x.toNat + (x0 - s.x).toNat
    omega
  · omega
  · omega

end Strip

end Blitter
