import Blitter.Register.Map
import Blitter.Geometry
import Mathlib.Algebra.Order.Ring.Nat

/-!
# Rectangles by their edges

The far edges of a rectangle are sums that stop at the largest word, so that comparing them is
comparing the sums as natural numbers, except where the larger one has been stopped.

A rectangle encloses another one if it does so on all four sides, which for one that is not empty
is to hold all its pixels (`Rect.encloses_iff_forall_holds`). `Rect.contains` says so of every
rectangle that is enclosed. Of one that reaches further it says so exactly if the words end where
it is left to reach (`Rect.contains_iff_encloses_iff`), and so never does for a surface, which ends
before them (`Rect.contains_origin_iff`).
-/

namespace Blitter

theorem toNat_clampedSum (a b : UInt32) :
    (clampedSum a b).toNat = min (a.toNat + b.toNat) (2 ^ 32 - 1) := by
  rw [clampedSum]
  split
  case isTrue h =>
    rw [UInt32.toNat_add, Nat.mod_eq_of_lt h]
    omega
  case isFalse h =>
    show 4294967295 = _
    omega

/-- Clamped sums compare like the sums themselves, unless **the larger one is the largest word**. -/
theorem clampedSum_le_clampedSum_iff {a b c d : UInt32} :
    clampedSum a b ≤ clampedSum c d ↔
      a.toNat + b.toNat ≤ c.toNat + d.toNat ∨ 2 ^ 32 - 1 ≤ c.toNat + d.toNat := by
  rw [UInt32.le_iff_toNat_le, toNat_clampedSum, toNat_clampedSum]
  omega

/-- Below the largest word, a clamped sum compares like the sum itself. -/
theorem clampedSum_le_iff {a b c : UInt32} (hc : c.toNat < 2 ^ 32 - 1) :
    clampedSum a b ≤ c ↔ a.toNat + b.toNat ≤ c.toNat := by
  rw [UInt32.le_iff_toNat_le, toNat_clampedSum]
  omega

namespace Rect

/-- Column `x` goes through the rectangle. -/
def HoldsColumn (r : Rect) (x : Nat) : Prop :=
  r.x.toNat ≤ x ∧ x < r.x.toNat + r.w.toNat

instance (r : Rect) (x : Nat) : Decidable (r.HoldsColumn x) := inferInstanceAs (Decidable (_ ∧ _))

/-- The pixel is in the rectangle. -/
def Holds (r : Rect) (a : Nat × Nat) : Prop :=
  (r.x.toNat ≤ a.1 ∧ a.1 < r.x.toNat + r.w.toNat) ∧
    r.y.toNat ≤ a.2 ∧ a.2 < r.y.toNat + r.h.toNat

instance (r : Rect) (a : Nat × Nat) : Decidable (r.Holds a) := inferInstanceAs (Decidable (_ ∧ _))

/-- The columns of the rectangle stay in the range of words. -/
def ColumnsFit (r : Rect) : Prop := r.x.toNat + r.w.toNat < 0x100000000

instance (r : Rect) : Decidable r.ColumnsFit := inferInstanceAs (Decidable (_ < _))

/-- The rows of the rectangle stay in the range of words. -/
def RowsFit (r : Rect) : Prop := r.y.toNat + r.h.toNat < 0x100000000

instance (r : Rect) : Decidable r.RowsFit := inferInstanceAs (Decidable (_ < _))

/-- The rectangle is not empty and no larger than a size field carries. -/
structure Sized (r : Rect) : Prop where
  w_pos : 0 < r.w.toNat
  h_pos : 0 < r.h.toNat
  w_le : r.w.toNat ≤ 8192
  h_le : r.h.toNat ≤ 8192

variable {r s : Rect}

theorem ColumnsFit.toNat_right (h : r.ColumnsFit) : r.right.toNat = r.x.toNat + r.w.toNat := by
  unfold ColumnsFit at h
  rw [right, toNat_clampedSum]
  omega

theorem isEmpty_eq_false_iff : r.isEmpty = false ↔ 0 < r.w.toNat ∧ 0 < r.h.toNat := by
  simp only [isEmpty, Bool.or_eq_false_iff, beq_eq_false_iff_ne, ne_eq, ← UInt32.toNat_inj,
    UInt32.toNat_zero, Nat.pos_iff_ne_zero]

theorem sized_iff :
    r.Sized ↔ (r.isEmpty || maxDimension < r.w || maxDimension < r.h) = false := by
  have hmax : maxDimension.toNat = 8192 := rfl
  simp only [isEmpty, Bool.or_eq_false_iff, beq_eq_false_iff_ne, decide_eq_false_iff_not, ne_eq,
    UInt32.lt_iff_toNat_lt, hmax, ← UInt32.toNat_inj, UInt32.toNat_zero]
  constructor
  · rintro ⟨hw, hh, hwl, hhl⟩
    omega
  · rintro ⟨⟨⟨hw, hh⟩, hwl⟩, hhl⟩
    constructor <;> omega

/-! ### One rectangle inside another -/

/-- The second rectangle **lies inside** the first, however far the two of them reach. -/
structure Encloses (r s : Rect) : Prop where
  left : r.x.toNat ≤ s.x.toNat
  top : r.y.toNat ≤ s.y.toNat
  right : s.x.toNat + s.w.toNat ≤ r.x.toNat + r.w.toNat
  bottom : s.y.toNat + s.h.toNat ≤ r.y.toNat + r.h.toNat

/-- The second rectangle **reaches out of** the first, and only where the words have ended. -/
structure OutrunBy (r s : Rect) : Prop where
  left : r.x.toNat ≤ s.x.toNat
  top : r.y.toNat ≤ s.y.toNat
  right : s.x.toNat + s.w.toNat ≤ r.x.toNat + r.w.toNat ∨ 2 ^ 32 - 1 ≤ r.x.toNat + r.w.toNat
  bottom : s.y.toNat + s.h.toNat ≤ r.y.toNat + r.h.toNat ∨ 2 ^ 32 - 1 ≤ r.y.toNat + r.h.toNat
  beyond : r.x.toNat + r.w.toNat < s.x.toNat + s.w.toNat ∨
    r.y.toNat + r.h.toNat < s.y.toNat + s.h.toNat

/-- To enclose a rectangle that is not empty is **to hold its pixels**. -/
theorem encloses_iff_forall_holds (hs : s.isEmpty = false) :
    r.Encloses s ↔ ∀ a, s.Holds a → r.Holds a := by
  obtain ⟨hw, hh⟩ := isEmpty_eq_false_iff.mp hs
  unfold Holds
  constructor
  · rintro ⟨hleft, htop, hright, hbottom⟩ a ⟨⟨_, _⟩, _, _⟩
    omega
  · intro h
    -- the first pixel gives two of the sides, the last one the other two
    obtain ⟨⟨hleft, -⟩, htop, -⟩ := h (s.x.toNat, s.y.toNat) (by dsimp only; omega)
    obtain ⟨⟨-, hright⟩, -, hbottom⟩ :=
      h (s.x.toNat + s.w.toNat - 1, s.y.toNat + s.h.toNat - 1) (by dsimp only; omega)
    constructor <;> omega

theorem contains_eq_true_iff :
    r.contains s = true ↔ r.x.toNat ≤ s.x.toNat ∧ r.y.toNat ≤ s.y.toNat ∧
      (s.x.toNat + s.w.toNat ≤ r.x.toNat + r.w.toNat ∨ 2 ^ 32 - 1 ≤ r.x.toNat + r.w.toNat) ∧
      (s.y.toNat + s.h.toNat ≤ r.y.toNat + r.h.toNat ∨ 2 ^ 32 - 1 ≤ r.y.toNat + r.h.toNat) := by
  simp only [contains, Bool.and_eq_true, decide_eq_true_eq, right, bottom,
    clampedSum_le_clampedSum_iff, and_assoc]
  rfl

/-- What lies inside **is always found to**. -/
theorem Encloses.contains (h : r.Encloses s) : r.contains s = true :=
  contains_eq_true_iff.mpr ⟨h.left, h.top, .inl h.right, .inl h.bottom⟩

/-- What is found to lie inside does, or **outruns the words**. -/
theorem contains_iff_encloses_or_outrunBy :
    r.contains s = true ↔ r.Encloses s ∨ r.OutrunBy s := by
  constructor
  · intro h
    obtain ⟨hleft, htop, hright, hbottom⟩ := contains_eq_true_iff.mp h
    by_cases hbeyond : r.x.toNat + r.w.toNat < s.x.toNat + s.w.toNat ∨
        r.y.toNat + r.h.toNat < s.y.toNat + s.h.toNat
    · exact .inr ⟨hleft, htop, hright, hbottom, hbeyond⟩
    · exact .inl ⟨hleft, htop, by omega, by omega⟩
  · rintro (h | h)
    · exact h.contains
    · exact contains_eq_true_iff.mpr ⟨h.left, h.top, h.right, h.bottom⟩

theorem Encloses.not_outrunBy (h : r.Encloses s) : ¬ r.OutrunBy s := by
  rintro ⟨-, -, -, -, hright | hbottom⟩
  · exact absurd h.right (by omega)
  · exact absurd h.bottom (by omega)

/-- Inside a picture that starts at the origin, edges are compared as natural numbers. -/
theorem contains_origin_iff {width height : UInt32} (hw : width.toNat < 2 ^ 32 - 1)
    (hh : height.toNat < 2 ^ 32 - 1) :
    Rect.contains ⟨0, 0, width, height⟩ r = true ↔
      r.x.toNat + r.w.toNat ≤ width.toNat ∧ r.y.toNat + r.h.toNat ≤ height.toNat := by
  rw [contains_eq_true_iff]
  dsimp only
  rw [UInt32.toNat_zero, Nat.zero_add, Nat.zero_add]
  omega

/-- **When containment can be told from the words.** Whether one rectangle lies inside another is
told right exactly if the other does not outrun the words. If the first one stays in the range of
words and the other leaves it, only one that outruns them is told to be inside. -/
theorem contains_iff_encloses_iff (r s : Rect) :
    ((r.contains s = true ↔ r.Encloses s) ↔ ¬ r.OutrunBy s) ∧
      (r.ColumnsFit ∧ r.RowsFit → ¬ (s.ColumnsFit ∧ s.RowsFit) →
        (r.contains s = true ↔ r.OutrunBy s)) := by
  have hcontains : r.contains s = true ↔ _ := contains_iff_encloses_or_outrunBy
  constructor
  · rw [hcontains, or_iff_left_iff_imp]
    exact ⟨fun h hout => (h hout).not_outrunBy hout, fun h hout => absurd hout h⟩
  · rintro ⟨hcolumns, hrows⟩ hleaves
    -- what leaves the range cannot lie inside what stays in it
    have hnot : ¬ r.Encloses s := fun h =>
      hleaves ⟨h.right.trans_lt hcolumns, h.bottom.trans_lt hrows⟩
    rw [hcontains, or_iff_right hnot]

/-- A picture ends long before the words do, so that nothing beyond them is in it. -/
theorem contains_iff_encloses_iff_farRect :
    let picture : Rect := ⟨0, 0, 1920, 1080⟩
    let far : Rect := ⟨0xFFFFFFF5, 0xFFFFFFFF, 64, 1⟩
    (picture.ColumnsFit ∧ picture.RowsFit) ∧ ¬ (far.ColumnsFit ∧ far.RowsFit) ∧
      ¬ picture.OutrunBy far ∧ (picture.contains far = true ↔ picture.OutrunBy far) := by
  intro picture far
  obtain ⟨-, hleaves⟩ := contains_iff_encloses_iff picture far
  have hout : ¬ picture.OutrunBy far := fun h => absurd h.right (by decide)
  exact ⟨by decide, by decide, hout, hleaves (by decide) (by decide)⟩

/-- A row of pixels that ends with the last word **is told to have room** for pixels behind it. -/
theorem not_encloses_longRow :
    let row : Rect := ⟨0, 0, 0xFFFFFFFF, 1⟩
    let far : Rect := ⟨0xFFFFFFFA, 0, 10, 1⟩
    (row.ColumnsFit ∧ row.RowsFit) ∧ ¬ (far.ColumnsFit ∧ far.RowsFit) ∧
      row.contains far = true ∧ ¬ row.Encloses far := by
  intro row far
  exact ⟨by decide, by decide, by decide, fun h => absurd h.right (by decide)⟩

end Rect

end Blitter
