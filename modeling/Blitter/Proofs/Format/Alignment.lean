import Blitter.Format.Layout
import Mathlib.Algebra.Order.Ring.Nat

/-!
# Whole bytes and whole color samples

What the alignments of a pixel layout promise. A multiple of `columnAlign` columns is a whole
number of bytes in every plane and a whole number of color samples, so that moving a plane's
address by that many columns divides evenly by eight; a multiple of `rowAlign` rows is a whole
number of rows in every plane. Both hold of any layout, in the catalog or not.
-/

namespace Blitter

namespace PixelLayout

variable (l : PixelLayout)

theorem wholeBytes_iff {n : Nat} :
    l.wholeBytes n = true ↔ ∀ p ∈ l.planes, 8 ∣ n * l.planeBits p := by
  simp only [wholeBytes, List.all_eq_true, beq_iff_eq, Nat.dvd_iff_mod_eq_zero]

/-- The search doubles, so that what it finds is a multiple of where it starts. -/
theorem dvd_firstWhole (k n : Nat) : n ∣ l.firstWhole k n := by
  induction k generalizing n with
  | zero => exact Nat.dvd_refl n
  | succ k ih =>
    rw [firstWhole]
    split
    · exact Nat.dvd_refl n
    · exact (Nat.dvd_mul_left n 2).trans (ih (2 * n))

theorem firstWhole_pos (k : Nat) {n : Nat} (h : 0 < n) : 0 < l.firstWhole k n := by
  induction k generalizing n with
  | zero => exact h
  | succ k ih =>
    rw [firstWhole]
    split
    · exact h
    · exact ih (by omega)

/-- The search finds whole bytes if its last step is a multiple of eight. -/
theorem wholeBytes_firstWhole (k : Nat) {n : Nat} (h : 8 ∣ 2 ^ k * n) :
    l.wholeBytes (l.firstWhole k n) = true := by
  induction k generalizing n with
  | zero =>
    rw [pow_zero, one_mul] at h
    rw [firstWhole, wholeBytes_iff]
    exact fun p _ => Dvd.dvd.mul_right h _
  | succ k ih =>
    rw [firstWhole]
    split
    case isTrue hn => exact hn
    case isFalse hn =>
      -- one doubling fewer is left, of a step twice as long
      apply ih
      rw [← mul_assoc, ← pow_succ]
      exact h

theorem columnGroup_pos : 0 < l.columnGroup := by
  unfold columnGroup Chroma.columns
  split
  · split <;> decide
  · decide

/-- No alignment is zero, so that remainders by it are defined. -/
theorem columnAlign_pos : 0 < l.columnAlign := l.firstWhole_pos 3 l.columnGroup_pos

/-- The alignment is a whole number of color samples. -/
theorem columnGroup_dvd_columnAlign : l.columnGroup ∣ l.columnAlign := l.dvd_firstWhole 3 _

/-- The alignment is a whole number of bytes in every plane. -/
theorem wholeBytes_columnAlign : l.wholeBytes l.columnAlign = true :=
  l.wholeBytes_firstWhole 3 (Nat.dvd_mul_right 8 _)

/-- **Aligned columns are whole bytes** in every plane in use. -/
theorem eight_dvd_mul_planeBits {n : Nat} (h : l.columnAlign ∣ n) {p : Fin 3} (hp : p ∈ l.planes) :
    8 ∣ n * l.planeBits p :=
  (l.wholeBytes_iff.mp l.wholeBytes_columnAlign p hp).trans (Nat.mul_dvd_mul_right h _)

/-- Rows are never divided by zero. -/
theorem planeRows_pos (p : Nat) : 0 < l.planeRows p := by
  unfold planeRows Chroma.rows
  split
  · decide
  · split <;> decide

theorem planeRows_dvd_rowAlign (p : Nat) : l.planeRows p ∣ l.rowAlign := by
  unfold planeRows rowAlign
  by_cases hp : p = 0 ∨ l.yuv = false
  · rw [if_pos hp]
    exact Nat.one_dvd _
  · have hy : l.yuv = true := by simpa using (not_or.mp hp).2
    rw [if_neg hp, if_pos hy]

/-- **Aligned rows are whole rows** of every plane. -/
theorem planeRows_dvd {n : Nat} (h : l.rowAlign ∣ n) (p : Nat) : l.planeRows p ∣ n :=
  (l.planeRows_dvd_rowAlign p).trans h

theorem nodup_planes : l.planes.Nodup := by
  unfold planes Planarity.planes
  split <;> decide

theorem zero_mem_planes : (0 : Fin 3) ∈ l.planes := by
  unfold planes Planarity.planes
  split <;> decide

end PixelLayout

end Blitter
