import Blitter.Proofs.InWords.Layout
import Blitter.Proofs.Strip.Clip
import Mathlib.Data.Nat.Prime.Basic
import Mathlib.Order.Bounds.Defs

/-!
# The period of the columns

A number of columns is whole if it starts every plane on a whole byte and a whole color sample. The
search for the column alignment doubles a step until it is whole. Whatever the widths of the
components, it comes to an end, and no operation on words on the way leaves its word
(`InWords.SearchEnds`). It passes no smaller number over: a whole number of columns that the step
divides is divided by twice the step too, unless the step is whole itself. So what the search finds
is the period of the whole numbers of columns (`PixelLayout.IsColumnPeriod`), and a shift that is
split at a multiple of it leaves no plane inside a byte or a color sample.
-/

namespace Blitter

namespace PixelLayout

variable (l : PixelLayout)

/-- So many columns start every plane **on a whole byte and a whole color sample**. -/
def IsWhole (n : Nat) : Prop := l.columnGroup ∣ n ∧ ∀ p ∈ l.planes, 8 ∣ n * l.planeBits p

/-! ### What the search finds -/

/-- Where a step splits a byte of some plane, so does **every odd multiple** of it. -/
theorem two_mul_dvd_of_wholeBytes {n m : Nat} (hn : n ∣ m) (hsplit : l.wholeBytes n = false)
    (hm : l.wholeBytes m = true) : 2 * n ∣ m := by
  obtain ⟨q, rfl⟩ := hn
  have heven : 2 ∣ q := by
    by_contra hodd
    have hcoprime : Nat.Coprime 8 q :=
      Nat.Coprime.pow_left 3 (Nat.prime_two.coprime_iff_not_dvd.mpr hodd)
    have hwhole : l.wholeBytes n = true := by
      refine l.wholeBytes_iff.mpr fun p hp => ?_
      have hbits := l.wholeBytes_iff.mp hm p hp
      rw [Nat.mul_right_comm] at hbits
      exact hcoprime.dvd_of_dvd_mul_right hbits
    rw [hsplit] at hwhole
    cases hwhole
  rw [Nat.mul_comm 2 n]
  exact Nat.mul_dvd_mul_left n heven

/-- The search **passes no whole number of bytes over**: every one that it could come to is a
multiple of what it finds. -/
theorem firstWhole_dvd (k : Nat) {n m : Nat} (hn : n ∣ m) (hm : l.wholeBytes m = true) :
    l.firstWhole k n ∣ m := by
  induction k generalizing n with
  | zero => exact hn
  | succ k ih =>
    rw [firstWhole]
    split
    case isTrue => exact hn
    case isFalse hsplit =>
      exact ih (l.two_mul_dvd_of_wholeBytes hn (Bool.eq_false_iff.mpr hsplit) hm)

/-- The whole numbers of columns are **the multiples of the alignment**. -/
theorem isWhole_iff {n : Nat} : l.IsWhole n ↔ l.columnAlign ∣ n := by
  constructor
  · rintro ⟨hgroup, hbytes⟩
    exact l.firstWhole_dvd 3 hgroup (l.wholeBytes_iff.mpr hbytes)
  · intro h
    exact ⟨l.columnGroup_dvd_columnAlign.trans h, fun p hp => l.eight_dvd_mul_planeBits h hp⟩

/-- Eight columns are whole in any layout. -/
theorem columnAlign_dvd_eight : l.columnAlign ∣ 8 := by
  rw [← isWhole_iff]
  refine ⟨?_, fun p _ => Nat.dvd_mul_right 8 _⟩
  unfold columnGroup Chroma.columns
  split
  · split <;> decide
  · decide

theorem isLeast_columnAlign : IsLeast {n | 0 < n ∧ l.IsWhole n} l.columnAlign := by
  refine ⟨⟨l.columnAlign_pos, l.isWhole_iff.mpr (Nat.dvd_refl _)⟩, ?_⟩
  rintro n ⟨hpos, hwhole⟩
  exact Nat.le_of_dvd hpos (l.isWhole_iff.mp hwhole)

/-- What is left of a number after dividing it by the alignment is **the least that has to be taken
off** to make it whole. -/
theorem isGreatest_sub_mod (shift : Nat) :
    IsGreatest {n | n ≤ shift ∧ l.IsWhole n} (shift - shift % l.columnAlign) := by
  refine ⟨⟨Nat.sub_le _ _, l.isWhole_iff.mpr (Nat.dvd_sub_mod shift)⟩, ?_⟩
  rintro n ⟨hle, hwhole⟩
  obtain ⟨q, rfl⟩ := l.isWhole_iff.mp hwhole
  have hq : q ≤ shift / l.columnAlign := by
    rw [Nat.le_div_iff_mul_le l.columnAlign_pos, Nat.mul_comm]
    exact hle
  have hmul := Nat.mul_le_mul_left l.columnAlign hq
  have hdivmod := Nat.div_add_mod shift l.columnAlign
  omega

end PixelLayout

/-! ### The search in words -/

namespace InWords

variable {l : PixelLayout}

/-- The search that is begun at `n` **comes to an end** at the last word. A step that splits a byte
is doubled as often as it takes, and every operation has a result. -/
inductive SearchEnds (l : PixelLayout) : UInt32 → UInt32 → Prop where
  | whole {n : UInt32} (h : splitsByte l n = .ok false) : SearchEnds l n n
  | double {n twice r : UInt32} (h : splitsByte l n = .ok true) (hmul : mul n 2 = .ok twice)
      (rest : SearchEnds l twice r) : SearchEnds l n r

/-- A search comes to **no more than one end**. -/
theorem SearchEnds.eq {n r r' : UInt32} (h : SearchEnds l n r) (h' : SearchEnds l n r') :
    r = r' := by
  induction h with
  | whole hwhole =>
    cases h' with
    | whole => rfl
    | double hsplit => cases hwhole.symm.trans hsplit
  | double hsplit hmul _ ih =>
    cases h' with
    | whole hwhole => cases hwhole.symm.trans hsplit
    | double _ hmul' rest' =>
      cases hmul.symm.trans hmul'
      exact ih rest'

/-- What is found in a limited number of steps is where the search without a limit ends. -/
theorem searchEnds_of_firstWhole {k : Nat} {n r : UInt32} (h : firstWhole l k n = .ok r) :
    SearchEnds l n r := by
  induction k generalizing n with
  | zero => cases h
  | succ k ih =>
    rw [firstWhole] at h
    cases hsplit : splitsByte l n with
    | error stop =>
      rw [hsplit] at h
      cases h
    | ok splits =>
      rw [hsplit, ok_bind] at h
      cases splits with
      | false =>
        cases h
        exact .whole hsplit
      | true =>
        cases hmul : mul n 2 with
        | error stop =>
          rw [if_pos rfl, hmul] at h
          cases h
        | ok twice =>
          rw [if_pos rfl, hmul, ok_bind] at h
          exact .double hsplit hmul (ih h)

theorem searchEnds_iff (l : PixelLayout) (r : UInt32) :
    SearchEnds l (.ofNat l.columnGroup) r ↔ r.toNat = l.columnAlign := by
  have hends := searchEnds_of_firstWhole (columnAlign_eq l)
  have hnat : (UInt32.ofNat l.columnAlign).toNat = l.columnAlign :=
    UInt32.toNat_ofNat_of_lt' (l.columnAlign_le.trans_lt (by decide))
  constructor
  · intro h
    rw [h.eq hends, hnat]
  · intro h
    rw [← hnat] at h
    rw [UInt32.toNat_inj.mp h]
    exact hends

end InWords

/-! ### The period -/

/-- Columns of the layout **repeat after `n`**: the search for a step that is whole ends there and
nowhere else, there is no smaller one, and the whole numbers of columns are its multiples. -/
structure PixelLayout.IsColumnPeriod (l : PixelLayout) (n : Nat) : Prop where
  ends : ∀ r, InWords.SearchEnds l (.ofNat l.columnGroup) r ↔ r.toNat = n
  dvd_eight : n ∣ 8
  least : IsLeast {m | 0 < m ∧ l.IsWhole m} n
  whole_iff : ∀ m, l.IsWhole m ↔ n ∣ m
  /-- A number of columns is split at the largest whole number of them. -/
  splits : ∀ shift, IsGreatest {m | m ≤ shift ∧ l.IsWhole m} (shift - shift % n)
  /-- Addresses are moved by a whole number of the columns that a source is shifted by, as far as
  they are moved at all, and the rectangle by those that are left. -/
  shifts : ∀ (source : Source) (layer moved : Layer) (shift width : UInt32), source.layout = l →
    source.shiftColumns layer shift width = .ok moved →
      ∃ m, l.IsWhole m ∧ m + moved.src.x.toNat = layer.src.x.toNat + shift.toNat ∧
        (∀ p ∈ l.planes, 8 * (moved.address.get p).toNat =
          8 * (layer.address.get p).toNat + m * l.planeBits p) ∧
        (source.layer.arrangement = .linear → m = shift.toNat - shift.toNat % n)

/-- **The search for the column alignment ends and finds the period**, whatever the widths of the
components are. -/
theorem PixelLayout.isColumnPeriod_columnAlign (l : PixelLayout) :
    l.IsColumnPeriod l.columnAlign where
  ends := InWords.searchEnds_iff l
  dvd_eight := l.columnAlign_dvd_eight
  least := l.isLeast_columnAlign
  whole_iff _ := l.isWhole_iff
  splits := l.isGreatest_sub_mod
  shifts := by
    rintro source layer moved shift width rfl h
    obtain ⟨-, hused, -, hx⟩ := Source.shiftColumns_eq_ok h
    have hwhole := source.layout.isWhole_iff.mpr (source.columnAlign_dvd_wholeColumns shift.toNat)
    exact ⟨_, hwhole, hx, hused, fun hlinear => if_pos hlinear⟩

/-- Nine bits for a pixel are whole bytes after eight of them only. -/
example : (PixelLayout.rgb 0 3 3 3 0).columnAlign = 8 := by decide

end Blitter
