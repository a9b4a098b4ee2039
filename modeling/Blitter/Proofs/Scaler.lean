import Blitter.Proofs.Outcome
import Blitter.Scaler
import Mathlib.Algebra.Order.Floor.Div

/-!
# Where the scaler samples

A destination pixel is taken from the source pixel that as many steps lead to (`Scaler.position`). A
step is rounded down, so that the positions fall short of what the ratio asks for, each by less than
a 65536th of a pixel more than the one before it: they never leave the source, and for as many pixels
as a surface can have they end close to its far edge (`Scaler.SamplesInside`).
-/

namespace Blitter.Scaler

/-- The source pixel that destination pixel `i` is taken from: the whole part of `i` steps. -/
def position (src dst : UInt32) (i : Nat) : Nat := (i * (step src dst).toNat) >>> 16

/-- The scaler goes through **its source and no further**. The step is the ratio in 16.16 fixed
point, rounded down; no position is beyond the source or before the last one, and the final one is
near the end. -/
structure SamplesInside (src dst : UInt32) : Prop where
  step_eq : (step src dst).toNat = src.toNat * 65536 / dst.toNat
  step_pos : 0 < (step src dst).toNat
  inWords : ∀ i < dst.toNat, i * (step src dst).toNat < 2 ^ 32
  inside : ∀ i < dst.toNat, position src dst i < src.toNat
  mono : ∀ i j, i ≤ j → position src dst i ≤ position src dst j
  last : src.toNat ≤ position src dst (dst.toNat - 1) + (src.toNat ⌈/⌉ dst.toNat + 1)
  unscaled : step src dst = 65536 ↔ src = dst

/-! ### Ratios -/

/-- A limit is kept by the words that are **no larger**, if it is a word itself. -/
theorem limit_eq_ok_iff {n : Nat} {w : UInt32} {fault : GeometryFault} {x : Outcome Unit} :
    (fit32 n >>= fun most => if most < w then rejectGeometry fault else x) = .ok () ↔
      (w.toNat ≤ n ∧ n < 2 ^ 32) ∧ x = .ok () := by
  simp only [Outcome.bind_eq_ok_iff, fit32_eq_ok_iff, ite_rejectGeometry_eq_ok_iff,
    UInt32.lt_iff_toNat_lt, Nat.not_lt]
  constructor
  · rintro ⟨most, rfl, hle, hx⟩
    exact ⟨⟨hle, most.toNat_lt⟩, hx⟩
  · rintro ⟨⟨hle, hlt⟩, hx⟩
    have hnat := UInt32.toNat_ofNat_of_lt' hlt
    refine ⟨.ofNat n, hnat, ?_, hx⟩
    rw [hnat]
    exact hle

/-- **The ratios that the scaler can produce.** -/
theorem check_eq_ok_iff {src dst : UInt32} :
    check src dst = .ok () ↔ (0 < src.toNat ∧ 0 < dst.toNat) ∧
      (src.toNat ≤ dst.toNat * maxShrink ∧ dst.toNat * maxShrink < 2 ^ 32) ∧
      dst.toNat ≤ src.toNat * maxStretch ∧ src.toNat * maxStretch < 2 ^ 32 := by
  rw [check, ite_rejectGeometry_eq_ok_iff, limit_eq_ok_iff, limit_eq_ok_iff]
  have hempty : ¬ (src = 0 ∨ dst = 0) ↔ 0 < src.toNat ∧ 0 < dst.toNat := by
    simp only [not_or, ← UInt32.toNat_inj, UInt32.toNat_zero, Nat.pos_iff_ne_zero]
  have hdone : (pure () : Outcome Unit) = .ok () := rfl
  rw [hempty, and_iff_left hdone]

/-- What is not stretched or shrunk is **within the scaler's ratios**. -/
theorem check_self {n : UInt32} (hpos : 0 < n.toNat) (hle : n.toNat ≤ 8192) :
    check n n = .ok () := by
  rw [check_eq_ok_iff, maxShrink, maxStretch]
  omega

/-! ### Positions -/

section Positions

variable {src dst : UInt32}

theorem position_eq_div (src dst : UInt32) (i : Nat) :
    position src dst i = i * (step src dst).toNat / 65536 := Nat.shiftRight_eq_div_pow _ 16

theorem position_mono (src dst : UInt32) {i j : Nat} (h : i ≤ j) :
    position src dst i ≤ position src dst j := by
  rw [position_eq_div, position_eq_div]
  exact Nat.div_le_div_right (Nat.mul_le_mul_right _ h)

variable (hdst : 0 < dst.toNat) (hshrink : src.toNat ≤ dst.toNat * 8)
include hdst hshrink

/-- A step of no more than eight pixels **fits its word**. -/
theorem toNat_step : (step src dst).toNat = src.toNat * 65536 / dst.toNat := by
  have hmax : Nat.max dst.toNat 1 = dst.toNat := Nat.max_eq_left hdst
  have hle : src.toNat * 65536 / dst.toNat ≤ 8 * 65536 :=
    Nat.div_le_of_le_mul (by omega)
  rw [step, hmax, UInt32.toNat_ofNat_of_lt' (show _ < 2 ^ 32 by omega)]

/-- As many steps as there are destination pixels **fall short of the source**, by less than a
65536th for each. -/
theorem step_mul_bounds : (step src dst).toNat * dst.toNat ≤ src.toNat * 65536 ∧
    src.toNat * 65536 < (step src dst).toNat * dst.toNat + dst.toNat := by
  rw [toNat_step hdst hshrink]
  have hlt := Nat.lt_mul_div_succ (src.toNat * 65536) hdst
  rw [Nat.mul_add, Nat.mul_one, Nat.mul_comm dst.toNat] at hlt
  exact ⟨Nat.div_mul_le_self _ _, hlt⟩

theorem mul_step_lt (hsrc : 0 < src.toNat) {i : Nat} (hi : i < dst.toNat) :
    i * (step src dst).toNat < src.toNat * 65536 := by
  obtain ⟨hle, -⟩ := step_mul_bounds hdst hshrink
  rcases Nat.eq_zero_or_pos (step src dst).toNat with hzero | hpos
  · rw [hzero, Nat.mul_zero]
    omega
  · have hlt : i * (step src dst).toNat < dst.toNat * (step src dst).toNat :=
      Nat.mul_lt_mul_of_pos_right hi hpos
    rw [Nat.mul_comm dst.toNat] at hlt
    exact hlt.trans_le hle

/-- The last position is **near the end of the source**, if what is lost in all steps together is
less than a pixel. -/
theorem le_position_last (hsmall : dst.toNat ≤ 65536) :
    src.toNat ≤ position src dst (dst.toNat - 1) + (src.toNat ⌈/⌉ dst.toNat + 1) := by
  obtain ⟨hle, hlt⟩ := step_mul_bounds hdst hshrink
  have hceil : src.toNat ≤ dst.toNat * (src.toNat ⌈/⌉ dst.toNat) :=
    (ceilDiv_le_iff_le_mul hdst).mp le_rfl
  generalize src.toNat ⌈/⌉ dst.toNat = pixels at hceil ⊢
  -- the step that is missing at the end is no longer than the ratio, rounded up to whole pixels
  have hstep : (step src dst).toNat ≤ pixels * 65536 := by
    refine Nat.le_of_mul_le_mul_right (c := dst.toNat) ?_ hdst
    calc (step src dst).toNat * dst.toNat ≤ src.toNat * 65536 := hle
      _ ≤ dst.toNat * pixels * 65536 := Nat.mul_le_mul_right _ hceil
      _ = pixels * 65536 * dst.toNat := by rw [Nat.mul_comm dst.toNat, Nat.mul_right_comm]
  have hlast : (dst.toNat - 1) * (step src dst).toNat + (step src dst).toNat =
      (step src dst).toNat * dst.toNat := by
    rw [← Nat.succ_mul, Nat.succ_eq_add_one, Nat.sub_add_cancel hdst, Nat.mul_comm]
  rw [position_eq_div]
  omega

/-- For as many pixels as a word's half can count, **only a ratio of one** has a step of one. -/
theorem step_eq_one_iff (hsmall : dst.toNat ≤ 65536) : step src dst = 65536 ↔ src = dst := by
  obtain ⟨hle, hlt⟩ := step_mul_bounds hdst hshrink
  have hone : (65536 : UInt32).toNat = 65536 := rfl
  rw [← UInt32.toNat_inj, ← UInt32.toNat_inj, hone]
  constructor
  · intro hstep
    rw [hstep] at hle hlt
    omega
  · intro heq
    rw [toNat_step hdst hshrink, heq, Nat.mul_div_cancel_left _ hdst]

end Positions

/-- **The scaler never samples outside its source**, whatever it is asked to do that it can. -/
theorem samplesInside_of_check {src dst : UInt32} (h : check src dst = .ok ())
    (hsrc : src.toNat ≤ 8192) (hdst : dst.toNat ≤ 8192) : SamplesInside src dst := by
  obtain ⟨⟨hsrcpos, hdstpos⟩, ⟨hshrink, -⟩, hstretch, -⟩ := check_eq_ok_iff.mp h
  unfold maxShrink at hshrink
  unfold maxStretch at hstretch
  have hinside : ∀ i < dst.toNat, i * (step src dst).toNat < src.toNat * 65536 :=
    fun i hi => mul_step_lt hdstpos hshrink hsrcpos hi
  exact
    { step_eq := toNat_step hdstpos hshrink
      step_pos := by
        rw [toNat_step hdstpos hshrink]
        exact Nat.div_pos (by omega) hdstpos
      inWords := fun i hi => (hinside i hi).trans_le (by omega)
      inside := by
        intro i hi
        rw [position_eq_div]
        exact (Nat.div_lt_iff_lt_mul (by decide)).mpr (hinside i hi)
      mono := fun i j => position_mono src dst
      last := le_position_last hdstpos hshrink (by omega)
      unscaled := step_eq_one_iff hdstpos hshrink (by omega) }

/-- Nearly the largest source, shrunk as far as it can be. -/
theorem samplesInside_shrunk :
    check 8191 1024 = .ok () ∧ (8191 : UInt32).toNat ≤ 8192 ∧ (1024 : UInt32).toNat ≤ 8192 ∧
      SamplesInside 8191 1024 :=
  ⟨by decide, by decide, by decide,
    samplesInside_of_check (by decide) (by decide) (by decide)⟩

end Blitter.Scaler
