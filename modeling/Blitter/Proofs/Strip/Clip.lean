import Blitter.Proofs.Addresses
import Blitter.Proofs.Format.Alignment
import Blitter.Proofs.Rotation
import Blitter.Proofs.Strip.Cut

/-!
# Layers clipped to a strip

`Source.ClipsTo` says what clipping makes of a layer: the destination is cut to the strip, the
source to as many columns or, after a quarter turn, rows, and nothing else changes. Columns that
are cut off a linear source are skipped partly by its addresses and partly by its rectangle, and the
addresses skip the same number of whole columns in every plane; a tiled source keeps its addresses.
Which end of the source the cut is made at is told by `Source.skipped`: clipping reads a combined
rotation as a flip followed by a quarter turn.
-/

namespace Blitter

/-- The layer's addresses **skip** `n` columns of the source, the same in every plane. The columns
of a linear source lie side by side in its memory. Those of any other lie in tiles, so that its
addresses stay where they are. -/
structure Source.Skips (source : Source) (moved : Layer) (n : Nat) : Prop where
  linear : source.layer.arrangement = .linear → ∀ p ∈ source.layout.planes,
    8 * (moved.address.get p).toNat =
      8 * (source.layer.address.get p).toNat + n * source.layout.planeBits p
  tiled : source.layer.arrangement ≠ .linear → n = 0 ∧ moved.address = source.layer.address
  unused : ∀ p, p ∉ source.layout.planes → moved.address.get p = source.layer.address.get p

/-- Of a source whose pixels take room, the addresses skip one number of columns only. -/
theorem Source.Skips.eq {source : Source} {moved : Layer} {m n : Nat}
    (hbits : 0 < source.layout.planeBits 0) (hm : source.Skips moved m)
    (hn : source.Skips moved n) : m = n := by
  by_cases hlinear : source.layer.arrangement = .linear
  · have h0 := hm.linear hlinear 0 source.layout.zero_mem_planes
    rw [hn.linear hlinear 0 source.layout.zero_mem_planes] at h0
    exact Nat.eq_of_mul_eq_mul_right hbits (Nat.add_left_cancel h0).symm
  · rw [(hm.tiled hlinear).1, (hn.tiled hlinear).1]

theorem Source.skips_zero {source : Source} {moved : Layer}
    (h : moved.address = source.layer.address) : source.Skips moved 0 := by
  refine ⟨fun _ p _ => ?_, fun _ => ⟨rfl, h⟩, fun p _ => ?_⟩
  · rw [h, Nat.zero_mul, Nat.add_zero]
  · rw [h]

/-- The columns or rows of the source that are on the near side of the strip, as the source is
walked under the given order: those of the destination on the near side or, where the source is
walked backwards, on the far side. -/
def Source.skipped (source : Source) (order : FlipOrder) (s : Strip) : Nat :=
  if source.layer.rotation.mirrorsColumns order then s.cutRight source.layer.dst
  else s.cutLeft source.layer.dst

/-- The order matters to the combined rotations only. -/
theorem Source.skipped_of_not_isCombined {source : Source} {order order' : FlipOrder} {s : Strip}
    (hr : source.layer.rotation.isCombined = false) :
    source.skipped order s = source.skipped order' s := by
  unfold Source.skipped
  rw [Rotation.mirrorsColumns_of_not_isCombined hr order']

/-- What **clipping to a strip** makes of a layer. -/
structure Source.ClipsTo (source : Source) (s : Strip) (clipped : Layer) : Prop where
  cuts : s.Cuts source.layer.dst clipped.dst
  rest : clipped =
    { source.layer with address := clipped.address, src := clipped.src, dst := clipped.dst }
  columns : source.layer.rotation.swapsAxes = false →
    clipped.src = { source.layer.src with x := clipped.src.x, w := clipped.dst.w } ∧
      ∃ n, source.Skips clipped n ∧ source.layout.columnGroup ∣ n ∧
        n + clipped.src.x.toNat = source.layer.src.x.toNat + source.skipped .flipFirst s
  rows : source.layer.rotation.swapsAxes = true →
    clipped.src = { source.layer.src with y := clipped.src.y, h := clipped.dst.w } ∧
      clipped.address = source.layer.address ∧
        clipped.src.y.toNat = source.layer.src.y.toNat + source.skipped .flipFirst s

/-- The columns of a shift that **addresses are moved by**: those of a linear source, as far as they
start every plane on a whole byte and a whole color sample. -/
def Source.wholeColumns (source : Source) (shift : Nat) : Nat :=
  if source.layer.arrangement = .linear then shift - shift % source.layout.columnAlign else 0

theorem Source.wholeColumns_le (source : Source) (shift : Nat) :
    source.wholeColumns shift ≤ shift := by
  unfold wholeColumns
  split
  · exact Nat.sub_le _ _
  · exact Nat.zero_le _

/-- The part of a shift that moves addresses is a multiple of the alignment. -/
theorem Source.columnAlign_dvd_wholeColumns (source : Source) (shift : Nat) :
    source.layout.columnAlign ∣ source.wholeColumns shift := by
  unfold wholeColumns
  split
  · exact Nat.dvd_sub_mod shift
  · exact Nat.dvd_zero _

/-- A shift by columns is **split without loss** between the addresses and the rectangle. -/
theorem Source.shiftColumns_eq_ok {source : Source} {layer moved : Layer} {shift width : UInt32}
    (h : source.shiftColumns layer shift width = .ok moved) :
    moved = { layer with
        address := moved.address, src := { layer.src with x := moved.src.x, w := width } } ∧
      (∀ p ∈ source.layout.planes, 8 * (moved.address.get p).toNat =
        8 * (layer.address.get p).toNat +
          source.wholeColumns shift.toNat * source.layout.planeBits p) ∧
      (∀ p, p ∉ source.layout.planes → moved.address.get p = layer.address.get p) ∧
      source.wholeColumns shift.toNat + moved.src.x.toNat =
        layer.src.x.toNat + shift.toNat := by
  obtain ⟨address, ha, h⟩ := Outcome.bind_eq_ok_iff.mp h
  obtain ⟨x, hx, h⟩ := Outcome.bind_eq_ok_iff.mp h
  cases h
  change moveAddresses (fun p => source.wholeColumns shift.toNat * source.layout.planeBits p / 8)
    _ _ = _ at ha
  change fit32 (layer.src.x.toNat + (shift.toNat - source.wholeColumns shift.toNat)) = _ at hx
  rw [fit32_eq_ok_iff] at hx
  refine ⟨rfl, fun p hp => ?_, fun p hp => get_moveAddresses_of_notMem ha hp, ?_⟩
  · have hwhole := source.layout.eight_dvd_mul_planeBits
      (source.columnAlign_dvd_wholeColumns shift.toNat) hp
    rw [toNat_get_moveAddresses ha source.layout.nodup_planes hp, Nat.mul_add,
      Nat.mul_div_cancel' hwhole]
  · have hle := source.wholeColumns_le shift.toNat
    show source.wholeColumns shift.toNat + x.toNat = layer.src.x.toNat + shift.toNat
    omega

/-- The addresses of a shifted source **skip a whole number of color samples**. -/
theorem Source.skips_of_shiftColumns {source : Source} {layer moved : Layer} {shift width : UInt32}
    (h : source.shiftColumns layer shift width = .ok moved)
    (haddr : layer.address = source.layer.address) :
    source.Skips moved (source.wholeColumns shift.toNat) ∧
      source.layout.columnGroup ∣ source.wholeColumns shift.toNat := by
  obtain ⟨-, hused, hunused, -⟩ := Source.shiftColumns_eq_ok h
  rw [haddr] at hused hunused
  refine ⟨⟨fun _ => hused, fun htiled => ?_, hunused⟩,
    source.layout.columnGroup_dvd_columnAlign.trans (source.columnAlign_dvd_wholeColumns _)⟩
  have hzero : source.wholeColumns shift.toNat = 0 := if_neg htiled
  refine ⟨hzero, Vector.ext fun i hi => ?_⟩
  show moved.address.get ⟨i, hi⟩ = source.layer.address.get ⟨i, hi⟩
  by_cases hp : ⟨i, hi⟩ ∈ source.layout.planes
  · have hkept := hused _ hp
    rw [hzero, Nat.zero_mul, Nat.add_zero] at hkept
    exact UInt64.toNat_inj.mp (Nat.eq_of_mul_eq_mul_left (by decide) hkept)
  · exact hunused _ hp

theorem Layer.shiftRows_eq_ok {layer moved : Layer} {shift height : UInt32}
    (h : layer.shiftRows shift height = .ok moved) :
    moved = { layer with src := { layer.src with y := moved.src.y, h := height } } ∧
      moved.src.y.toNat = layer.src.y.toNat + shift.toNat := by
  obtain ⟨y, hy, h⟩ := Outcome.bind_eq_ok_iff.mp h
  cases h
  exact ⟨rfl, fit32_eq_ok_iff.mp hy⟩

variable {source : Source} {s : Strip} {width : UInt32}

/-- Clipping a layer that reaches into the strip, with the end of the source and the axis that
the cut is made on told apart. -/
theorem Source.clip_of_overlap? {x0 x1 : UInt32} (h : s.overlap? source.layer.dst = some (x0, x1)) :
    source.clip s = some <$>
      let shift := if source.layer.rotation.mirrorsColumns .flipFirst
        then source.layer.dst.right - x1 else x0 - source.layer.dst.x
      let layer :=
        { source.layer with dst := { source.layer.dst with x := x0 - s.x, w := x1 - x0 } }
      if source.layer.rotation.swapsAxes then layer.shiftRows shift (x1 - x0)
      else source.shiftColumns layer shift (x1 - x0) := by
  simp only [Source.clip, h]
  cases source.layer.rotation <;> rfl

/-- Clipping shifts the source by **what is cut off where it is entered**. -/
theorem Source.toNat_shift {x0 x1 : UInt32} (hs : s.Within width)
    (hr : source.layer.dst.ColumnsFit) (h : s.overlap? source.layer.dst = some (x0, x1)) :
    (if source.layer.rotation.mirrorsColumns .flipFirst then source.layer.dst.right - x1
      else x0 - source.layer.dst.x).toNat = source.skipped .flipFirst s := by
  obtain ⟨-, hleft, hright⟩ := Strip.cuts_of_overlap? hs hr h
  unfold Source.skipped
  split
  · exact hright
  · exact hleft

/-- A layer is left out of a strip exactly when they share no column. -/
theorem Source.clip_eq_ok_none_iff (hs : s.Within width) (hr : source.layer.dst.ColumnsFit) :
    source.clip s = .ok none ↔ ∀ x, ¬ (s.Holds x ∧ source.layer.dst.HoldsColumn x) := by
  rw [← Strip.overlap?_eq_none_iff hs hr]
  cases h : s.overlap? source.layer.dst with
  | none =>
    refine iff_of_true ?_ rfl
    simp only [Source.clip, h]
  | some edges =>
    refine iff_of_false (fun hc => ?_) nofun
    rw [Source.clip_of_overlap? h] at hc
    obtain ⟨_, -, hnone⟩ := Outcome.map_eq_ok_iff.mp hc
    cases hnone

/-- **Clipping does what `ClipsTo` says.** -/
theorem Source.clipsTo_of_clip {clipped : Layer} (hs : s.Within width)
    (hr : source.layer.dst.ColumnsFit) (h : source.clip s = .ok (some clipped)) :
    source.ClipsTo s clipped := by
  cases ho : s.overlap? source.layer.dst with
  | none =>
    simp only [Source.clip, ho, Except.ok.injEq, reduceCtorEq] at h
  | some edges =>
    obtain ⟨x0, x1⟩ := edges
    obtain ⟨hcuts, -, -⟩ := Strip.cuts_of_overlap? hs hr ho
    have hskip := Source.toNat_shift hs hr ho
    rw [Source.clip_of_overlap? ho] at h
    obtain ⟨_, hshift, ⟨⟩⟩ := Outcome.map_eq_ok_iff.mp h
    dsimp only at hshift
    split at hshift
    case isTrue hswap =>
      obtain ⟨heq, hy⟩ := Layer.shiftRows_eq_ok hshift
      rw [hskip] at hy
      rw [heq]
      refine ⟨hcuts, rfl, fun hns => ?_, fun _ => ⟨rfl, rfl, hy⟩⟩
      rw [hswap] at hns
      cases hns
    case isFalse hswap =>
      obtain ⟨heq, -, -, hx⟩ := Source.shiftColumns_eq_ok hshift
      obtain ⟨hskips, hgroup⟩ := Source.skips_of_shiftColumns hshift rfl
      rw [hskip] at hx
      rw [hskip] at hskips hgroup
      refine ⟨?_, ?_, fun _ => ⟨?_, _, hskips, hgroup, hx⟩, fun hs => absurd hs hswap⟩
      · rw [heq]
        exact hcuts
      · rw [heq]
      · rw [heq]

theorem Source.ClipsTo.rotation_eq {clipped : Layer} (h : source.ClipsTo s clipped) :
    clipped.rotation = source.layer.rotation := by
  rw [h.rest]

/-- Clipping leaves **the addresses of a tiled source** alone, whatever end it is cut at. -/
theorem Source.ClipsTo.address_eq {clipped : Layer} (h : source.ClipsTo s clipped)
    (htiled : source.layer.arrangement ≠ .linear) : clipped.address = source.layer.address := by
  cases hr : source.layer.rotation.swapsAxes with
  | false =>
    obtain ⟨-, n, hskips, -⟩ := h.columns hr
    exact (hskips.tiled htiled).2
  | true => exact (h.rows hr).2.1

/-- The width of what a clipped layer fetches: cut for a layer that keeps its axes only. -/
theorem Source.ClipsTo.w_src_eq {clipped : Layer} (h : source.ClipsTo s clipped) :
    clipped.src.w =
      if source.layer.rotation.swapsAxes then source.layer.src.w else clipped.dst.w := by
  cases hr : source.layer.rotation.swapsAxes with
  | true => rw [(h.rows hr).1, if_pos rfl]
  | false => rw [(h.columns hr).1, if_neg Bool.false_ne_true]

end Blitter
