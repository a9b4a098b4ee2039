import Blitter.Proofs.Strip.Plan

/-!
# The strip that is the whole picture

Strips at least as wide as the picture cut it into one strip, which holds all of it. Nothing is cut
off a layer that lies in the picture, nothing is skipped of its source, and the strip starts where
the output does: the job of that strip is the composition as it was (`Strip.job_whole`).
-/

namespace Blitter

/-- The strip that holds **every column** of a picture. -/
def Strip.whole (width : UInt32) : Strip := { index := 0, x := 0, width }

theorem Strip.right_whole (width : UInt32) : (Strip.whole width).right = width :=
  UInt32.zero_add _

/-- Strips as wide as the picture **do not cut it**. -/
theorem stripsOf_eq_singleton {width stripWidth : UInt32} (hpos : 0 < width.toNat)
    (hle : width ≤ stripWidth) : stripsOf width stripWidth = [.whole width] := by
  have hstep : width.toNat ≤ stripStep stripWidth :=
    (UInt32.le_iff_toNat_le.mp hle).trans (Nat.le_max_left _ _)
  have hlength : (stripsOf width stripWidth).length = 1 := by
    rw [length_stripsOf]
    exact Nat.div_eq_of_lt_le (by omega) (by omega)
  refine List.ext_getElem hlength fun i hi hone => ?_
  obtain rfl : i = 0 := Nat.lt_one_iff.mp hone
  rw [getElem_stripsOf hi, List.getElem_singleton, Nat.zero_mul, Nat.sub_zero,
    Nat.min_eq_right hstep, UInt32.ofNat_toNat]
  rfl

/-- Addresses that are moved by nothing **stay**. -/
theorem moveAddresses_eq_self {offset : Fin 3 → Nat} {planes : List (Fin 3)}
    {address : Vector UInt64 3} (h : ∀ p, offset p = 0) :
    moveAddresses offset planes address = .ok address := by
  induction planes with
  | nil => rfl
  | cons p planes ih =>
    have hfit : fit64 ((address.get p).toNat + offset p) = .ok (address.get p) := by
      rw [h, fit64_eq_ok_iff, Nat.add_zero]
    have hset : address.set p (address.get p) = address := Vector.set_getElem_self p.isLt
    refine Outcome.bind_eq_ok_iff.mpr ⟨_, hfit, ?_⟩
    rw [hset]
    exact ih

/-! ### Layers -/

/-- A shift by no columns that keeps the width **changes nothing**. -/
theorem Source.shiftColumns_zero {source : Source} {layer : Layer} {width : UInt32}
    (hw : width = layer.src.w) : source.shiftColumns layer 0 width = .ok layer := by
  subst hw
  have hmoved : source.wholeColumns (0 : UInt32).toNat = 0 :=
    Nat.le_zero.mp (source.wholeColumns_le 0)
  unfold Source.wholeColumns at hmoved
  have hx : fit32 (layer.src.x.toNat + ((0 : UInt32).toNat - 0)) = .ok layer.src.x :=
    fit32_eq_ok_iff.mpr rfl
  simp only [Source.shiftColumns, hmoved, hx]
  refine Outcome.bind_eq_ok_iff.mpr ⟨_, moveAddresses_eq_self fun p => ?_, rfl⟩
  rw [Nat.zero_mul, Nat.zero_div]

/-- A shift by no rows that keeps the height changes nothing. -/
theorem Layer.shiftRows_zero {layer : Layer} {height : UInt32} (hh : height = layer.src.h) :
    layer.shiftRows 0 height = .ok layer := by
  subst hh
  exact Outcome.bind_eq_ok_iff.mpr ⟨layer.src.y, fit32_eq_ok_iff.mpr rfl, rfl⟩

/-- A rectangle in the picture **is its own overlap** with the whole strip. -/
theorem Strip.overlap?_whole {width : UInt32} {r : Rect} (hpos : 0 < r.w.toNat)
    (hfit : r.x.toNat + r.w.toNat ≤ width.toNat) :
    (Strip.whole width).overlap? r = some (r.x, r.right) := by
  have hwidth := width.toNat_lt
  have hcolumns : r.ColumnsFit := by
    unfold Rect.ColumnsFit
    omega
  have hright := hcolumns.toNat_right
  have hlt : r.x < r.right := by
    rw [UInt32.lt_iff_toNat_lt]
    omega
  have hx : max r.x (Strip.whole width).x = r.x := by
    rw [← UInt32.toNat_inj, UInt32.toNat_max]
    exact Nat.max_eq_left (Nat.zero_le _)
  have hmin : min r.right (Strip.whole width).right = r.right := by
    rw [← UInt32.toNat_inj, UInt32.toNat_min, right_whole]
    omega
  rw [overlap?, hx, hmin, if_pos hlt]

/-- **A layer in the picture is kept as it is** by the whole strip, if it is not stretched
across. -/
theorem Source.clip_whole {source : Source} {width : UInt32}
    (hscale : source.layer.scalesX = false) (hpos : 0 < source.layer.dst.w.toNat)
    (hfit : source.layer.dst.x.toNat + source.layer.dst.w.toNat ≤ width.toNat) :
    source.clip (.whole width) = .ok (some source.layer) := by
  have hwidth := width.toNat_lt
  have hcolumns : source.layer.dst.ColumnsFit := by
    unfold Rect.ColumnsFit
    omega
  have hw : source.layer.dst.right - source.layer.dst.x = source.layer.dst.w := by
    have hle : source.layer.dst.x ≤ source.layer.dst.right := by
      rw [UInt32.le_iff_toNat_le, hcolumns.toNat_right]
      exact Nat.le_add_right _ _
    rw [← UInt32.toNat_inj, UInt32.toNat_sub_of_le _ _ hle, hcolumns.toNat_right,
      Nat.add_sub_cancel_left]
  have hx : source.layer.dst.x - (Strip.whole width).x = source.layer.dst.x := UInt32.sub_zero _
  -- the cut is at neither end, whichever the source is entered at
  have hshift : (if source.layer.rotation.mirrorsColumns .flipFirst
      then source.layer.dst.right - source.layer.dst.right
      else source.layer.dst.x - source.layer.dst.x) = 0 := by
    split <;> exact UInt32.sub_self _
  have hturned : source.layer.turnedSize.1 = source.layer.dst.w := by
    simpa [Layer.scalesX] using hscale
  rw [Source.clip_of_overlap? (Strip.overlap?_whole hpos hfit), Outcome.map_eq_ok_iff]
  refine ⟨source.layer, ?_, rfl⟩
  simp only [hshift, hw, hx]
  cases hr : source.layer.rotation.swapsAxes with
  | true =>
    rw [Layer.turnedSize, Rotation.size, hr, if_pos rfl] at hturned
    rw [if_pos rfl]
    exact Layer.shiftRows_zero hturned.symm
  | false =>
    rw [Layer.turnedSize, Rotation.size, hr, if_neg Bool.false_ne_true] at hturned
    rw [if_neg Bool.false_ne_true]
    exact Source.shiftColumns_zero hturned.symm

/-! ### Outputs -/

/-- The whole strip starts **where the output does**, whatever the rotation. -/
theorem Output.stripStart_whole (o : Output) : o.stripStart (.whole o.width) = 0 := by
  unfold Output.stripStart
  rw [Strip.right_whole]
  split
  · exact UInt32.sub_self _
  · rfl

/-- The whole strip **writes the whole output**. -/
theorem Target.strip_whole (t : Target) : t.strip (.whole t.output.width) = .ok t.output := by
  have hstart := t.output.stripStart_whole
  have hoffset : ∀ p, t.stripOffset (.whole t.output.width) p = 0 := by
    intro p
    simp [Target.stripOffset, hstart]
  rw [Target.strip, ite_rejectGeometry_eq_ok_iff, Outcome.bind_eq_ok_iff]
  refine ⟨?_, _, moveAddresses_eq_self hoffset, rfl⟩
  rw [hstart, not_not]
  exact Nat.zero_mod _

/-- The job of the whole strip is **the composition as it was**. -/
theorem Strip.job_whole {sources : List Source} {target : Target}
    (hclip : ∀ source ∈ sources,
      source.clip (.whole target.output.width) = .ok (some source.layer)) :
    (Strip.whole target.output.width).job sources target = .ok
      { strip := .whole target.output.width, layers := sources.map Source.layer
        output := target.output } := by
  refine Strip.job_eq_ok_iff.mpr
    ⟨rfl, target.strip_whole, sources.map fun s => some s.layer, ?_, ?_⟩
  · refine Outcome.mapM_eq_ok_iff.mpr (List.forall₂_map_right_iff.mpr ?_)
    exact List.forall₂_same.mpr hclip
  · rw [List.filterMap_map]
    exact (congrFun List.filterMap_eq_map sources).symm

end Blitter
