import Blitter.Proofs.Compiler.Admission
import Blitter.Proofs.ReadPipe
import Blitter.Proofs.Strip.Plan

/-!
# Clipped layers are admitted

A layer that was admitted to a picture is not checked again when it has been clipped to a strip.
It does not have to be: what clipping leaves of it, looked up anew, is `Admitted` to the strip's
part of the picture (`Admitted.clipped`). Clipping never leaves the source rectangle, so that the
rectangles still fit, and what the pipe is asked for is what it was asked for before: the format,
the arrangement and the rotation are the same, and so is the scaling down the picture.
-/

namespace Blitter

namespace Source.ClipsTo

variable {source : Source} {s : Strip} {l : Layer} (h : source.ClipsTo s l)
include h

theorem pipe_eq : l.pipe = source.layer.pipe := by rw [h.rest]

theorem depth_eq : l.depth = source.layer.depth := by rw [h.rest]

theorem enabled_eq : l.enabled = source.layer.enabled := by rw [h.rest]

theorem format_eq : l.format = source.layer.format := by rw [h.rest]

theorem arrangement_eq : l.arrangement = source.layer.arrangement := by rw [h.rest]

theorem y_dst_eq : l.dst.y = source.layer.dst.y := by rw [h.cuts.rest]

theorem h_dst_eq : l.dst.h = source.layer.dst.h := by rw [h.cuts.rest]

/-- Across, a clipped layer is as wide as its destination; down, it is as high as it was. -/
theorem turnedSize_eq : l.turnedSize = (l.dst.w, source.layer.turnedSize.2) := by
  unfold Layer.turnedSize Rotation.size
  rw [h.rotation_eq]
  cases hr : source.layer.rotation.swapsAxes with
  | false =>
    obtain ⟨hsrc, -⟩ := h.columns hr
    rw [hsrc]
    rfl
  | true =>
    obtain ⟨hsrc, -⟩ := h.rows hr
    rw [hsrc]
    rfl

theorem scalesX_eq : l.scalesX = false := by
  rw [Layer.scalesX, h.turnedSize_eq]
  exact bne_self_eq_false _

theorem scalesY_eq : l.scalesY = source.layer.scalesY := by
  rw [Layer.scalesY, Layer.scalesY, h.turnedSize_eq, h.h_dst_eq]

/-- Columns and rows of the source that are cut off are **part of the source**. -/
theorem skipped_add_le (order : FlipOrder) :
    source.skipped order s + l.dst.w.toNat ≤ source.layer.dst.w.toNat := by
  have hwidth := h.cuts.width
  unfold Source.skipped
  split <;> omega

/-- What is fetched of a layer that is not stretched across **lies inside what the source
fetches**, with the columns counted in that the addresses were moved by. -/
theorem inside (hscale : source.layer.scalesX = false) :
    ∃ n, source.Skips l n ∧ source.layer.src.x.toNat ≤ n + l.src.x.toNat ∧
      n + l.src.x.toNat + l.src.w.toNat ≤ source.layer.src.x.toNat + source.layer.src.w.toNat ∧
      source.layer.src.y.toNat ≤ l.src.y.toNat ∧
      l.src.y.toNat + l.src.h.toNat ≤ source.layer.src.y.toNat + source.layer.src.h.toNat := by
  have hturned := Layer.toNat_w_dst_of_scalesX hscale
  have hskipped := h.skipped_add_le .flipFirst
  cases hr : source.layer.rotation.swapsAxes with
  | false =>
    obtain ⟨heq, n, hskips, -, hn⟩ := h.columns hr
    rw [hr, if_neg Bool.false_ne_true] at hturned
    have hw : l.src.w.toNat = l.dst.w.toNat := by rw [heq]
    have hy : l.src.y.toNat = source.layer.src.y.toNat := by rw [heq]
    have hh : l.src.h.toNat = source.layer.src.h.toNat := by rw [heq]
    exact ⟨n, hskips, by omega, by omega, by omega, by omega⟩
  | true =>
    obtain ⟨heq, haddress, hn⟩ := h.rows hr
    rw [hr, if_pos rfl] at hturned
    have hh : l.src.h.toNat = l.dst.w.toNat := by rw [heq]
    have hx : l.src.x.toNat = source.layer.src.x.toNat := by rw [heq]
    have hw : l.src.w.toNat = source.layer.src.w.toNat := by rw [heq]
    exact ⟨0, Source.skips_zero haddress, by omega, by omega, by omega, by omega⟩

/-- Clipping never leaves a layer without a pixel to fetch. -/
theorem src_pos (hsrc : source.layer.src.Sized) : 0 < l.src.w.toNat ∧ 0 < l.src.h.toNat := by
  have hpos := h.cuts.nonempty
  cases hr : source.layer.rotation.swapsAxes with
  | false =>
    rw [(h.columns hr).1]
    exact ⟨hpos, hsrc.h_pos⟩
  | true =>
    rw [(h.rows hr).1]
    exact ⟨hsrc.w_pos, hpos⟩

end Source.ClipsTo

namespace Compiler

variable {c : Compiler} {width height : UInt32} {source : Source}

/-- The rectangles of a clipped layer **fit the strip**. -/
theorem RectsFit.clipped {s : Strip} {l : Layer} (h : RectsFit width height source.layer)
    (hscale : source.layer.scalesX = false) (hl : source.ClipsTo s l) :
    RectsFit s.width height l := by
  have hwidth := hl.cuts.width
  have hpos := hl.cuts.nonempty
  have horigin := hl.cuts.origin
  obtain ⟨n, -, -, hright, -, hbottom⟩ := hl.inside hscale
  obtain ⟨hw, hh⟩ := hl.src_pos h.src
  have hsrc_right := h.src_right
  have hsrc_bottom := h.src_bottom
  have hdst := h.dst
  have hdbottom := h.dst_bottom
  have hdy := hl.y_dst_eq
  have hdh := hl.h_dst_eq
  exact
    { src := ⟨hw, hh, by omega, by omega⟩
      dst := ⟨hpos, hdh ▸ hdst.h_pos, by have := hdst.w_le; omega, hdh ▸ hdst.h_le⟩
      src_right := by omega
      src_bottom := by omega
      dst_right := by
        unfold Strip.cutLeft at *
        unfold Strip.cutRight at hwidth
        omega
      dst_bottom := by rw [hdy, hdh]; exact hdbottom }

/-- **What clipping leaves of an admitted layer is admitted to the strip.** -/
theorem Admitted.clipped {s : Strip} {l : Layer} (h : c.Admitted width height source)
    (hscale : source.layer.scalesX = false) (hl : source.ClipsTo s l) {clipped : Source}
    (hfound : Source.ofLayer l = .ok clipped) : c.Admitted s.width height clipped := by
  obtain ⟨rfl, hlayout, hfetch⟩ := Source.ofLayer_eq_ok_iff.mp hfound
  obtain ⟨-, hlayout', hfetch'⟩ := Source.ofLayer_eq_ok_iff.mp h.found
  have hfits := h.fits.clipped hscale hl
  obtain ⟨pipe, hpipe, hcheck⟩ := h.fetched
  refine ⟨hfits, hfound, pipe, ?_, ?_⟩
  · rw [hl.pipe_eq]
    exact hpipe
  · rw [hl.format_eq] at hlayout hfetch
    rw [hl.arrangement_eq] at hfetch
    have hsame : clipped.layout = source.layout := Outcome.eq_of_eq_ok hlayout hlayout'
    have htiled : clipped.fetch.isTiled = source.fetch.isTiled := by
      rw [TileFetch.isTiled_of_resolve hfetch, TileFetch.isTiled_of_resolve hfetch']
    obtain ⟨hyuv, htile, hrotate, hscaled⟩ := Pipe.check_eq_ok_iff.mp hcheck
    rw [Pipe.check_eq_ok_iff, hsame, htiled, hl.rotation_eq, hl.scalesX_eq, hl.scalesY_eq,
      hl.turnedSize_eq, hl.h_dst_eq]
    refine ⟨hyuv, htile, hrotate, fun hy => ?_⟩
    rw [Bool.false_or] at hy
    obtain ⟨hcan, -, hdown⟩ := hscaled (Bool.or_eq_true_iff.mpr (.inr hy))
    exact ⟨hcan, Scaler.check_self hfits.dst.w_pos hfits.dst.w_le, hdown⟩

end Compiler

end Blitter
