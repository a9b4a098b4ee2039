import Blitter.Proofs.Scaler
import Blitter.Proofs.Tile
import Blitter.ReadPipe

/-!
# What a read pipe is asked for

`Pipe.check_eq_ok_iff` says what a pipe has to be able to do for a source. A simple pipe, which can
do nothing but fetch, is asked for nothing else (`Pipe.plain_of_check`).
-/

namespace Blitter

/-- Turning a source makes it **no larger**. -/
theorem Layer.toNat_turnedSize_le {l : Layer} (h : l.src.Sized) :
    l.turnedSize.1.toNat ≤ 8192 ∧ l.turnedSize.2.toNat ≤ 8192 := by
  unfold Layer.turnedSize Rotation.size
  split
  · exact ⟨h.h_le, h.w_le⟩
  · exact ⟨h.w_le, h.h_le⟩

namespace Pipe

variable {p : Pipe} {s : Source}

theorem require_eq_ok_iff {what : Capability} {needed : Bool} :
    p.require what needed = .ok () ↔ (needed = true → p.kind.can what = true) := by
  unfold require
  cases needed <;> cases p.kind.can what <;> simp [reject_ne_ok]

/-- **What a pipe can fetch.** -/
theorem check_eq_ok_iff :
    p.check s = .ok () ↔ (s.layout.yuv = true → p.kind.can .yuv = true) ∧
      (s.fetch.isTiled = true → p.kind.can .tiled = true) ∧
      (s.layer.rotation ≠ .none → p.kind.can .rotate = true) ∧
      ((s.layer.scalesX || s.layer.scalesY) = true → p.kind.can .scale = true ∧
        Scaler.check s.layer.turnedSize.1 s.layer.dst.w = .ok () ∧
        Scaler.check s.layer.turnedSize.2 s.layer.dst.h = .ok ()) := by
  simp only [check, Outcome.seq_eq_ok_iff, require_eq_ok_iff, bne_iff_ne, ne_eq]
  refine and_congr_right fun _ => and_congr_right fun _ => and_congr_right fun _ => ?_
  split
  case isTrue h => simp only [h, forall_const, Outcome.seq_eq_ok_iff, require_eq_ok_iff]
  case isFalse h => exact iff_of_true rfl fun htrue => absurd htrue h

/-- A simple pipe fetches a source **as it lies in memory**. -/
theorem plain_of_check (h : p.check s = .ok ()) (hkind : p.kind = .simple) :
    s.fetch.isTiled = false ∧ s.layer.rotation = .none ∧ s.layer.scalesX = false ∧
      s.layer.scalesY = false := by
  obtain ⟨-, htiled, hrotation, hscales⟩ := check_eq_ok_iff.mp h
  rw [hkind] at htiled hrotation hscales
  have hunscaled : (s.layer.scalesX || s.layer.scalesY) = false :=
    Bool.eq_false_iff.mpr fun hs => Bool.false_ne_true (hscales hs).1
  refine ⟨Bool.eq_false_iff.mpr fun ht => Bool.false_ne_true (htiled ht), ?_,
    Bool.or_eq_false_iff.mp hunscaled⟩
  by_contra hr
  exact Bool.false_ne_true (hrotation hr)

end Pipe

end Blitter
