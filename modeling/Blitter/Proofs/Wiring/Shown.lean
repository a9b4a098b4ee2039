import Blitter.Proofs.Frame
import Blitter.Proofs.Register.Setting
import Blitter.Proofs.Wiring.Stack

/-!
# What a stack shows

The program of a stack is read back layer by layer (`Wiring.shows_of_carries`). Sub-frames take a
layer's own data, but two things are spread over the path: the depth of a layer is the slot that
names its pipe, and a part of its blending stands in the slot above the pipe. Both are found again
since no two layers share a pipe or a depth.
-/

namespace Blitter

open Compiler (Apart)

namespace Wiring

variable {rf : RegisterFile} {l : Layer} {n : Nat}

section Subframe

variable (h : rf.Carries (subframeWrites n (.ofLayer l)))
include h

theorem subframeWord_control : rf.subframeWord n Register.subframeControl =
    (Subframe.ofLayer l).control :=
  h _ _ (List.mem_append_right _ (List.mem_singleton_self _))

theorem subframeWord_of_mem_place {reg : Nat} {value : UInt32}
    (hw : put (Register.subframe n reg) value ∈
      [ put (Register.subframe n Register.subframePosition) (packPosition l.dst.x l.dst.y),
        put (Register.subframe n Register.subframeSize) (packSize l.dst.w l.dst.h),
        put (Register.subframe n Register.subframeAlpha) l.alpha.toUInt32 ]) :
    rf.subframeWord n reg = value := by
  refine h _ _ ?_
  rw [subframeWrites, if_pos (Subframe.isEnabled_ofLayer l)]
  exact List.mem_append_left _ (List.mem_append_left _ hw)

theorem destination_of_carries (hd : l.dst.Sized) (hx : l.dst.x.toNat < 65536)
    (hy : l.dst.y.toNat < 65536) : rf.destination n = l.dst := by
  have hposition := subframeWord_of_mem_place h List.mem_cons_self
  have hsize := subframeWord_of_mem_place h (List.mem_cons_of_mem _ List.mem_cons_self)
  obtain ⟨hwpos, hhpos, hwle, hhle⟩ := hd
  rw [RegisterFile.destination, hposition, hsize]
  exact Rect.ofWords_pack hx hy ⟨hwpos, by omega⟩ ⟨hhpos, by omega⟩

theorem colorKey_of_carries : rf.colorKey n = l.colorKey := by
  have hkeyed := Subframe.IsWired.control_and_colorKey (.inr ⟨l, rfl⟩) (Subframe.isEnabled_ofLayer l)
  rw [RegisterFile.colorKey, subframeWord_control h]
  cases hkey : l.colorKey with
  | none =>
    have hoff : (Subframe.ofLayer l).colorKey.isSome = false := congrArg Option.isSome hkey
    rw [hoff] at hkeyed
    rw [if_pos (bne_eq_false_iff_eq.mp hkeyed)]
  | some key =>
    have hon : (Subframe.ofLayer l).colorKey = some key := hkey
    have hword {reg : Nat} {value : UInt32}
        (hw : put (Register.subframe n reg) value ∈
          [ put (Register.subframe n Register.subframeKeyMin) key.min,
            put (Register.subframe n Register.subframeKeyMax) key.max ]) :
        rf.subframeWord n reg = value := by
      refine h _ _ ?_
      rw [subframeWrites, if_pos (Subframe.isEnabled_ofLayer l), hon]
      exact List.mem_append_left _ (List.mem_append_right _ hw)
    have hmin := hword List.mem_cons_self
    have hmax := hword (List.mem_cons_of_mem _ List.mem_cons_self)
    rw [hon] at hkeyed
    rw [if_neg (bne_iff_ne.mp hkeyed), hmin, hmax]

end Subframe

/-! ### The whole stack -/

section Stack

variable {layers : List Layer} {background : Option UInt32} {porterDuff : Option PorterDuff}
  {width height : UInt32}
  (h : rf.Carries { stack layers background width height with porterDuff }.writes)
include h

theorem carries_subframeWrites (hn : n < subframeCount) :
    rf.Carries (subframeWrites n (Subframe.of (layerOn layers n))) := by
  refine h.mono fun w hw => mem_writes_of_mem_subframeWrites ?_ hw
  refine List.getElem?_eq_some_iff.mpr ⟨Vector.length_toList.symm ▸ hn, ?_⟩
  rw [Vector.getElem_toList, stack, Vector.getElem_ofFn]

theorem read_pathSlot {z : Nat} (hz : z < slotCount) :
    rf.read (Register.pathSlot z) = slotWord layers z := by
  refine h _ _ (put_pathSlot_mem_writes ?_)
  refine List.getElem?_eq_some_iff.mpr ⟨Vector.length_toList.symm ▸ hz, ?_⟩
  rw [Vector.getElem_toList, stack, Vector.getElem_ofFn]

/-- A pipe without a layer is **not shown**. -/
theorem subframeWord_and_enable_of_carries (hn : n < subframeCount)
    (hfree : ∀ l ∈ layers, l.pipe.toNat ≠ n) :
    rf.subframeWord n Register.subframeControl &&& Register.subframeEnable = 0 := by
  have hnone : layerOn layers n = none :=
    List.find?_eq_none.mpr fun l hl heq => hfree l hl (beq_iff_eq.mp heq)
  have hoff := carries_subframeWrites h hn
  rw [hnone] at hoff
  have hcontrol : rf.subframeWord n Register.subframeControl = 0 :=
    hoff _ _ (List.mem_append_right _ (List.mem_singleton_self _))
  rw [hcontrol]
  rfl

variable (hapart : layers.Pairwise Apart)
  (hplaces : ∀ l ∈ layers, l.pipe.toNat < subframeCount ∧ l.depth.toNat < slotCount)
  (hl : l ∈ layers)
include hapart hplaces hl

/-- The slot above a layer's pipe has **the layer's part in the blending**. -/
theorem decode_pathSlot_above :
    Register.pathBlend.decode (rf.read (Register.pathSlot (l.pipe.toNat + 1))) =
        l.pipe.toUInt32 ∧
      (rf.read (Register.pathSlot (l.pipe.toNat + 1)) &&& Register.pathPremultiplied != 0) =
        (l.blend == .premultiplied) := by
  obtain ⟨hp, -⟩ := hplaces l hl
  have hbelow : layerBelow layers (l.pipe.toNat + 1) = some l :=
    (layerOn_eq_some_iff hapart).mpr ⟨hl, rfl⟩
  rw [read_pathSlot h (Nat.succ_lt_succ hp), slotWord, hbelow]
  obtain ⟨-, hblend, hpremultiplied⟩ := decode_pathWord
    (pipeIndex (layerAt layers (l.pipe.toNat + 1))) (pipeIndex (some l))
    ((some l).any fun l => l.blend = .premultiplied)
  exact ⟨hblend.trans (ofNat_pipeIndex hp), hpremultiplied⟩

/-- Of all slots, the one at a layer's depth **names its pipe**. -/
theorem decode_pathSlot_iff {z : Nat} (hz : z < slotCount) :
    Register.pathLayer.decode (rf.read (Register.pathSlot z)) = l.pipe.toUInt32 ↔
      z = l.depth.toNat := by
  obtain ⟨hp, -⟩ := hplaces l hl
  obtain ⟨hlayer, -, -⟩ := decode_pathWord (pipeIndex (layerAt layers z))
    (pipeIndex (layerBelow layers z)) ((layerBelow layers z).any fun l => l.blend = .premultiplied)
  rw [read_pathSlot h hz, slotWord, hlayer]
  constructor
  · intro hpipe
    cases hat : layerAt layers z with
    | none =>
      -- the index of a free slot is no pipe's
      rw [hat] at hpipe
      have hseven : l.pipe.toNat = 7 := by
        rw [← UInt8.toNat_toUInt32, ← hpipe]
        rfl
      exact absurd hp (by rw [hseven]; decide)
    | some k =>
      obtain ⟨hk, hdepth⟩ := (layerAt_eq_some_iff hapart).mp hat
      rw [hat, ofNat_pipeIndex (hplaces k hk).1] at hpipe
      have hkl : k.pipe.toNat = l.pipe.toNat := by
        rw [← UInt8.toNat_toUInt32, hpipe, UInt8.toNat_toUInt32]
      have hfound := (layerOn_eq_some_iff hapart).mpr ⟨hk, hkl⟩
      rw [(layerOn_eq_some_iff hapart).mpr ⟨hl, rfl⟩] at hfound
      rw [Option.some.inj hfound]
      exact hdepth.symm
  · rintro rfl
    rw [(layerAt_eq_some_iff hapart).mpr ⟨hl, rfl⟩, ofNat_pipeIndex hp]

/-- **A stack shows its layers.** -/
theorem shows_of_carries (hd : l.dst.Sized) (hx : l.dst.x.toNat < 65536)
    (hy : l.dst.y.toNat < 65536) : rf.Shows l := by
  obtain ⟨hp, hdepth⟩ := hplaces l hl
  have hsubframe := carries_subframeWrites h hp
  rw [(layerOn_eq_some_iff hapart).mpr ⟨hl, rfl⟩] at hsubframe
  obtain ⟨hblended, hpremultiplied⟩ := decode_pathSlot_above h hapart hplaces hl
  exact
    { enabled := by
        rw [subframeWord_control hsubframe]
        exact bne_iff_ne.mp (Subframe.isEnabled_ofLayer l)
      destination := destination_of_carries hsubframe hd hx hy
      alpha := subframeWord_of_mem_place hsubframe (by simp)
      blend := by
        have hglobal := (Subframe.control_ofLayer l.blend l.colorKey.isSome).2.1
        rw [RegisterFile.blend, hpremultiplied, subframeWord_control hsubframe]
        unfold Subframe.ofLayer
        dsimp only
        rw [hglobal]
        cases l.blend <;> rfl
      blended := hblended
      colorKey := colorKey_of_carries hsubframe
      depth_lt := hdepth
      depth := fun z hz => decode_pathSlot_iff h hapart hplaces hl hz }

end Stack

end Wiring

end Blitter
