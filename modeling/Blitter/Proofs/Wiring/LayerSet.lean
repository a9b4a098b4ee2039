import Blitter.Proofs.Wiring.Stack

/-!
# The wiring of a set of layers

Enabled layers that share neither pipe nor depth are wired up if each has a place in the compositor
and the operator's two pipes are among theirs (`Wiring.exists_ofLayers_iff_and_isLayerSet`). What
the compositor then holds is read off the layers alone: which pipe a slot of the path names, which
blending it sets, and which sub-frames are switched on (`Wiring.IsLayerSet`). Layers that are not
enabled count for nothing, wherever they stand in the list.
-/

namespace Blitter

open Compiler (Apart)

/-- The bits of a path word that **mean something**. -/
def Register.pathBits : UInt32 :=
  pathLayer.encode pathLayer.max ||| pathBlend.encode pathBlend.max ||| pathPremultiplied

theorem pathWord_and_not_pathBits (layer blend : Fin 8) (premultiplied : Bool) :
    pathWord layer blend premultiplied &&& ~~~Register.pathBits = 0 := by
  revert layer blend premultiplied
  decide +kernel

/-! ### Indices of pipes -/

/-- The index is the pipe of **the enabled layer that has the property**, or the unused index 7 if
no enabled layer has it. -/
def Names (layers : List Layer) (property : Layer → Prop) (index : UInt32) : Prop :=
  (∃ l ∈ layers, l.enabled = true ∧ property l ∧ index = l.pipe.toUInt32) ∨
    (∀ l ∈ layers, l.enabled = true → ¬ property l) ∧ index = 7

section Names

variable {layers : List Layer} {property : Layer → Prop} {found : Option Layer}

/-- A layer that is looked for among the enabled ones is **named by its index**. -/
theorem names_pipeIndex
    (hplaces : ∀ l ∈ layers, l.enabled = true →
      l.pipe.toNat < subframeCount ∧ l.depth.toNat < slotCount)
    (hfound : ∀ l, found = some l ↔ l ∈ layers.filter Layer.enabled ∧ property l) :
    Names layers property (UInt32.ofNat (pipeIndex found)) := by
  cases found with
  | none =>
    refine .inr ⟨fun l hl henabled hproperty => ?_, rfl⟩
    cases (hfound l).mpr ⟨List.mem_filter.mpr ⟨hl, henabled⟩, hproperty⟩
  | some l =>
    obtain ⟨hmem, hproperty⟩ := (hfound l).mp rfl
    obtain ⟨hl, henabled⟩ := List.mem_filter.mp hmem
    exact .inl ⟨l, hl, henabled, hproperty, ofNat_pipeIndex (hplaces l hl henabled).1⟩

/-- What holds of a layer that is looked for holds of **some enabled layer**. -/
theorem any_eq_true_iff
    (hfound : ∀ l, found = some l ↔ l ∈ layers.filter Layer.enabled ∧ property l)
    (test : Layer → Bool) :
    found.any test = true ↔
      ∃ l ∈ layers, l.enabled = true ∧ property l ∧ test l = true := by
  rw [Option.any_eq_true]
  constructor
  · rintro ⟨l, hl, htest⟩
    obtain ⟨hmem, hproperty⟩ := (hfound l).mp hl
    obtain ⟨hl, henabled⟩ := List.mem_filter.mp hmem
    exact ⟨l, hl, henabled, hproperty, htest⟩
  · rintro ⟨l, hl, henabled, hproperty, htest⟩
    exact ⟨l, (hfound l).mpr ⟨List.mem_filter.mpr ⟨hl, henabled⟩, hproperty⟩, htest⟩

end Names

/-! ### Sub-frames -/

namespace Subframe

/-- What the control word of a sub-frame tells about **the layer it may have**. -/
theorem control_of (found : Option Layer) :
    (Subframe.of found).isEnabled = found.isSome ∧
      ((Subframe.of found).control &&& Register.subframeGlobalAlpha != 0) =
        found.any (·.blend == .none) ∧
      ((Subframe.of found).control &&& Register.subframeColorKey != 0) =
        found.any (·.colorKey.isSome) := by
  cases found with
  | none => decide
  | some l => exact control_ofLayer l.blend l.colorKey.isSome

end Subframe

namespace Wiring

/-- The compositor is wired up for **exactly these layers**, as far as they are enabled. -/
structure IsLayerSet (w : Wiring) (layers : List Layer) : Prop where
  /-- A slot names the layer of its depth. -/
  layer : ∀ z : Fin slotCount,
    Names layers (fun l => l.depth.toNat = z) (Register.pathLayer.decode (w.path.get z))
  /-- A slot sets the blending of the layer on the pipe below its own number. -/
  blend : ∀ z : Fin slotCount,
    Names layers (fun l => l.pipe.toNat + 1 = z) (Register.pathBlend.decode (w.path.get z))
  premultiplied : ∀ z : Fin slotCount, (w.path.get z) &&& Register.pathPremultiplied ≠ 0 ↔
    ∃ l ∈ layers, l.enabled = true ∧ l.pipe.toNat + 1 = z ∧ l.blend = .premultiplied
  /-- The slot of the background sets no blending. -/
  bottom : Register.pathBlend.decode w.path[0] = 7 ∧
    w.path[0] &&& Register.pathPremultiplied = 0
  /-- All other bits of the path are zero. -/
  other : ∀ z : Fin slotCount, (w.path.get z) &&& ~~~Register.pathBits = 0
  enabled : ∀ n : Fin subframeCount, (w.subframes.get n).isEnabled = true ↔
    ∃ l ∈ layers, l.enabled = true ∧ l.pipe.toNat = n
  globalAlpha : ∀ n : Fin subframeCount,
    (w.subframes.get n).control &&& Register.subframeGlobalAlpha ≠ 0 ↔
      ∃ l ∈ layers, l.enabled = true ∧ l.pipe.toNat = n ∧ l.blend = .none
  colorKey : ∀ n : Fin subframeCount,
    (w.subframes.get n).control &&& Register.subframeColorKey ≠ 0 ↔
      ∃ l ∈ layers, l.enabled = true ∧ l.pipe.toNat = n ∧ l.colorKey.isSome = true

variable {layers : List Layer} {background : Option UInt32} {porterDuff : Option PorterDuff}
  {width height : UInt32} {w : Wiring}

/-- Layers that are not enabled **count for nothing**. -/
theorem ofLayers_filter_enabled :
    ofLayers (layers.filter Layer.enabled) background porterDuff width height =
      ofLayers layers background porterDuff width height := by
  unfold ofLayers
  rw [List.filter_filter]
  simp only [Bool.and_self]

section Apart

variable (h : (layers.filter Layer.enabled).Pairwise Apart)
include h

/-- **What wiring asks for and makes**, if no two enabled layers share a pipe or a depth. -/
theorem ofLayers_eq_ok_iff_stack :
    ofLayers layers background porterDuff width height = .ok w ↔
      (∀ l ∈ layers, l.enabled = true →
          l.pipe.toNat < subframeCount ∧ l.depth.toNat < slotCount) ∧
        (∀ pd ∈ porterDuff, (∃ l ∈ layers, l.enabled = true ∧ l.pipe = pd.srcPipe) ∧
          ∃ l ∈ layers, l.enabled = true ∧ l.pipe = pd.dstPipe) ∧
        w = { stack (layers.filter Layer.enabled) background width height with porterDuff } := by
  rw [← ofLayers_filter_enabled,
    ofLayers_eq_ok_iff_of_apart h fun l hl => (List.mem_filter.mp hl).2]
  simp only [List.mem_filter, and_imp, and_assoc]

theorem layerBelow_eq_some_iff (z : Nat) (l : Layer) :
    layerBelow (layers.filter Layer.enabled) z = some l ↔
      l ∈ layers.filter Layer.enabled ∧ l.pipe.toNat + 1 = z := by
  cases z with
  | zero => exact iff_of_false nofun fun hl => Nat.succ_ne_zero _ hl.2
  | succ n =>
    rw [Nat.add_right_cancel_iff]
    exact layerOn_eq_some_iff h

/-- A stack is wired up for its layers. -/
theorem isLayerSet_stack
    (hplaces : ∀ l ∈ layers, l.enabled = true →
      l.pipe.toNat < subframeCount ∧ l.depth.toNat < slotCount) :
    IsLayerSet { stack (layers.filter Layer.enabled) background width height with porterDuff }
      layers := by
  have hpath (z : Fin slotCount) :
      (stack (layers.filter Layer.enabled) background width height).path.get z =
        slotWord (layers.filter Layer.enabled) z :=
    Vector.getElem_ofFn _
  have hsubframe (n : Fin subframeCount) :
      (stack (layers.filter Layer.enabled) background width height).subframes.get n =
        Subframe.of (layerOn (layers.filter Layer.enabled) n) :=
    Vector.getElem_ofFn _
  have hon (n : Nat) (l : Layer) := layerOn_eq_some_iff (l := l) (n := n) h
  have hat (n : Nat) (l : Layer) := layerAt_eq_some_iff (l := l) (n := n) h
  have hbelow := layerBelow_eq_some_iff h
  have hword (z : Fin slotCount) := decode_pathWord
    (pipeIndex (layerAt (layers.filter Layer.enabled) z))
    (pipeIndex (layerBelow (layers.filter Layer.enabled) z))
    ((layerBelow (layers.filter Layer.enabled) z).any fun l => l.blend = .premultiplied)
  constructor
  case layer =>
    intro z
    rw [hpath, slotWord, (hword z).1]
    exact names_pipeIndex hplaces (hat z)
  case blend =>
    intro z
    rw [hpath, slotWord, (hword z).2.1]
    exact names_pipeIndex hplaces (hbelow z)
  case premultiplied =>
    intro z
    rw [hpath, slotWord, ← bne_iff_ne, (hword z).2.2, any_eq_true_iff (hbelow z)]
    simp only [decide_eq_true_eq]
  case bottom =>
    have hslot := hpath ⟨0, by decide⟩
    obtain ⟨-, hblend, hbit⟩ := hword ⟨0, by decide⟩
    refine ⟨(congrArg Register.pathBlend.decode hslot).trans hblend, ?_⟩
    exact (congrArg (· &&& Register.pathPremultiplied) hslot).trans (bne_eq_false_iff_eq.mp hbit)
  case other =>
    intro z
    rw [hpath, slotWord, pathWord_and_not_pathBits]
  case enabled =>
    intro n
    rw [hsubframe, (Subframe.control_of _).1, Option.isSome_iff_exists]
    simp only [hon, List.mem_filter, and_assoc]
  case globalAlpha =>
    intro n
    rw [hsubframe, ← bne_iff_ne, (Subframe.control_of _).2.1, any_eq_true_iff (hon n)]
    simp only [beq_iff_eq]
  case colorKey =>
    intro n
    rw [hsubframe, ← bne_iff_ne, (Subframe.control_of _).2.2, any_eq_true_iff (hon n)]

end Apart

/-- **The wiring is exactly the layer set.** Layers of which no two enabled ones share a pipe or a
depth are wired up if and only if every enabled layer has a sub-frame and a slot and both pipes of
the operator have an enabled layer; and what they are wired up to is theirs, slot by slot and
sub-frame by sub-frame. -/
theorem exists_ofLayers_iff_and_isLayerSet (h : (layers.filter Layer.enabled).Pairwise Apart) :
    ((∃ w, ofLayers layers background porterDuff width height = .ok w) ↔
      (∀ l ∈ layers, l.enabled = true →
          l.pipe.toNat < subframeCount ∧ l.depth.toNat < slotCount) ∧
        ∀ pd ∈ porterDuff, (∃ l ∈ layers, l.enabled = true ∧ l.pipe = pd.srcPipe) ∧
          ∃ l ∈ layers, l.enabled = true ∧ l.pipe = pd.dstPipe) ∧
      ∀ w, ofLayers layers background porterDuff width height = .ok w → w.IsLayerSet layers := by
  refine ⟨⟨?_, ?_⟩, ?_⟩
  · rintro ⟨w, hw⟩
    obtain ⟨hplaces, hoperands, -⟩ := (ofLayers_eq_ok_iff_stack h).mp hw
    exact ⟨hplaces, hoperands⟩
  · rintro ⟨hplaces, hoperands⟩
    exact ⟨_, (ofLayers_eq_ok_iff_stack h).mpr ⟨hplaces, hoperands, rfl⟩⟩
  · intro w hw
    obtain ⟨hplaces, -, rfl⟩ := (ofLayers_eq_ok_iff_stack h).mp hw
    exact isLayerSet_stack h hplaces

/-- Layers whose depths and pipes cross, so that each slot of the path is changed for two of them;
a layer that is not enabled has the pipe and the depth of one of them. -/
def crossedLayers : List Layer :=
  let l : Layer :=
    { format := ⟨0x34325241⟩, src := ⟨0, 0, 64, 64⟩, dst := ⟨0, 0, 64, 64⟩, pipe := 0 }
  [ { l with pipe := 1, depth := 1, blend := .premultiplied },
    { l with pipe := 0, depth := 2, enabled := false },
    { l with pipe := 0, depth := 2, colorKey := some ⟨0, 0xFF⟩ },
    { l with pipe := 4, depth := 5, blend := .coverage } ]

/-- Crossed layers are wired up for an operator between the upper two, and each slot is theirs. -/
theorem isLayerSet_crossedLayers :
    ∃ w, ofLayers crossedLayers (some 0xFF000000) (some ⟨4, 0, .srcOver⟩) 64 64 = .ok w ∧
      w.IsLayerSet crossedLayers := by
  have hapart : (crossedLayers.filter Layer.enabled).Pairwise Apart := by
    unfold Apart
    decide
  obtain ⟨hexists, hset⟩ := @exists_ofLayers_iff_and_isLayerSet crossedLayers (some 0xFF000000)
    (some ⟨4, 0, .srcOver⟩) 64 64 hapart
  obtain ⟨w, hw⟩ := hexists.mpr ⟨by decide, by decide⟩
  exact ⟨w, hw, hset w hw⟩

end Wiring

end Blitter
