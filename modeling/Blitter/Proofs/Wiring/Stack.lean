import Blitter.Proofs.Compiler.Admission
import Blitter.Proofs.Wiring

/-!
# What a wired compositor holds

Wiring adds layers one after the other, and a layer changes two words of the path: the slot of its
depth, and the slot above its pipe, which another layer may have changed before. Layers that share
neither pipe nor depth do not get in each other's way: the compositor ends up with a `stack`, which
says of each sub-frame and each slot what it holds without saying when it was put there
(`Wiring.ofLayers_eq_ok_iff_of_apart`).
-/

namespace Blitter

open Compiler (Apart)

/-! ### Layers by their place -/

section Key

variable {α : Type} {key : α → Nat} {as : List α} {n : Nat} {a : α}

/-- Where no two items share a key, an item is found by its key. -/
theorem find?_key_eq_some_iff (h : as.Pairwise fun a b => key a ≠ key b) :
    (as.find? fun b => key b == n) = some a ↔ a ∈ as ∧ key a = n := by
  induction as with
  | nil => simp
  | cons b bs ih =>
    obtain ⟨hb, hbs⟩ := List.pairwise_cons.mp h
    rw [List.find?_cons, List.mem_cons]
    by_cases hn : key b = n
    · -- the first item is the one, and no later one has its key
      subst hn
      simp only [beq_self_eq_true, Option.some.injEq]
      constructor
      · rintro rfl
        exact ⟨.inl rfl, rfl⟩
      · rintro ⟨rfl | hmem, hkey⟩
        · rfl
        · exact absurd hkey.symm (hb a hmem)
    · simp only [beq_eq_false_iff_ne.mpr hn, ih hbs]
      constructor
      · exact fun ⟨hmem, hkey⟩ => ⟨.inr hmem, hkey⟩
      · rintro ⟨rfl | hmem, hkey⟩
        · exact absurd hkey hn
        · exact ⟨hmem, hkey⟩

/-- An item with a key of its own is found by that, and the others are found as before. -/
theorem find?_key_concat (h : ∀ b ∈ as, key b ≠ key a) :
    ((as ++ [a]).find? fun b => key b == n) =
      if key a = n then some a else as.find? fun b => key b == n := by
  rw [List.find?_append, List.find?_singleton]
  by_cases hn : key a = n
  · have hnone : (as.find? fun b => key b == n) = none :=
      List.find?_eq_none.mpr fun b hb heq => h b hb ((beq_iff_eq.mp heq).trans hn.symm)
    rw [hnone, Option.none_or, if_pos hn, if_pos (beq_iff_eq.mpr hn)]
  · rw [if_neg hn, if_neg fun heq => hn (beq_iff_eq.mp heq), Option.or_none]

end Key

/-- The layer on a pipe, if there is one. -/
def layerOn (layers : List Layer) (pipe : Nat) : Option Layer :=
  layers.find? fun l => l.pipe.toNat == pipe

/-- The layer at a depth, if there is one. -/
def layerAt (layers : List Layer) (depth : Nat) : Option Layer :=
  layers.find? fun l => l.depth.toNat == depth

section Apart

variable {layers : List Layer} {l : Layer} {n : Nat}

theorem layerOn_eq_some_iff (h : layers.Pairwise Apart) :
    layerOn layers n = some l ↔ l ∈ layers ∧ l.pipe.toNat = n :=
  find?_key_eq_some_iff (h.imp fun hapart heq => hapart.1 (UInt8.toNat_inj.mp heq))

theorem layerAt_eq_some_iff (h : layers.Pairwise Apart) :
    layerAt layers n = some l ↔ l ∈ layers ∧ l.depth.toNat = n :=
  find?_key_eq_some_iff (h.imp fun hapart heq => hapart.2 (UInt8.toNat_inj.mp heq))

theorem layerOn_concat (h : ∀ b ∈ layers, Apart b l) :
    layerOn (layers ++ [l]) n = if l.pipe.toNat = n then some l else layerOn layers n :=
  find?_key_concat fun b hb heq => (h b hb).1 (UInt8.toNat_inj.mp heq)

theorem layerAt_concat (h : ∀ b ∈ layers, Apart b l) :
    layerAt (layers ++ [l]) n = if l.depth.toNat = n then some l else layerAt layers n :=
  find?_key_concat fun b hb heq => (h b hb).2 (UInt8.toNat_inj.mp heq)

end Apart

/-! ### Path words -/

/-- The path word with those indices. -/
def pathWord (layer blend : Fin 8) (premultiplied : Bool) : UInt32 :=
  Register.pathLayer.encode (UInt32.ofNat layer) |||
    Register.pathBlend.encode (UInt32.ofNat blend) |||
    (if premultiplied then Register.pathPremultiplied else 0)

theorem pathWord_unused : pathWord 7 7 false = Register.pathUnused := by decide

theorem insert_layer_pathWord (layer blend : Fin 8) (premultiplied : Bool) (new : Fin 8) :
    Register.pathLayer.insert (pathWord layer blend premultiplied) (UInt32.ofNat new) =
      pathWord new blend premultiplied := by
  revert layer blend premultiplied new
  decide +kernel

theorem insert_blend_pathWord (layer blend : Fin 8) (premultiplied : Bool) (new : Fin 8) :
    Register.pathBlend.insert (pathWord layer blend premultiplied) (UInt32.ofNat new) =
      pathWord layer new premultiplied := by
  revert layer blend premultiplied new
  decide +kernel

theorem pathWord_or_premultiplied (layer blend : Fin 8) :
    pathWord layer blend false ||| Register.pathPremultiplied = pathWord layer blend true := by
  revert layer blend
  decide +kernel

/-- What a path word **says**. -/
theorem decode_pathWord (layer blend : Fin 8) (premultiplied : Bool) :
    Register.pathLayer.decode (pathWord layer blend premultiplied) = UInt32.ofNat layer ∧
      Register.pathBlend.decode (pathWord layer blend premultiplied) = UInt32.ofNat blend ∧
      (pathWord layer blend premultiplied &&& Register.pathPremultiplied != 0) =
        premultiplied := by
  revert layer blend premultiplied
  decide +kernel

/-! ### The stack -/

/-- The index by which a path word names a layer's pipe, or that it names none. -/
def pipeIndex (l : Option Layer) : Fin 8 := l.elim 7 fun l => Fin.ofNat 8 l.pipe.toNat

theorem val_pipeIndex {l : Layer} (h : l.pipe.toNat < subframeCount) :
    (pipeIndex (some l)).val = l.pipe.toNat :=
  Nat.mod_eq_of_lt (h.trans (by decide))

/-- The index by which a path word names a layer's pipe is the pipe's own number. -/
theorem ofNat_pipeIndex {l : Layer} (h : l.pipe.toNat < subframeCount) :
    UInt32.ofNat (pipeIndex (some l)).val = l.pipe.toUInt32 := by
  apply UInt32.toNat_inj.mp
  rw [val_pipeIndex h, UInt8.toNat_toUInt32]
  exact UInt32.toNat_ofNat_of_lt' (h.trans (by decide))

/-- The layer whose blending a slot sets: the one on the pipe below the slot's own number. -/
def layerBelow (layers : List Layer) : (slot : Nat) → Option Layer
  | 0 => none
  | n + 1 => layerOn layers n

/-- The word of a path slot. -/
def slotWord (layers : List Layer) (z : Nat) : UInt32 :=
  pathWord (pipeIndex (layerAt layers z)) (pipeIndex (layerBelow layers z))
    ((layerBelow layers z).any fun l => l.blend = .premultiplied)

/-- The sub-frame of a layer, or a sub-frame without one. -/
def Subframe.of (l : Option Layer) : Subframe := l.elim .off .ofLayer

namespace Wiring

/-- The compositor that **holds the layers**, wherever they stand in the list. -/
def stack (layers : List Layer) (background : Option UInt32) (width height : UInt32) : Wiring :=
  { subframes := Vector.ofFn fun n => Subframe.of (layerOn layers n)
    path := Vector.ofFn fun z => slotWord layers z
    background, porterDuff := none, size := packSize width height }

variable {layers : List Layer} {background : Option UInt32} {width height : UInt32} {l : Layer}

theorem stack_nil : stack [] background width height = empty background width height := by
  have hslot : ∀ z, slotWord [] z = Register.pathUnused := by
    intro z
    cases z <;> exact pathWord_unused
  refine Wiring.mk.injEq .. |>.mpr ⟨?_, ?_, rfl, rfl, rfl⟩
  · refine Vector.ext fun i hi => ?_
    rw [Vector.getElem_ofFn, Vector.getElem_replicate]
    rfl
  · refine Vector.ext fun i hi => ?_
    rw [Vector.getElem_ofFn, Vector.getElem_replicate, hslot]

/-- The slot of a layer's depth is given the layer's pipe. The slot is named by the layer from then
on, and its blending stays what it was. -/
private theorem layer_slotWord (h : ∀ b ∈ layers, Apart b l) (hp : l.pipe.toNat < subframeCount)
    (z : Nat) :
    (if l.depth.toNat = z then
        Register.pathLayer.insert (slotWord layers l.depth.toNat) (UInt32.ofNat l.pipe.toNat)
      else slotWord layers z) =
      pathWord (pipeIndex (layerAt (layers ++ [l]) z)) (pipeIndex (layerBelow layers z))
        ((layerBelow layers z).any fun l => l.blend = .premultiplied) := by
  rw [layerAt_concat h]
  split
  case isTrue hz =>
    subst hz
    rw [slotWord, ← val_pipeIndex hp, insert_layer_pathWord]
  case isFalse => rfl

/-- The slot above a layer's pipe is given the layer's blending. No layer has set it before. -/
private theorem blend_slotWord (h : ∀ b ∈ layers, Apart b l) (hp : l.pipe.toNat < subframeCount)
    (z : Nat) (layer : Nat → Fin 8) :
    (if l.pipe.toNat + 1 = z then
        let blend := Register.pathBlend.insert
          (pathWord (layer (l.pipe.toNat + 1)) (pipeIndex (layerBelow layers (l.pipe.toNat + 1)))
            ((layerBelow layers (l.pipe.toNat + 1)).any fun l => l.blend = .premultiplied))
          (UInt32.ofNat l.pipe.toNat)
        if l.blend = .premultiplied then blend ||| Register.pathPremultiplied else blend
      else
        pathWord (layer z) (pipeIndex (layerBelow layers z))
          ((layerBelow layers z).any fun l => l.blend = .premultiplied)) =
      pathWord (layer z) (pipeIndex (layerBelow (layers ++ [l]) z))
        ((layerBelow (layers ++ [l]) z).any fun l => l.blend = .premultiplied) := by
  split
  case isTrue hz =>
    subst hz
    have hfree : layerOn layers l.pipe.toNat = none := by
      refine List.find?_eq_none.mpr fun b hb heq => ?_
      exact (h b hb).1 (UInt8.toNat_inj.mp (beq_iff_eq.mp heq))
    have hbelow : layerBelow (layers ++ [l]) (l.pipe.toNat + 1) = some l := by
      rw [layerBelow, layerOn_concat h, if_pos rfl]
    rw [hbelow, layerBelow, hfree, ← val_pipeIndex hp, insert_blend_pathWord]
    simp only [Option.any_none, Option.any_some]
    split
    case isTrue hblend => rw [pathWord_or_premultiplied, decide_eq_true hblend]
    case isFalse hblend => rw [decide_eq_false hblend]
  case isFalse hz =>
    cases z with
    | zero => rfl
    | succ n =>
      have hn : ¬ l.pipe.toNat = n := fun heq => hz (congrArg (· + 1) heq)
      rw [layerBelow, layerBelow, layerOn_concat h, if_neg hn]

/-- One more layer changes the two words that are its own, **and no others**. -/
theorem addAt_stack (h : ∀ b ∈ layers, Apart b l) (hp : l.pipe.toNat < subframeCount)
    (hd : l.depth.toNat < slotCount) :
    (stack layers background width height).addAt l ⟨_, hp⟩ ⟨_, hd⟩ =
      stack (layers ++ [l]) background width height := by
  unfold addAt stack
  rw [Wiring.mk.injEq]
  refine ⟨?_, ?_, rfl, rfl, rfl⟩
  · refine Vector.ext fun i hi => ?_
    simp only [Vector.getElem_set, Vector.getElem_ofFn, layerOn_concat h]
    split <;> rfl
  · refine Vector.ext fun z hz => ?_
    simp only [Vector.getElem_set, Vector.getElem_ofFn, Fin.getElem_fin, Fin.val_succ,
      layer_slotWord h hp]
    exact blend_slotWord h hp z fun z => pipeIndex (layerAt (layers ++ [l]) z)

/-- Layers that are in place are wired up **to a stack**. -/
theorem foldlM_add_stack_iff {before : List Layer} (h : (before ++ layers).Pairwise Apart)
    {w : Wiring} :
    layers.foldlM add (stack before background width height) = .ok w ↔
      (∀ l ∈ layers, l.pipe.toNat < subframeCount ∧ l.depth.toNat < slotCount) ∧
        w = stack (before ++ layers) background width height := by
  induction layers generalizing before with
  | nil =>
    rw [List.foldlM_nil, List.append_nil]
    constructor
    · rintro ⟨⟩
      exact ⟨fun l hl => absurd hl List.not_mem_nil, rfl⟩
    · rintro ⟨-, rfl⟩
      rfl
  | cons l layers ih =>
    have hl : ∀ b ∈ before, Apart b l := fun b hb =>
      (List.pairwise_append.mp h).2.2 b hb l List.mem_cons_self
    have hshift : before ++ l :: layers = (before ++ [l]) ++ layers := by
      rw [List.append_assoc, List.singleton_append]
    rw [hshift] at h ⊢
    rw [List.foldlM_cons, Outcome.bind_eq_ok_iff, List.forall_mem_cons]
    constructor
    · rintro ⟨v, hv, hw⟩
      obtain ⟨hp, hd, rfl⟩ := add_eq_ok_iff.mp hv
      rw [addAt_stack hl hp hd] at hw
      obtain ⟨hplaces, hw⟩ := (ih h).mp hw
      exact ⟨⟨⟨hp, hd⟩, hplaces⟩, hw⟩
    · rintro ⟨⟨⟨hp, hd⟩, hplaces⟩, hw⟩
      exact ⟨_, add_eq_ok_iff.mpr ⟨hp, hd, addAt_stack hl hp hd⟩, (ih h).mpr ⟨hplaces, hw⟩⟩

/-- **What wiring makes** of enabled layers that share neither pipe nor depth. -/
theorem ofLayers_eq_ok_iff_of_apart {porterDuff : Option PorterDuff} {w : Wiring}
    (h : layers.Pairwise Apart) (henabled : ∀ l ∈ layers, l.enabled = true) :
    ofLayers layers background porterDuff width height = .ok w ↔
      (∀ l ∈ layers, l.pipe.toNat < subframeCount ∧ l.depth.toNat < slotCount) ∧
        (∀ pd ∈ porterDuff, (∃ l ∈ layers, l.pipe = pd.srcPipe) ∧
          ∃ l ∈ layers, l.pipe = pd.dstPipe) ∧
        w = { stack layers background width height with porterDuff } := by
  rw [ofLayers_eq_ok_iff, List.filter_eq_self.mpr henabled, ← stack_nil]
  have hfold (wired : Wiring) :
      layers.foldlM add (stack [] background width height) = .ok wired ↔
        (∀ l ∈ layers, l.pipe.toNat < subframeCount ∧ l.depth.toNat < slotCount) ∧
          wired = stack layers background width height :=
    foldlM_add_stack_iff (List.nil_append layers ▸ h)
  have hhas (wired : Wiring)
      (hwired : layers.foldlM add (stack [] background width height) = .ok wired) (pipe : UInt8) :
      wired.hasLayer pipe = true ↔ ∃ l ∈ layers, l.pipe = pipe := by
    rw [hasLayer_foldlM_iff hwired, stack_nil, hasLayer_empty]
    simp only [Bool.false_eq_true, or_false]
  constructor
  · rintro ⟨wired, hwired, hoperands, rfl⟩
    obtain ⟨hplaces, rfl⟩ := (hfold wired).mp hwired
    refine ⟨hplaces, fun pd hpd => ?_, ?_⟩
    · rw [← hhas _ hwired, ← hhas _ hwired]
      exact hoperands pd hpd
    · rw [stack, Option.or_none]
  · rintro ⟨hplaces, hoperands, rfl⟩
    have hwired := (hfold _).mpr ⟨hplaces, rfl⟩
    refine ⟨_, hwired, fun pd hpd => ?_, ?_⟩
    · rw [hhas _ hwired, hhas _ hwired]
      exact hoperands pd hpd
    · rw [stack, Option.or_none]

section Perm

variable {layers' : List Layer} (hp : layers.Perm layers') (h : layers.Pairwise Apart)
include hp h

/-- A stack does not depend on **the order of its layers**. -/
theorem stack_eq_of_perm :
    stack layers background width height = stack layers' background width height := by
  have h' : layers'.Pairwise Apart := hp.pairwise h Apart.symm
  have hon (n : Nat) : layerOn layers n = layerOn layers' n := by
    refine Option.ext fun l => ?_
    rw [layerOn_eq_some_iff h, layerOn_eq_some_iff h', hp.mem_iff]
  have hat (n : Nat) : layerAt layers n = layerAt layers' n := by
    refine Option.ext fun l => ?_
    rw [layerAt_eq_some_iff h, layerAt_eq_some_iff h', hp.mem_iff]
  have hbelow (z : Nat) : layerBelow layers z = layerBelow layers' z := by
    cases z with
    | zero => rfl
    | succ n => exact hon n
  have hslot (z : Nat) : slotWord layers z = slotWord layers' z := by
    rw [slotWord, slotWord, hat, hbelow]
  unfold stack
  simp only [hon, hslot]

theorem ofLayers_eq_ok_iff_of_perm {porterDuff : Option PorterDuff} {w : Wiring}
    (henabled : ∀ l ∈ layers, l.enabled = true) :
    ofLayers layers background porterDuff width height = .ok w ↔
      ofLayers layers' background porterDuff width height = .ok w := by
  rw [ofLayers_eq_ok_iff_of_apart h henabled,
    ofLayers_eq_ok_iff_of_apart (hp.pairwise h Apart.symm) fun l hl => henabled l (hp.mem_iff.mpr hl),
    stack_eq_of_perm hp h]
  simp only [hp.mem_iff]

end Perm

end Wiring

end Blitter
