import Blitter.Proofs.Compiler.Passes
import Blitter.Proofs.InWords.Layout

/-!
# Frames, in words

Sharing the channels' pools takes numbers of channels, a sum of weights, a division by it and
products with what comes out; wiring the compositor takes places in its sub-frames and its path. All
of them are small: a generation has few channels, each of which weighs at most two, a channel's part
of a pool is part of the pool, and the compositor is wired up only at places that it has. So the
frame of any layers and output is made in words (`composeFrame_eq`).
-/

namespace Blitter

namespace InWords

/-! ### Weights -/

/-- `Source.mark` in words. -/
def mark (pipes : List Pipe) (weights : List UInt8) (s : Source) : InWords (List UInt8) :=
  match pipes[s.layer.pipe.toNat]? with
  | some pipe => s.layout.channelWeights.foldlM (fun ws (c, w) => do
      let channel ← indexAfter pipe.firstChannel c
      return raise ws channel w) weights
  | none => .ok weights

/-- `Generation.readWeights` in words. -/
def readWeights (g : Generation) (sources : List Source) (reserved : Bool) :
    InWords (List UInt8) := do
  let weights ← sources.foldlM (mark g.pipes) (List.replicate g.readChannels 0)
  if reserved then
    let last ← indexBefore weights.length 1
    return raise weights last 1
  else return weights

/-- The weights of the channels for a raw copy: none of them works but the first, and there is
one. -/
def copyWeights (weights : List UInt8) : InWords (List UInt8) :=
  let idle := (if weights.isEmpty then [0] else weights).map fun _ => 0
  defined (0 < idle.length) (idle.set 0 1)

/-- The weights that pools are shared by. -/
def sharedWeights (weights : List UInt8) (forCopy : Bool) : InWords (List UInt8) :=
  if forCopy then copyWeights weights else .ok weights

/-- `Allocation.totalWeight` in words. -/
def totalWeight (weights : List UInt8) : InWords UInt32 :=
  weights.foldlM (fun sum w => add sum w.toUInt32) 0

/-- `Allocation.part` in words. -/
def part (pool total : UInt32) (weight : UInt8) : InWords UInt32 := do
  let unit ← div pool total
  mul weight.toUInt32 unit

/-- `Allocation.share` in words. -/
def share (pools : Pools) (total : UInt32) (weight : UInt8) : InWords Share := do
  let watermark ← part pools.watermark total weight
  let data ← part pools.data total weight
  let command ← part pools.command total weight
  return { weight, watermark, data, command }

/-- `Blitter.allocate` in words. -/
def allocate (weights : List UInt8) (pools : Pools) (forCopy : Bool) : InWords Allocation := do
  let weights ← sharedWeights weights forCopy
  let total ← totalWeight weights
  if total = 0 then of (reject .noActiveChannel)
  else
    let shares ← weights.mapM (share pools total)
    return { shares, weight := total.toNat, burst := .ofWeight total.toNat, forCopy }

/-- `Generation.readPools` in words. -/
def readPools (g : Generation) : InWords Pools := do
  let watermark ← mul g.writePools.watermark 2
  let data ← mul g.writePools.data 2
  let command ← mul g.writePools.command 2
  return { watermark, data, command }

section Weights

variable (g : Generation)

theorem readPools_eq : readPools g = .ok g.readPools := by cases g <;> rfl

theorem mark_eq (weights : List UInt8) (s : Source) :
    mark g.pipes weights s = .ok (s.mark g.pipes weights) := by
  have hfirst : ∀ p ∈ g.pipes, p.firstChannel < 12 := by cases g <;> decide
  have hweights : ∀ x ∈ s.layout.channelWeights, x.1 ≤ 2 := by
    unfold PixelLayout.channelWeights
    cases s.layout.planarity <;> cases s.layout.chroma <;> decide
  unfold mark Source.mark
  cases hp : g.pipes[s.layer.pipe.toNat]? with
  | none => rfl
  | some pipe =>
    have hpipe := hfirst pipe (List.mem_of_getElem? hp)
    refine foldlM_eq_ok (fun ws x hx => ?_) weights
    have hchannel := hweights x hx
    show (indexAfter _ _ >>= _) = _
    rw [indexAfter, defined_eq_ok (by omega)]
    rfl

/-- **The channels of any sources are marked in words.** -/
theorem readWeights_eq (sources : List Source) (reserved : Bool) :
    readWeights g sources reserved = .ok (g.readWeights sources reserved) := by
  have hlength := g.length_readWeights sources false
  have hchannels : 1 ≤ g.readChannels := g.readChannels_pos
  unfold readWeights Generation.readWeights at *
  rw [foldlM_eq_ok (fun ws s _ => mark_eq g ws s), ok_bind]
  simp only [Bool.false_eq_true, if_false] at hlength
  dsimp only
  split
  · rw [hlength, indexBefore, defined_eq_ok hchannels, ok_bind]
    rfl
  · rfl

theorem copyWeights_eq (weights : List UInt8) :
    copyWeights weights = .ok (Allocation.copyWeights weights.length) := by
  cases weights with
  | nil => rfl
  | cons w weights =>
    show defined _ _ = _
    rw [defined_eq_ok (by simp)]
    simp [Allocation.copyWeights, List.map_const']

theorem totalWeight_eq {weights : List UInt8}
    (h : Allocation.totalWeight weights < 2 ^ 32) :
    totalWeight weights = .ok (.ofNat (Allocation.totalWeight weights)) := by
  -- what was added up before, and what is still to be added, fit a word together
  have hsum (sum : Nat) (h : sum + Allocation.totalWeight weights < 2 ^ 32) :
      weights.foldlM (fun sum w => add sum w.toUInt32) (UInt32.ofNat sum) =
        .ok (.ofNat (sum + Allocation.totalWeight weights)) := by
    induction weights generalizing sum with
    | nil => rfl
    | cons w weights ih =>
      have hcons : Allocation.totalWeight (w :: weights) =
          w.toNat + Allocation.totalWeight weights := rfl
      rw [hcons] at h ⊢
      rw [List.foldlM_cons, ← UInt32.ofNat_uInt8ToNat, add_ofNat (by omega), ok_bind,
        ih (by omega) (sum + w.toNat) (by omega), Nat.add_assoc]
  have h0 := hsum 0 (by omega)
  rwa [Nat.zero_add] at h0

section Share

variable {total : Nat} (hpos : 0 < total) (htotal : total < 2 ^ 32) {weight : UInt8}
  (hle : weight.toNat ≤ total)
include hpos htotal hle

/-- A channel's part of a pool is **part of the pool**. -/
theorem part_eq (pool : UInt32) :
    part pool (.ofNat total) weight = .ok (Allocation.part pool total weight) := by
  have hpool := pool.toNat_lt
  have hunit := Nat.div_le_self pool.toNat total
  have hpart : weight.toNat * (pool.toNat / total) ≤ pool.toNat :=
    (Nat.mul_le_mul_right _ hle).trans (Nat.mul_div_le _ _)
  have hdiv := div_word pool htotal hpos
  unfold part
  rw [hdiv, ok_bind, ← UInt32.ofNat_uInt8ToNat, mul_ofNat (by omega) (by omega) (by omega)]
  rfl

theorem share_eq (pools : Pools) :
    share pools (.ofNat total) weight = .ok (Allocation.share pools total weight) := by
  unfold share
  rw [part_eq hpos htotal hle, ok_bind, part_eq hpos htotal hle, ok_bind, part_eq hpos htotal hle]
  rfl

end Share

/-- **Pools are shared in words**, however the weights are, if their sum is one. -/
theorem allocate_eq {weights : List UInt8} {forCopy : Bool}
    (h : Allocation.totalWeight weights < 2 ^ 32) (pools : Pools) :
    allocate weights pools forCopy = of (Blitter.allocate weights pools forCopy) := by
  have hshared : sharedWeights weights forCopy =
      .ok (if forCopy then Allocation.copyWeights weights.length else weights) := by
    cases forCopy with
    | false => rfl
    | true => exact copyWeights_eq weights
  have htotal : Allocation.totalWeight
      (if forCopy then Allocation.copyWeights weights.length else weights) < 2 ^ 32 := by
    cases forCopy with
    | false => exact h
    | true =>
      show 1 + Allocation.totalWeight (List.replicate (weights.length - 1) 0) < 2 ^ 32
      rw [Allocation.totalWeight_replicate_zero]
      decide
  unfold allocate Blitter.allocate
  rw [hshared, ok_bind]
  generalize (if forCopy then Allocation.copyWeights weights.length else weights) = weights at *
  rw [totalWeight_eq htotal, ok_bind]
  simp only [ofNat_eq_zero_iff htotal]
  refine ite_eq_of (fun _ => rfl) fun hne => ?_
  rw [mapM_eq_ok (g := Allocation.share pools (Allocation.totalWeight weights)) fun w hw =>
    share_eq (Nat.pos_of_ne_zero hne) htotal (Allocation.toNat_le_totalWeight hw) pools, ok_bind,
    UInt32.toNat_ofNat_of_lt' htotal]
  rfl

end Weights

/-! ### The compositor -/

/-- `Wiring.add` in words. -/
def addLayer (w : Wiring) (l : Layer) : InWords Wiring :=
  if subframeCount ≤ l.pipe.toNat ∨ slotCount ≤ l.depth.toNat then
    of (reject (.layerIndex l.pipe.toNat l.depth.toNat))
  else do
    let number ← ofIndex l.pipe.toNat
    let word ← get w.path l.depth.toNat
    let path ← set w.path l.depth.toNat (Register.pathLayer.insert word number)
    let slot ← indexAfter l.pipe.toNat 1
    let word ← get path slot
    let blend := Register.pathBlend.insert word number
    let blend := if l.blend = .premultiplied then blend ||| Register.pathPremultiplied else blend
    let path ← set path slot blend
    let subframes ← set w.subframes l.pipe.toNat (.ofLayer l)
    return { w with path, subframes }

/-- `Wiring.ofLayers` in words. -/
def wiring (layers : List Layer) (background : Option UInt32) (porterDuff : Option PorterDuff)
    (width height : UInt32) : InWords Wiring := do
  let wired ← (layers.filter Layer.enabled).foldlM addLayer (.empty background width height)
  match porterDuff with
  | some pd => of (wired.setOperator pd)
  | none => return wired

/-- The compositor has **the places that a layer is wired up at**. -/
theorem addLayer_eq (w : Wiring) (l : Layer) : addLayer w l = of (w.add l) := by
  unfold addLayer Wiring.add
  by_cases hp : l.pipe.toNat < subframeCount
  case neg =>
    rw [if_pos (.inl (Nat.le_of_not_lt hp)), dif_neg hp]
  case pos =>
    by_cases hd : l.depth.toNat < slotCount
    case neg =>
      rw [if_pos (.inr (Nat.le_of_not_lt hd)), dif_pos hp, dif_neg hd]
    case pos =>
      have hslot : l.pipe.toNat + 1 < slotCount := Nat.succ_lt_succ hp
      have hlt := l.pipe.toNat_lt
      rw [if_neg (by omega), dif_pos hp, dif_pos hd, ofIndex_eq (by omega), ok_bind, get_eq hd,
        ok_bind, set_eq hd, ok_bind, indexAfter, defined_eq_ok (by omega), ok_bind, get_eq hslot,
        ok_bind]
      dsimp only
      rw [set_eq hslot, ok_bind, set_eq hp]
      rfl

/-- **The compositor is wired up in words.** -/
theorem wiring_eq (layers : List Layer) (background : Option UInt32)
    (porterDuff : Option PorterDuff) (width height : UInt32) :
    wiring layers background porterDuff width height =
      of (Wiring.ofLayers layers background porterDuff width height) := by
  refine bind_eq_of (foldlM_eq_of (fun w l _ => addLayer_eq w l) _) fun w _ => ?_
  cases porterDuff <;> rfl

/-! ### Frames -/

/-- `Compiler.writeAllocation` in words. -/
def writeAllocation (c : Compiler) (t : Target) : InWords Allocation :=
  allocate (c.generation.writeWeights t) c.generation.writePools false

/-- `Compiler.composeFrame` in words. -/
def composeFrame (c : Compiler) (commandId : UInt32) (isStrip : Bool) (sources : List Source)
    (target : Target) (background : Option UInt32) (porterDuff : Option PorterDuff)
    (reserved : Bool) : InWords Frame := do
  let weights ← readWeights c.generation sources reserved
  let pools ← readPools c.generation
  let read ← allocate weights pools false
  let write ← writeAllocation c target
  let wiring ← wiring (sources.map Source.layer) background porterDuff target.output.width
    target.output.height
  return { commandId, operation := .compose, isStrip, read, write, pipes := c.pipes, sources,
           wiring, target }

section Frame

variable (c : Compiler)

theorem totalWeight_readWeights_lt (sources : List Source) (reserved : Bool) :
    Allocation.totalWeight (c.generation.readWeights sources reserved) < 2 ^ 32 := by
  have hle := Allocation.totalWeight_le (c.generation.toNat_le_of_mem_readWeights sources reserved)
  have hchannels : c.generation.readChannels ≤ 12 := by cases c.generation <;> decide
  rw [c.generation.length_readWeights] at hle
  omega

theorem writeAllocation_eq (t : Target) : writeAllocation c t = of (c.writeAllocation t) := by
  have hle : Allocation.totalWeight (c.generation.writeWeights t) ≤
      (c.generation.writeWeights t).length * 255 :=
    Allocation.totalWeight_le fun w _ => Nat.le_of_lt_succ w.toNat_lt
  have hchannels : c.generation.writeChannels ≤ 4 := by cases c.generation <;> decide
  rw [c.generation.length_writeWeights] at hle
  exact allocate_eq (by omega) _

/-- **The frame of any layers and output is made in words.** -/
theorem composeFrame_eq (commandId : UInt32) (isStrip : Bool) (sources : List Source)
    (target : Target) (background : Option UInt32) (porterDuff : Option PorterDuff)
    (reserved : Bool) :
    composeFrame c commandId isStrip sources target background porterDuff reserved =
      of (c.composeFrame commandId isStrip sources target background porterDuff reserved) := by
  unfold composeFrame
  rw [readWeights_eq, ok_bind, readPools_eq, ok_bind]
  refine bind_eq_of (allocate_eq (totalWeight_readWeights_lt c sources reserved) _) fun _ _ => ?_
  refine bind_eq_of (writeAllocation_eq c target) fun _ _ => ?_
  exact bind_eq_of (wiring_eq _ _ _ _ _) fun _ _ => rfl

end Frame

end InWords

end Blitter
