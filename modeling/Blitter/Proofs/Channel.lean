import Blitter.Channel
import Blitter.Proofs.Outcome
import Blitter.Proofs.Register.Field
import Mathlib.Algebra.BigOperators.Ring.List
import Mathlib.Algebra.Order.BigOperators.Group.List
import Mathlib.Algebra.Order.Ring.Nat

/-!
# Shares of the channels

A split gives each channel of its direction one share, whether it has anything to do or not. The
weights of the read channels are small (`toNat_le_of_mem_readWeights`), so that a channel with a
weight gets something of every pool that is large enough for all of them (`part_ne_zero`).
-/

namespace Blitter

/-! ### Weights -/

@[simp] theorem length_raise (weights : List UInt8) (channel : Nat) (weight : UInt8) :
    (raise weights channel weight).length = weights.length :=
  List.length_modify _ _ _

/-- Going through a list with steps that keep the channels keeps the channels. -/
private theorem length_foldl {α : Type} {step : List UInt8 → α → List UInt8}
    (h : ∀ weights a, (step weights a).length = weights.length) (as : List α)
    (weights : List UInt8) : (as.foldl step weights).length = weights.length := by
  induction as generalizing weights with
  | nil => rfl
  | cons a as ih => rw [List.foldl_cons, ih, h]

theorem Source.length_mark (pipes : List Pipe) (weights : List UInt8) (s : Source) :
    (s.mark pipes weights).length = weights.length := by
  unfold Source.mark
  split
  · exact length_foldl (fun _ _ => length_raise _ _ _) _ _
  · rfl

section Weights

variable {weights : List UInt8} {channel n : Nat} {weight : UInt8}

theorem getElem?_raise :
    (raise weights channel weight)[n]? =
      (fun w => if channel = n then max w weight else w) <$> weights[n]? :=
  List.getElem?_modify ..

/-- Weights that are raised to a limit at most stay within it. -/
theorem toNat_le_of_mem_raise {limit : Nat} (h : ∀ w ∈ weights, w.toNat ≤ limit)
    (hweight : weight.toNat ≤ limit) : ∀ w ∈ raise weights channel weight, w.toNat ≤ limit := by
  intro w hw
  obtain ⟨n, hn⟩ := List.mem_iff_getElem?.mp hw
  rw [getElem?_raise] at hn
  obtain ⟨v, hv, rfl⟩ := Option.map_eq_some_iff.mp hn
  have hle := h v (List.mem_of_getElem? hv)
  split
  · rw [UInt8.toNat_max]
    exact Nat.max_le.mpr ⟨hle, hweight⟩
  · exact hle

end Weights

/-- Channels can be raised in any order. -/
theorem raise_right_comm (weights : List UInt8) (m n : Nat) (v w : UInt8) :
    raise (raise weights m v) n w = raise (raise weights n w) m v := by
  have hmax (a b c : UInt8) : max (max a b) c = max (max a c) b := by
    apply UInt8.toNat_inj.mp
    simp only [UInt8.toNat_max]
    omega
  refine List.ext_getElem? fun i => ?_
  simp only [getElem?_raise, Option.map_eq_map, Option.map_map]
  congr 1
  funext a
  simp only [Function.comp_apply]
  split <;> split <;> simp only [hmax]

/-- The channels that a source marks, with the weights that they are raised to. -/
def Source.marks (pipes : List Pipe) (s : Source) : List (Nat × UInt8) :=
  match pipes[s.layer.pipe.toNat]? with
  | some pipe => s.layout.channelWeights.map fun (c, w) => (pipe.firstChannel + c, w)
  | none => []

theorem Source.mark_eq_foldl (pipes : List Pipe) (weights : List UInt8) (s : Source) :
    s.mark pipes weights = (s.marks pipes).foldl (fun ws x => raise ws x.1 x.2) weights := by
  unfold Source.mark Source.marks
  cases pipes[s.layer.pipe.toNat]? with
  | some pipe =>
    dsimp only
    rw [List.foldl_map]
  | none => rfl

/-- No channel of a layout weighs more than two, the weight of two color planes. -/
theorem PixelLayout.toNat_channelWeights_le (l : PixelLayout) :
    ∀ x ∈ l.channelWeights, x.2.toNat ≤ 2 := by
  unfold channelWeights
  cases l.planarity <;> cases l.chroma <;> decide

theorem Source.toNat_le_of_mem_mark {pipes : List Pipe} {weights : List UInt8}
    (h : ∀ w ∈ weights, w.toNat ≤ 2) (s : Source) :
    ∀ w ∈ s.mark pipes weights, w.toNat ≤ 2 := by
  unfold Source.mark
  split
  · refine List.foldlRecOn (motive := fun (ws : List UInt8) => ∀ w ∈ ws, w.toNat ≤ 2) _ _ h ?_
    intro ws hws x hx
    exact toNat_le_of_mem_raise hws (s.layout.toNat_channelWeights_le x hx)
  · exact h

namespace Generation

variable (g : Generation)

theorem readChannels_pos : 0 < g.readChannels := by cases g <;> decide

theorem writeChannels_pos : 0 < g.writeChannels := by cases g <;> decide

theorem length_readWeights (sources : List Source) (reserved : Bool) :
    (g.readWeights sources reserved).length = g.readChannels := by
  have hidle : (sources.foldl (Source.mark g.pipes) (List.replicate g.readChannels 0)).length =
      g.readChannels := by
    rw [length_foldl (Source.length_mark g.pipes), List.length_replicate]
  unfold readWeights
  split
  · rw [length_raise, hidle]
  · exact hidle

theorem length_writeWeights (t : Target) : (g.writeWeights t).length = g.writeChannels := by
  rw [writeWeights, length_foldl fun _ _ => length_raise _ _ _, List.length_replicate]

/-- **A read channel weighs at most two.** -/
theorem toNat_le_of_mem_readWeights (sources : List Source) (reserved : Bool) :
    ∀ w ∈ g.readWeights sources reserved, w.toNat ≤ 2 := by
  have hidle : ∀ w ∈ List.replicate g.readChannels (0 : UInt8), w.toNat ≤ 2 := by
    intro w hw
    obtain ⟨-, rfl⟩ := List.mem_replicate.mp hw
    decide
  have hmarked : ∀ w ∈ sources.foldl (Source.mark g.pipes) (List.replicate g.readChannels 0),
      w.toNat ≤ 2 :=
    List.foldlRecOn (motive := fun (ws : List UInt8) => ∀ w ∈ ws, w.toNat ≤ 2) _ _ hidle
      fun _ hws s _ => s.toNat_le_of_mem_mark hws
  unfold readWeights
  split
  · exact toNat_le_of_mem_raise hmarked (by decide)
  · exact hmarked

/-- The weights do not depend on **the order of the sources**. -/
theorem readWeights_eq_of_perm {sources sources' : List Source} (h : sources.Perm sources')
    (reserved : Bool) : g.readWeights sources reserved = g.readWeights sources' reserved := by
  -- each source raises some channels, and raising commutes
  have hcomm : RightCommutative fun (ws : List UInt8) (x : Nat × UInt8) => raise ws x.1 x.2 :=
    ⟨fun ws x y => raise_right_comm ws x.1 y.1 x.2 y.2⟩
  have hmarks (ss : List Source) (ws : List UInt8) : ss.foldl (Source.mark g.pipes) ws =
      (ss.flatMap (Source.marks g.pipes)).foldl (fun ws x => raise ws x.1 x.2) ws := by
    rw [List.foldl_flatMap]
    congr 1
    funext ws s
    exact s.mark_eq_foldl g.pipes ws
  unfold readWeights
  simp only [hmarks, (h.flatMap_right (Source.marks g.pipes)).foldl_eq]

/-- **The last read channel has a weight if it is reserved.** -/
theorem exists_getElem?_readWeights_last (sources : List Source) :
    ∃ w, (g.readWeights sources true)[g.readChannels - 1]? = some w ∧ 0 < w.toNat := by
  have hlast : g.readChannels - 1 < (g.readWeights sources false).length := by
    rw [length_readWeights]
    exact Nat.sub_lt g.readChannels_pos Nat.one_pos
  have hraised : g.readWeights sources true =
      raise (g.readWeights sources false) (g.readChannels - 1) 1 := rfl
  refine ⟨max (g.readWeights sources false)[g.readChannels - 1] 1, ?_, ?_⟩
  · rw [hraised, getElem?_raise, List.getElem?_eq_getElem hlast, Option.map_eq_map,
      Option.map_some, if_pos rfl]
  · rw [UInt8.toNat_max]
    exact Nat.lt_of_lt_of_le Nat.one_pos (Nat.le_max_right _ _)

end Generation

/-! ### Shares -/

namespace Allocation

theorem totalWeight_eq_sum (weights : List UInt8) :
    totalWeight weights = (weights.map UInt8.toNat).sum :=
  List.sum_eq_foldr.symm

/-- Channels that do not work **weigh nothing**. -/
theorem totalWeight_replicate_zero (channels : Nat) :
    totalWeight (List.replicate channels 0) = 0 := by
  rw [totalWeight_eq_sum, List.map_replicate, List.sum_replicate]
  exact Nat.mul_zero channels

theorem totalWeight_le {weights : List UInt8} {limit : Nat} (h : ∀ w ∈ weights, w.toNat ≤ limit) :
    totalWeight weights ≤ weights.length * limit := by
  have hsum := List.sum_le_card_nsmul (weights.map UInt8.toNat) limit (List.forall_mem_map.mpr h)
  rwa [List.length_map, Nat.nsmul_eq_mul, ← totalWeight_eq_sum] at hsum

theorem toNat_le_totalWeight {weights : List UInt8} {w : UInt8} (h : w ∈ weights) :
    w.toNat ≤ totalWeight weights := by
  rw [totalWeight_eq_sum]
  exact List.single_le_sum (fun _ _ => Nat.zero_le _) _ (List.mem_map_of_mem h)

/-- Raising a channel **takes nothing** from the sum of the weights. -/
theorem totalWeight_le_raise (weights : List UInt8) (channel : Nat) (weight : UInt8) :
    totalWeight weights ≤ totalWeight (raise weights channel weight) := by
  induction weights generalizing channel with
  | nil => exact Nat.zero_le _
  | cons w weights ih =>
    cases channel with
    | zero =>
      have hmax : w.toNat ≤ (max w weight).toNat := by
        rw [UInt8.toNat_max]
        exact Nat.le_max_left _ _
      exact Nat.add_le_add_right hmax _
    | succ channel => exact Nat.add_le_add_left (ih channel) _

/-- A channel that exists, raised to a weight, adds it to the sum. -/
theorem le_totalWeight_raise {weights : List UInt8} {channel : Nat}
    (h : channel < weights.length) (weight : UInt8) :
    weight.toNat ≤ totalWeight (raise weights channel weight) := by
  have hraised : (raise weights channel weight)[channel]? = some (max weights[channel] weight) := by
    rw [getElem?_raise, List.getElem?_eq_getElem h, Option.map_eq_map, Option.map_some, if_pos rfl]
  have hle := toNat_le_totalWeight (List.mem_of_getElem? hraised)
  rw [UInt8.toNat_max] at hle
  exact (Nat.le_max_right _ _).trans hle

/-- A part of a pool fits a word. -/
theorem toNat_part {pool : UInt32} {total : Nat} {weight : UInt8} (h : weight.toNat ≤ total) :
    (part pool total weight).toNat = weight.toNat * (pool.toNat / total) := by
  have hle : weight.toNat * (pool.toNat / total) ≤ pool.toNat :=
    (Nat.mul_le_mul_right _ h).trans (Nat.mul_div_le _ _)
  exact UInt32.toNat_ofNat_of_lt' (Nat.lt_of_le_of_lt hle pool.toNat_lt)

/-- A channel with a weight **has a part of a pool** that is at least as large as all weights
together. -/
theorem part_ne_zero {pool : UInt32} {total : Nat} {weight : UInt8} (hpos : 0 < weight.toNat)
    (h : weight.toNat ≤ total) (hpool : total ≤ pool.toNat) : part pool total weight ≠ 0 := by
  have hunit : 0 < pool.toNat / total := Nat.div_pos hpool (hpos.trans_le h)
  intro hzero
  have hpart : (part pool total weight).toNat = weight.toNat * (pool.toNat / total) := toNat_part h
  rw [hzero, UInt32.toNat_zero] at hpart
  exact Nat.ne_of_lt (Nat.mul_pos hpos hunit) hpart

/-- Together the parts of a pool are **the part of all weights**. -/
theorem sum_part_eq (pool : UInt32) (weights : List UInt8) :
    (weights.map fun w => (part pool (totalWeight weights) w).toNat).sum =
      totalWeight weights * (pool.toNat / totalWeight weights) := by
  have hparts : (weights.map fun w => (part pool (totalWeight weights) w).toNat) =
      weights.map fun w => w.toNat * (pool.toNat / totalWeight weights) :=
    List.map_congr_left fun w hw => toNat_part (toNat_le_totalWeight hw)
  rw [hparts, List.sum_map_mul_right, ← totalWeight_eq_sum]

/-- The parts of a pool are **no more than the pool**. -/
theorem sum_part_le (pool : UInt32) (weights : List UInt8) :
    (weights.map fun w => (part pool (totalWeight weights) w).toNat).sum ≤ pool.toNat := by
  rw [sum_part_eq]
  exact Nat.mul_div_le _ _

/-- A channel is switched on exactly when it has a weight. -/
theorem burstWord_and_burstEnable_iff (a : Allocation) (s : Share) :
    a.burstWord s &&& Register.burstEnable ≠ 0 ↔ 0 < s.weight := by
  unfold burstWord
  by_cases hpos : 0 < s.weight
  · rw [if_pos hpos, or_and_self_right]
    exact iff_of_true (by decide) hpos
  · have hzero : s.weight = 0 := UInt8.toNat_inj.mp (Nat.eq_zero_of_not_pos hpos)
    rw [if_neg hpos, hzero]
    refine iff_of_false ?_ (by decide)
    cases a.burst <;> decide

end Allocation

/-! ### Channels that work -/

theorem Source.totalWeight_le_mark (pipes : List Pipe) (weights : List UInt8) (s : Source) :
    Allocation.totalWeight weights ≤ Allocation.totalWeight (s.mark pipes weights) := by
  rw [s.mark_eq_foldl]
  refine List.foldlRecOn
    (motive := fun ws => Allocation.totalWeight weights ≤ Allocation.totalWeight ws) _ _
    (Nat.le_refl _) ?_
  intro ws hws x _
  exact hws.trans (Allocation.totalWeight_le_raise ws x.1 x.2)

/-- A layout uses the first channel of its pipe, whatever else it uses. -/
theorem PixelLayout.exists_channelWeights_eq (l : PixelLayout) :
    ∃ others, l.channelWeights = (0, 1) :: others := by
  unfold channelWeights
  cases l.planarity <;> cases l.chroma <;> exact ⟨_, rfl⟩

/-- A source whose pipe has a first channel **adds to the weights**. -/
theorem Source.totalWeight_mark_pos {pipes : List Pipe} {weights : List UInt8} {s : Source}
    {p : Pipe} (hp : pipes[s.layer.pipe.toNat]? = some p) (hlt : p.firstChannel < weights.length) :
    0 < Allocation.totalWeight (s.mark pipes weights) := by
  obtain ⟨others, hothers⟩ := s.layout.exists_channelWeights_eq
  simp only [Source.mark, hp, hothers, List.foldl_cons]
  refine List.foldlRecOn (motive := fun ws => 0 < Allocation.totalWeight ws) _ _
    (Allocation.le_totalWeight_raise hlt 1) ?_
  intro ws hws x _
  exact hws.trans_le (Allocation.totalWeight_le_raise ws _ _)

namespace Generation

variable (g : Generation)

/-- **A source makes a channel work.** -/
theorem totalWeight_readWeights_pos {sources : List Source} {s : Source} (hs : s ∈ sources)
    {p : Pipe} (hp : g.pipes[s.layer.pipe.toNat]? = some p) (reserved : Bool) :
    0 < Allocation.totalWeight (g.readWeights sources reserved) := by
  have hfirst : ∀ p ∈ g.pipes, p.firstChannel < g.readChannels := by
    cases g <;> decide
  obtain ⟨before, after, rfl⟩ := List.append_of_mem hs
  -- the source finds all channels, and what comes after it only adds to them
  have hlength : p.firstChannel <
      (before.foldl (Source.mark g.pipes) (List.replicate g.readChannels 0)).length := by
    rw [length_foldl (Source.length_mark g.pipes), List.length_replicate]
    exact hfirst p (List.mem_of_getElem? hp)
  have hmarked : 0 < Allocation.totalWeight
      ((before ++ s :: after).foldl (Source.mark g.pipes) (List.replicate g.readChannels 0)) := by
    rw [List.foldl_append, List.foldl_cons]
    refine List.foldlRecOn (motive := fun ws => 0 < Allocation.totalWeight ws) _ _
      (Source.totalWeight_mark_pos hp hlength) ?_
    intro ws hws t _
    exact hws.trans_le (t.totalWeight_le_mark g.pipes ws)
  unfold readWeights
  split
  · exact hmarked.trans_le (Allocation.totalWeight_le_raise _ _ _)
  · exact hmarked

/-- **A reserved channel works.** -/
theorem totalWeight_readWeights_pos_of_reserved (sources : List Source) :
    0 < Allocation.totalWeight (g.readWeights sources true) := by
  obtain ⟨w, hw, hpos⟩ := g.exists_getElem?_readWeights_last sources
  exact hpos.trans_le (Allocation.toNat_le_totalWeight (List.mem_of_getElem? hw))

end Generation

section Allocate

variable {weights : List UInt8} {pools : Pools} {forCopy : Bool} {a : Allocation}

theorem Allocation.length_copyWeights {channels : Nat} (h : 0 < channels) :
    (copyWeights channels).length = channels := by
  rw [copyWeights, List.length_cons, List.length_replicate]
  omega

/-- **One share for each channel.** -/
theorem length_shares_of_allocate (h : allocate weights pools forCopy = .ok a)
    (hpos : 0 < weights.length) : a.shares.length = weights.length := by
  obtain ⟨-, h⟩ := ite_reject_eq_ok_iff.mp h
  cases h
  rw [List.length_map]
  split
  · exact Allocation.length_copyWeights hpos
  · rfl

theorem forCopy_of_allocate (h : allocate weights pools forCopy = .ok a) :
    a.forCopy = forCopy := by
  obtain ⟨-, h⟩ := ite_reject_eq_ok_iff.mp h
  cases h
  rfl

/-- What a split gives **when it is made by the weights**. -/
theorem allocate_eq_ok_iff :
    allocate weights pools false = .ok a ↔ Allocation.totalWeight weights ≠ 0 ∧
      a = { shares := weights.map (Allocation.share pools (Allocation.totalWeight weights))
            weight := Allocation.totalWeight weights
            burst := .ofWeight (Allocation.totalWeight weights), forCopy := false } := by
  simp only [allocate, Bool.false_eq_true, if_false, ite_reject_eq_ok_iff, Except.ok.injEq,
    eq_comm (a := a), ne_eq]

/-- Where some channel weighs anything, the pools **are split**. -/
theorem Allocation.exists_allocate_of_ne_zero {w : UInt8} (hw : w ∈ weights) (hne : w ≠ 0)
    (pools : Pools) : ∃ a, allocate weights pools false = .ok a := by
  have hpos : 0 < w.toNat := Nat.pos_of_ne_zero fun hzero => hne (UInt8.toNat_inj.mp hzero)
  have htotal : totalWeight weights ≠ 0 := Nat.ne_of_gt (hpos.trans_le (toNat_le_totalWeight hw))
  exact ⟨_, allocate_eq_ok_iff.mpr ⟨htotal, rfl⟩⟩

end Allocate

end Blitter
