import Blitter.Proofs.InWords.Frame

/-!
# Splitting the pools

A pool is divided by the sum of the weights, rounded down, and a channel gets that many units for
each unit of its own weight. So the shares are in the ratio of the weights, and less than one unit
for each unit of weight is left over (`Allocation.IsSplit`). The sum of the weights is all that
channels have in common: a weight that is raised can only make the unit smaller, which takes from
the other channels and shortens the bursts (`Allocation.YieldsTo`).

A split for a raw copy does not look at the weights, and there is one even for no channel at all:
the first channel gets the pools (`Allocation.IsWhole`).
-/

namespace Blitter

/-! ### The pools, one by one -/

/-- One of the pools that channels share. -/
inductive Pool where
  | watermark
  | data
  | command

/-- The size of one pool. -/
def Pools.of (pools : Pools) : Pool → UInt32
  | .watermark => pools.watermark
  | .data => pools.data
  | .command => pools.command

/-- What a share has of one pool. -/
def Share.of (s : Share) : Pool → UInt32
  | .watermark => s.watermark
  | .data => s.data
  | .command => s.command

theorem Allocation.of_share (pools : Pools) (total : Nat) (weight : UInt8) (pool : Pool) :
    (share pools total weight).of pool = part (pools.of pool) total weight := by
  cases pool <;> rfl

/-! ### What channels are programmed with -/

/-- The writes give a register **one value**: they write it, and nothing else to the register. -/
def Gives (ws : List RegisterWrite) (register : Nat) (value : UInt32) : Prop :=
  put register value ∈ ws ∧ ∀ w ∈ ws, w.offset = UInt32.ofNat register → w.value = value

/-- A register of channel `n`, where the registers of all channels start at `base`. -/
def channelRegister (base n register : Nat) : Nat := base + n * 0x10 + register

section ChannelRegister

variable {base m n r r' : Nat} (hbase : base < 0x1000)
include hbase

/-- The offset of a channel's register fits a word. -/
theorem toNat_channelRegister (hn : n < 2 ^ 24) (hr : r < 0x10) :
    (UInt32.ofNat (channelRegister base n r)).toNat = base + n * 0x10 + r :=
  UInt32.toNat_ofNat_of_lt' (show base + n * 0x10 + r < 2 ^ 32 by omega)

/-- So the registers of two channels **lie apart**. -/
theorem channelRegister_inj (hm : m < 2 ^ 24) (hn : n < 2 ^ 24) (hr : r < 0x10) (hr' : r' < 0x10)
    (h : UInt32.ofNat (channelRegister base m r) = UInt32.ofNat (channelRegister base n r')) :
    m = n ∧ r = r' := by
  have hword := congrArg UInt32.toNat h
  rw [toNat_channelRegister hbase hm hr, toNat_channelRegister hbase hn hr'] at hword
  omega

end ChannelRegister

namespace Allocation

/-- The registers of a channel with the words that a share puts into them. -/
def settings (a : Allocation) (s : Share) : List (Nat × UInt32) :=
  [ (Register.channelWatermark, s.watermark), (Register.channelData, s.data),
    (Register.channelCommand, s.command), (Register.channelBurst, a.burstWord s) ]

/-- Every channel is programmed with **its share**, and is switched on exactly if it has a
weight. -/
structure IsProgrammed (a : Allocation) (ws : List RegisterWrite) (channel : Nat → Nat → Nat) :
    Prop where
  share : ∀ n s, a.shares[n]? = some s →
    Gives ws (channel n Register.channelWatermark) s.watermark ∧
      Gives ws (channel n Register.channelData) s.data ∧
      Gives ws (channel n Register.channelCommand) s.command
  enabled : ∀ n s, a.shares[n]? = some s →
    ∃ word, Gives ws (channel n Register.channelBurst) word ∧
      (word &&& Register.burstEnable ≠ 0 ↔ s.weight ≠ 0)

section Programmed

variable {a : Allocation}

theorem mem_writes {channel : Nat → Nat → Nat} {w : RegisterWrite} :
    w ∈ a.writes channel ↔ ∃ n s, a.shares[n]? = some s ∧
      ∃ x ∈ a.settings s, w = put (channel n x.1) x.2 := by
  have hsettings (n : Nat) (s : Share) : a.channelWrites (channel n) s =
      (a.settings s).map fun x => put (channel n x.1) x.2 := rfl
  simp only [writes, List.mem_flatMap, Prod.exists, List.mem_zipIdx_iff_getElem?, hsettings,
    List.mem_map]
  constructor
  · rintro ⟨s, n, hs, register, value, hx, rfl⟩
    exact ⟨n, s, hs, register, value, hx, rfl⟩
  · rintro ⟨n, s, hs, register, value, hx, rfl⟩
    exact ⟨s, n, hs, register, value, hx, rfl⟩

/-- A share sets each register of its channel **once**. -/
theorem eq_of_mem_settings {s : Share} {x y : Nat × UInt32} (hx : x ∈ a.settings s)
    (hy : y ∈ a.settings s) (h : x.1 = y.1) : x = y := by
  have hnodup : ((a.settings s).map Prod.fst).Nodup := by
    show [0x0, 0x4, 0x8, 0xC].Nodup
    decide
  exact List.inj_on_of_nodup_map hnodup hx hy h

theorem lt_of_mem_settings {s : Share} {x : Nat × UInt32} (hx : x ∈ a.settings s) : x.1 < 0x10 := by
  have hregisters : ∀ register ∈ (a.settings s).map Prod.fst, register < 0x10 := by
    show ∀ register ∈ [0x0, 0x4, 0x8, 0xC], register < 0x10
    decide
  exact hregisters _ (List.mem_map_of_mem hx)

section Base

variable {base control : Nat} (hlength : a.shares.length ≤ 2 ^ 24) (hbase : base < 0x1000)
  (hcontrol : control < base) (word : UInt32)
include hlength hbase hcontrol

/-- What a share puts into a register, **no other write changes**: those of other channels lie apart
from it, and the control register lies before all of them. -/
theorem gives_of_mem_settings {n : Nat} {s : Share} (hs : a.shares[n]? = some s)
    {x : Nat × UInt32} (hx : x ∈ a.settings s) :
    Gives (put control word :: a.writes (channelRegister base)) (channelRegister base n x.1)
      x.2 := by
  have hlt {m : Nat} {t : Share} (ht : a.shares[m]? = some t) : m < 2 ^ 24 :=
    (List.getElem?_eq_some_iff.mp ht).1.trans_le hlength
  refine ⟨List.mem_cons_of_mem _ (mem_writes.mpr ⟨n, s, hs, x, hx, rfl⟩), ?_⟩
  intro w hw hoffset
  rcases List.mem_cons.mp hw with rfl | hw
  · have hwhole : (UInt32.ofNat control).toNat = control :=
      UInt32.toNat_ofNat_of_lt' (show control < 2 ^ 32 by omega)
    have hword : (UInt32.ofNat control).toNat = _ := congrArg UInt32.toNat hoffset
    rw [hwhole, toNat_channelRegister hbase (hlt hs) (lt_of_mem_settings hx)] at hword
    omega
  · obtain ⟨m, t, ht, y, hy, rfl⟩ := mem_writes.mp hw
    obtain ⟨rfl, hregister⟩ := channelRegister_inj hbase (hlt ht) (hlt hs) (lt_of_mem_settings hy)
      (lt_of_mem_settings hx) hoffset
    obtain rfl : t = s := Option.some.inj (ht.symm.trans hs)
    exact congrArg Prod.snd (eq_of_mem_settings hy hx hregister)

theorem isProgrammed_writes :
    a.IsProgrammed (put control word :: a.writes (channelRegister base))
      (channelRegister base) := by
  have hgives (n : Nat) (s : Share) (hs : a.shares[n]? = some s) :
      ∀ x ∈ a.settings s, Gives (put control word :: a.writes (channelRegister base))
        (channelRegister base n x.1) x.2 :=
    fun _ hx => gives_of_mem_settings hlength hbase hcontrol word hs hx
  simp only [settings, List.forall_mem_cons] at hgives
  constructor
  case share =>
    intro n s hs
    obtain ⟨hwatermark, hdata, hcommand, -⟩ := hgives n s hs
    exact ⟨hwatermark, hdata, hcommand⟩
  case enabled =>
    intro n s hs
    obtain ⟨-, -, -, hburst, -⟩ := hgives n s hs
    refine ⟨a.burstWord s, hburst, ?_⟩
    rw [burstWord_and_burstEnable_iff, UInt8.pos_iff_ne_zero]

end Base

/-- **The channels of both directions are programmed with their shares.** -/
theorem isProgrammed (hlength : a.shares.length ≤ 2 ^ 24) :
    a.IsProgrammed a.readWrites Register.readChannel ∧
      a.IsProgrammed a.writeWrites Register.writeChannel :=
  have hread : (0x110 : Nat) < 0x1000 := by decide
  have hwrite : (0x210 : Nat) < 0x1000 := by decide
  ⟨isProgrammed_writes hlength hread (by decide) _,
    isProgrammed_writes hlength hwrite (by decide) _⟩

end Programmed

/-! ### Splits by weight -/

/-- The pools are split **in proportion to the weights**. -/
structure IsSplit (a : Allocation) (weights : List UInt8) (pools : Pools) : Prop where
  weight : a.shares.map Share.weight = weights
  /-- A channel gets its weight times a unit that is the same for all. -/
  part : ∀ s ∈ a.shares, ∀ pool, (s.of pool).toNat =
    s.weight.toNat * ((pools.of pool).toNat / (weights.map UInt8.toNat).sum)
  ratio : ∀ s ∈ a.shares, ∀ t ∈ a.shares, ∀ pool,
    (s.of pool).toNat * t.weight.toNat = (t.of pool).toNat * s.weight.toNat
  idle : ∀ s ∈ a.shares, s.weight = 0 → ∀ pool, s.of pool = 0
  /-- No pool is given out more than once. -/
  whole : ∀ pool, (a.shares.map fun s => (s.of pool).toNat).sum ≤ (pools.of pool).toNat
  /-- What is left over of a pool is less than the sum of the weights. -/
  rest : ∀ pool, (pools.of pool).toNat <
    (a.shares.map fun s => (s.of pool).toNat).sum + (weights.map UInt8.toNat).sum

/-- A split **yields to a channel**: it has bursts that are no longer, and shares of the other
channels that are no larger. -/
structure YieldsTo (a' a : Allocation) (n : Nat) : Prop where
  burst : a'.burst.code ≤ a.burst.code
  others : ∀ m ≠ n, ∀ s, a.shares[m]? = some s →
    ∃ s', a'.shares[m]? = some s' ∧ s'.weight = s.weight ∧ ∀ pool, s'.of pool ≤ s.of pool

section Split

variable {weights : List UInt8} {pools : Pools} {a : Allocation}

theorem isSplit_of_allocate (h : allocate weights pools false = .ok a) :
    a.IsSplit weights pools := by
  obtain ⟨htotal, rfl⟩ := allocate_eq_ok_iff.mp h
  have hpart : ∀ w ∈ weights, ∀ pool, ((share pools (totalWeight weights) w).of pool).toNat =
      w.toNat * ((pools.of pool).toNat / totalWeight weights) := by
    intro w hw pool
    rw [of_share, toNat_part (toNat_le_totalWeight hw)]
  have hsum (pool : Pool) : ((weights.map (share pools (totalWeight weights))).map
      fun s => (s.of pool).toNat).sum =
        totalWeight weights * ((pools.of pool).toNat / totalWeight weights) := by
    rw [List.map_map, ← sum_part_eq]
    simp only [Function.comp_def, of_share]
  constructor
  case weight =>
    rw [List.map_map]
    exact List.map_id _
  case part =>
    intro s hs pool
    obtain ⟨w, hw, rfl⟩ := List.mem_map.mp hs
    rw [← totalWeight_eq_sum]
    exact hpart w hw pool
  case ratio =>
    intro s hs t ht pool
    obtain ⟨v, hv, rfl⟩ := List.mem_map.mp hs
    obtain ⟨w, hw, rfl⟩ := List.mem_map.mp ht
    rw [hpart v hv, hpart w hw]
    show v.toNat * _ * w.toNat = w.toNat * _ * v.toNat
    rw [Nat.mul_right_comm, Nat.mul_comm v.toNat, Nat.mul_right_comm]
  case idle =>
    intro s hs hweight pool
    obtain ⟨w, hw, rfl⟩ := List.mem_map.mp hs
    obtain rfl : w = 0 := hweight
    exact UInt32.toNat_inj.mp ((hpart 0 hw pool).trans (Nat.zero_mul _))
  case whole =>
    intro pool
    rw [hsum]
    exact Nat.mul_div_le _ _
  case rest =>
    intro pool
    rw [hsum, ← totalWeight_eq_sum, ← Nat.mul_succ]
    exact Nat.lt_mul_div_succ _ (Nat.pos_of_ne_zero htotal)

/-- There is nothing to split for **exactly when no channel has a weight**. -/
theorem allocate_eq_reject_iff :
    allocate weights pools false = reject .noActiveChannel ↔ ∀ w ∈ weights, w = 0 := by
  have hzero : totalWeight weights = 0 ↔ ∀ w ∈ weights, w = 0 := by
    rw [totalWeight_eq_sum, List.sum_eq_zero_iff, List.forall_mem_map]
    exact forall₂_congr fun w _ => UInt8.toNat_inj (b := 0)
  rw [← hzero]
  simp only [allocate, Bool.false_eq_true, if_false]
  split
  · exact iff_of_true rfl ‹_›
  · exact iff_of_false reject_ne_ok.symm ‹_›

theorem code_ofWeight_le {total total' : Nat} (h : total ≤ total') :
    (Burst.ofWeight total').code ≤ (Burst.ofWeight total).code := by
  unfold Burst.ofWeight
  by_cases hlong : total ≤ 1
  · rw [if_pos hlong]
    split <;> [decide; (split <;> decide)]
  · rw [if_neg hlong, if_neg (show ¬ total' ≤ 1 by omega)]
    by_cases hmedium : total ≤ 3
    · rw [if_pos hmedium]
      split <;> decide
    · rw [if_neg hmedium, if_neg (show ¬ total' ≤ 3 by omega)]
      exact UInt32.le_refl _

/-- Raising a weight **adds to the sum** of the weights. -/
theorem totalWeight_le_set {n : Nat} {w w' : UInt8} (hn : weights[n]? = some w) (hle : w ≤ w') :
    totalWeight weights ≤ totalWeight (weights.set n w') := by
  have hraise : raise weights n w' = weights.set n w' := by
    obtain ⟨hlt, rfl⟩ := List.getElem?_eq_some_iff.mp hn
    have hmax : max weights[n] w' = w' := by
      apply UInt8.toNat_inj.mp
      rw [UInt8.toNat_max, max_eq_right (UInt8.le_iff_toNat_le.mp hle)]
    rw [raise, List.modify_eq_set_getElem?, hn]
    simp [hmax]
  rw [← hraise]
  exact totalWeight_le_raise weights n w'

/-- **A weight that is raised takes from the other channels**, and its own channel alone can
gain. -/
theorem exists_yieldsTo (h : allocate weights pools false = .ok a) {n : Nat} {w w' : UInt8}
    (hn : weights[n]? = some w) (hle : w ≤ w') :
    ∃ a', allocate (weights.set n w') pools false = .ok a' ∧ a'.YieldsTo a n := by
  obtain ⟨htotal, rfl⟩ := allocate_eq_ok_iff.mp h
  have hmono := totalWeight_le_set hn hle
  have htotal' : totalWeight (weights.set n w') ≠ 0 := by omega
  refine ⟨_, allocate_eq_ok_iff.mpr ⟨htotal', rfl⟩, code_ofWeight_le hmono, ?_⟩
  intro m hm s hs
  rw [List.getElem?_map] at hs
  obtain ⟨v, hv, rfl⟩ := Option.map_eq_some_iff.mp hs
  have hv' : (weights.set n w')[m]? = some v := by
    rw [List.getElem?_set_ne hm.symm, hv]
  refine ⟨share pools (totalWeight (weights.set n w')) v, ?_, rfl, fun pool => ?_⟩
  · rw [List.getElem?_map, hv', Option.map_some]
  · rw [of_share, of_share, UInt32.le_iff_toNat_le,
      toNat_part (toNat_le_totalWeight (List.mem_of_getElem? hv)),
      toNat_part (toNat_le_totalWeight (List.mem_of_getElem? hv'))]
    exact Nat.mul_le_mul_left _ (Nat.div_le_div_left hmono (Nat.pos_of_ne_zero htotal))

end Split

/-! ### Splits for a copy -/

/-- The first channel has **each whole pool**, and the other channels have nothing. -/
structure IsWhole (a : Allocation) (channels : Nat) (pools : Pools) : Prop where
  length : a.shares.length = max 1 channels
  first : ∀ s, a.shares[0]? = some s → ∀ pool, s.of pool = pools.of pool
  others : ∀ n ≠ 0, ∀ s, a.shares[n]? = some s → ∀ pool, s.of pool = 0

/-- A split for a raw copy is **made whatever the weights** are. -/
theorem exists_isWhole (weights : List UInt8) (pools : Pools) :
    ∃ a, (∀ weights' : List UInt8, weights'.length = weights.length →
      allocate weights' pools true = .ok a) ∧ a.IsWhole weights.length pools := by
  have htotal : totalWeight (copyWeights weights.length) = 1 := by
    rw [copyWeights]
    show 1 + totalWeight (List.replicate (weights.length - 1) 0) = 1
    rw [totalWeight_replicate_zero]
  refine ⟨{ shares := (copyWeights weights.length).map (share pools 1), weight := 1, burst := .long,
            forCopy := true }, ?_, ?_, ?_, ?_⟩
  · intro weights' hlength
    simp only [allocate, if_true, hlength, htotal]
    rfl
  · rw [List.length_map, copyWeights, List.length_cons, List.length_replicate]
    omega
  · intro s hs pool
    obtain rfl : share pools 1 1 = s := Option.some.inj hs
    rw [of_share]
    apply UInt32.toNat_inj.mp
    rw [toNat_part (by decide), Nat.div_one]
    exact Nat.one_mul _
  · intro n hn s hs pool
    obtain ⟨m, rfl⟩ := Nat.exists_eq_succ_of_ne_zero hn
    rw [copyWeights, List.map_cons, List.getElem?_cons_succ, List.getElem?_map] at hs
    obtain ⟨w, hw, rfl⟩ := Option.map_eq_some_iff.mp hs
    obtain ⟨-, rfl⟩ := List.mem_replicate.mp (List.mem_of_getElem? hw)
    rw [of_share]
    apply UInt32.toNat_inj.mp
    rw [toNat_part (by decide)]
    exact Nat.zero_mul _

end Allocation

/-- **The split of the pools is proportional, bounded and monotone**, and words hold all that it
takes. By weight there is one exactly if some channel has a weight; for a copy there always is, and
it depends on nothing but the number of channels. -/
theorem allocate_isSplit_and_isWhole {weights : List UInt8} (h : weights.length < 2 ^ 24)
    (pools : Pools) :
    (allocate weights pools false = reject .noActiveChannel ↔ ∀ w ∈ weights, w = 0) ∧
      ((∃ w ∈ weights, w ≠ 0) → ∃ a, allocate weights pools false = .ok a ∧
        a.IsSplit weights pools ∧
        a.IsProgrammed a.readWrites Register.readChannel ∧
        a.IsProgrammed a.writeWrites Register.writeChannel ∧
        ∀ n w w', weights[n]? = some w → w ≤ w' →
          ∃ a', allocate (weights.set n w') pools false = .ok a' ∧ a'.YieldsTo a n) ∧
      (∃ a, (∀ weights' : List UInt8, weights'.length = weights.length →
          allocate weights' pools true = .ok a) ∧ a.IsWhole weights.length pools) ∧
      ∀ forCopy, InWords.allocate weights pools forCopy =
        InWords.of (allocate weights pools forCopy) := by
  refine ⟨Allocation.allocate_eq_reject_iff, ?_, Allocation.exists_isWhole weights pools, ?_⟩
  · rintro ⟨w, hw, hne⟩
    obtain ⟨a, ha⟩ := Allocation.exists_allocate_of_ne_zero hw hne pools
    have hlength : a.shares.length = weights.length :=
      length_shares_of_allocate ha (List.length_pos_of_mem hw)
    obtain ⟨hread, hwrite⟩ := a.isProgrammed (by omega)
    exact ⟨a, ha, Allocation.isSplit_of_allocate ha, hread, hwrite,
      fun n w w' hn hle => Allocation.exists_yieldsTo ha hn hle⟩
  · intro forCopy
    have hle : Allocation.totalWeight weights ≤ weights.length * 255 :=
      Allocation.totalWeight_le fun w _ => Nat.le_of_lt_succ w.toNat_lt
    exact InWords.allocate_eq (by omega) pools

/-- Three channels of which the middle one does not work: the others get a third and two thirds of
each pool, as far as it divides. -/
theorem allocate_isSplit_and_isWhole_threeChannels :
    ∃ a, allocate [1, 0, 2] ⟨64, 100, 32⟩ false = .ok a ∧ a.IsSplit [1, 0, 2] ⟨64, 100, 32⟩ := by
  have hlength : ([1, 0, 2] : List UInt8).length < 2 ^ 24 := by decide
  obtain ⟨-, hsplit, -⟩ := allocate_isSplit_and_isWhole hlength ⟨64, 100, 32⟩
  obtain ⟨a, ha, hisSplit, -⟩ := hsplit ⟨1, by decide, by decide⟩
  exact ⟨a, ha, hisSplit⟩

end Blitter
