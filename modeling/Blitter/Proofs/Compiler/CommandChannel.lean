import Blitter.Proofs.Compiler.Passes

/-!
# The channel of the command buffers

Command buffers are fetched through the last read channel, so a pass that is replayed from one has
to leave that channel switched on and with something of every pool. A compiler whose programs are
replayed keeps the channel in every pass that composes or fills: a share of the pools is never
empty, since the pools hold more than the weights of all channels together
(`Frame.readChannelWorks_iff_of_allocate`). **Copies do not keep it.** They split the pools without
looking at the weights, and the first channel gets everything, the command buffers' channel
nothing (`Produces.readChannelWorks_last_iff`).
-/

namespace Blitter

/-- The read channel **can fetch**: it is switched on and has something of every pool. -/
structure RegisterFile.ReadChannelWorks (f : RegisterFile) (n : Nat) : Prop where
  enabled : f.read (Register.readChannel n Register.channelBurst) &&& Register.burstEnable ≠ 0
  watermark : f.read (Register.readChannel n Register.channelWatermark) ≠ 0
  data : f.read (Register.readChannel n Register.channelData) ≠ 0
  command : f.read (Register.readChannel n Register.channelCommand) ≠ 0

/-! ### Shares that work -/

namespace Allocation

variable {a : Allocation} {s : Share} {n : Nat}

theorem mem_readWrites {w : RegisterWrite} (hs : a.shares[n]? = some s)
    (hw : w ∈ a.channelWrites (Register.readChannel n) s) : w ∈ a.readWrites :=
  List.mem_cons_of_mem _ (List.mem_flatMap.mpr ⟨(s, n), List.mem_zipIdx_iff_getElem?.mpr hs, hw⟩)

/-- A channel can fetch after writes that give it its share **exactly when the share says so**. -/
theorem readChannelWorks_iff {g : Generation} {pass : Pass} (h : pass.IsComplete g)
    (ha : a.readWrites ⊆ pass.writes) (hs : a.shares[n]? = some s) (f : RegisterFile) :
    (f.apply pass.writes).ReadChannelWorks n ↔
      0 < s.weight ∧ s.watermark ≠ 0 ∧ s.data ≠ 0 ∧ s.command ≠ 0 := by
  have hread : ∀ w ∈ a.channelWrites (Register.readChannel n) s, w ∈ pass.writes :=
    fun w hw => ha (mem_readWrites hs hw)
  simp only [channelWrites, List.forall_mem_cons] at hread
  obtain ⟨hwatermark, hdata, hcommand, hburst, -⟩ := hread
  rw [← burstWord_and_burstEnable_iff a s, ← h.read_apply_put f hwatermark,
    ← h.read_apply_put f hdata, ← h.read_apply_put f hcommand, ← h.read_apply_put f hburst]
  exact ⟨fun ⟨hb, hw, hd, hc⟩ => ⟨hb, hw, hd, hc⟩, fun ⟨hb, hw, hd, hc⟩ => ⟨hb, hw, hd, hc⟩⟩

end Allocation

/-- The read channels' pools are larger than the weights of all channels together. -/
theorem Generation.totalWeight_readWeights_le (g : Generation) (sources : List Source)
    (reserved : Bool) :
    let total := Allocation.totalWeight (g.readWeights sources reserved)
    total ≤ g.readPools.watermark.toNat ∧ total ≤ g.readPools.data.toNat ∧
      total ≤ g.readPools.command.toNat := by
  have hpools : g.readChannels * 2 ≤ g.readPools.watermark.toNat ∧
      g.readChannels * 2 ≤ g.readPools.data.toNat ∧
      g.readChannels * 2 ≤ g.readPools.command.toNat := by
    cases g <;> decide
  have htotal := Allocation.totalWeight_le (g.toNat_le_of_mem_readWeights sources reserved)
  rw [length_readWeights] at htotal
  exact ⟨htotal.trans hpools.1, htotal.trans hpools.2.1, htotal.trans hpools.2.2⟩

namespace Frame

variable {f : Frame} {g : Generation} {sources : List Source} {reserved : Bool}

theorem readWrites_subset_pass (f : Frame) : f.read.readWrites ⊆ f.pass.writes := by
  intro w hw
  simp only [pass, List.mem_append, hw, or_true, true_or]

/-- A read channel of a frame can fetch **exactly when it has a weight**. -/
theorem readChannelWorks_iff_of_allocate (hf : f.Sound g)
    (h : allocate (g.readWeights sources reserved) g.readPools false = .ok f.read) {n : Nat}
    {w : UInt8} (hw : (g.readWeights sources reserved)[n]? = some w) (rf : RegisterFile) :
    (rf.apply f.pass.writes).ReadChannelWorks n ↔ 0 < w := by
  obtain ⟨-, hread⟩ := allocate_eq_ok_iff.mp h
  have hshare : f.read.shares[n]? = some (Allocation.share g.readPools
      (Allocation.totalWeight (g.readWeights sources reserved)) w) := by
    rw [hread, List.getElem?_map, hw, Option.map_some]
  rw [Allocation.readChannelWorks_iff hf.isComplete_pass f.readWrites_subset_pass hshare rf]
  refine and_iff_left_of_imp fun hpos => ?_
  obtain ⟨hwatermark, hdata, hcommand⟩ := g.totalWeight_readWeights_le sources reserved
  have hle := Allocation.toNat_le_totalWeight (List.mem_of_getElem? hw)
  have hpart {pool : UInt32}
      (hpool : Allocation.totalWeight (g.readWeights sources reserved) ≤ pool.toNat) :=
    Allocation.part_ne_zero (UInt8.lt_iff_toNat_lt.mp hpos) hle hpool
  exact ⟨hpart hwatermark, hpart hdata, hpart hcommand⟩

/-- The last read channel is kept where it is reserved. -/
theorem readChannelWorks_last (hf : f.Sound g)
    (h : allocate (g.readWeights sources true) g.readPools false = .ok f.read)
    (rf : RegisterFile) :
    (rf.apply f.pass.writes).ReadChannelWorks (g.readChannels - 1) := by
  obtain ⟨w, hw, hpos⟩ := g.exists_getElem?_readWeights_last sources
  exact (readChannelWorks_iff_of_allocate hf h hw rf).mpr (UInt8.lt_iff_toNat_lt.mpr hpos)

end Frame

/-! ### Programs that are replayed -/

namespace Compiler

variable {c : Compiler} {program : Program} {pass : Pass}

/-- Every pass that composes keeps the channel. -/
theorem readChannelWorks_last_of_compose {r : Request} (h : c.compose r = .ok program)
    (hreplays : c.replays = true) (hp : pass ∈ program.passes) (f : RegisterFile) :
    (f.apply pass.writes).ReadChannelWorks (c.generation.readChannels - 1) := by
  have hreserves : c.reserves r = true := by
    rw [reserves, hreplays, Bool.true_or]
  obtain ⟨frames, hframes, hpasses⟩ := exists_frames_of_compose h
  rw [hpasses] at hp
  obtain ⟨frame, hframe, rfl⟩ := List.mem_map.mp hp
  have hsound := sound_of_mem_frames hframes hframe
  obtain ⟨i, hi⟩ := List.mem_iff_getElem?.mp hframe
  obtain ⟨target, sources, -, -, ⟨-, -, hwhole⟩ | ⟨-, jobs, job, -, -, hstrip⟩⟩ :=
    getElem?_frames hframes hi
  · have hread := read_of_composeFrame hwhole
    rw [hreserves] at hread
    exact Frame.readChannelWorks_last hsound hread f
  · obtain ⟨found, -, hstrip⟩ := Outcome.bind_eq_ok_iff.mp hstrip
    have hread := read_of_composeFrame hstrip
    rw [hreserves, Bool.true_or] at hread
    exact Frame.readChannelWorks_last hsound hread f

/-- The pass that fills keeps the channel. -/
theorem readChannelWorks_last_of_fill {fill : Fill} {output : Output}
    (h : c.fill fill output = .ok program) (hp : pass ∈ program.passes) (f : RegisterFile) :
    (f.apply pass.writes).ReadChannelWorks (c.generation.readChannels - 1) := by
  obtain ⟨frame, hframe, rfl⟩ := fill_eq_ok_iff.mp h
  obtain rfl := List.mem_singleton.mp hp
  have hsound := sound_of_fillFrame hframe
  obtain ⟨_, composed, -, hcomposed, rfl⟩ := fillFrame_eq_ok_iff.mp hframe
  have hread := read_of_composeFrame hcomposed
  exact Frame.readChannelWorks_last hsound hread f

/-- The pass that copies **switches the channel off**. -/
theorem not_readChannelWorks_last_of_copy {k : Copy} (h : c.copy k = .ok program)
    (hp : pass ∈ program.passes) (f : RegisterFile) :
    ¬ (f.apply pass.writes).ReadChannelWorks (c.generation.readChannels - 1) := by
  have hcomplete := isComplete_of_copy h hp
  obtain ⟨read, write, -, hread, -, rfl⟩ := copy_eq_ok_iff.mp h
  obtain rfl := List.mem_singleton.mp hp
  have hshare : ∃ s, read.shares[c.generation.readChannels - 1]? = some s ∧ ¬ 0 < s.weight := by
    unfold copyRead at hread
    revert hread
    cases c.generation
    · rintro ⟨⟩
      exact ⟨_, rfl, by decide⟩
    · rintro ⟨⟩
      exact ⟨_, rfl, by decide⟩
  obtain ⟨s, hs, hweight⟩ := hshare
  have hmem : read.readWrites ⊆ headerWrites 0 .copy false ++ read.readWrites ++
      write.writeWrites ++ copyWrites k := by
    intro w hw
    simp only [List.mem_append, hw, or_true, true_or]
  rw [Allocation.readChannelWorks_iff hcomplete hmem hs f]
  exact fun hworks => hweight hworks.1

theorem operation_of_compose {r : Request} (h : c.compose r = .ok program) :
    program.operation = .compose := by
  obtain ⟨_, _, -, -, rfl⟩ := compose_eq_ok_iff.mp h
  rfl

/-- **Which passes keep the channel of the command buffers**, where programs are replayed from
them: those of every program but a copy. -/
theorem Produces.readChannelWorks_last_iff (h : c.Produces program) (hreplays : c.replays = true)
    (hp : pass ∈ program.passes) (f : RegisterFile) :
    (f.apply pass.writes).ReadChannelWorks (c.generation.readChannels - 1) ↔
      program.operation ≠ .copy := by
  cases h with
  | compose r h =>
    refine iff_of_true (readChannelWorks_last_of_compose h hreplays hp f) ?_
    rw [operation_of_compose h]
    nofun
  | fill fill output h =>
    refine iff_of_true (readChannelWorks_last_of_fill h hp f) ?_
    obtain ⟨_, -, ⟨⟩⟩ := Outcome.bind_eq_ok_iff.mp h
    nofun
  | copy k h =>
    refine iff_of_false (not_readChannelWorks_last_of_copy h hp f) ?_
    obtain ⟨_, _, -, -, -, rfl⟩ := copy_eq_ok_iff.mp h
    exact fun hne => hne rfl

/-- A compiler whose programs are replayed from command buffers. -/
def replaying : Compiler := { ofGeneration .normal with replays := true }

/-- A small raw copy. -/
def smallCopy : Copy := ⟨0x1000, 256, 16, 256, 0x80000, 256⟩

/-- The strips of a mirrored layer of video are replayed through a channel that works. -/
theorem readChannelWorks_last_wideVideo :
    ∃ program pass, replaying.compose (wideVideo .hFlip ⟨0, 0, 512, 256⟩) = .ok program ∧
      pass ∈ program.passes ∧ (RegisterFile.zero.apply pass.writes).ReadChannelWorks 11 := by
  have hc : replaying.compose (wideVideo .hFlip ⟨0, 0, 512, 256⟩) = .ok _ := rfl
  refine ⟨_, _, hc, List.mem_cons_self,
    (Produces.readChannelWorks_last_iff (.compose _ hc) rfl List.mem_cons_self _).mpr ?_⟩
  rw [operation_of_compose hc]
  decide

/-- A copy is replayed through a channel that **it has just switched off**. -/
theorem not_readChannelWorks_last_smallCopy :
    ∃ program pass, replaying.copy smallCopy = .ok program ∧ pass ∈ program.passes ∧
      ¬ (RegisterFile.zero.apply pass.writes).ReadChannelWorks 11 := by
  have hc : replaying.copy smallCopy = .ok _ := rfl
  exact ⟨_, _, hc, List.mem_cons_self,
    not_readChannelWorks_last_of_copy hc List.mem_cons_self _⟩

end Compiler

end Blitter
