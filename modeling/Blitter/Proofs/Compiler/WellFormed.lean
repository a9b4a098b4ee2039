import Blitter.Proofs.Compiler.Passes
import Blitter.Proofs.Register.Units

/-!
# Passes are well formed

Every pass that a compiler produces is `Pass.WellFormed`: it opens with its own number, writes no
register twice and none that the engine is started and watched through, keeps what it writes for a
read pipe inside the pipe's block, and switches each unit on after the unit's other registers. All
of it follows from one fact, that a pass writes registers of the map in the map's order
(`Reaches.switchesLast`).
-/

namespace Blitter

namespace Pass

/-- The pass writes for the read pipes **one after the other**, each inside the pipe's block, and
what comes before and after is outside the blocks. A pass that copies writes nothing for them. -/
structure PipesApart (g : Generation) (pass : Pass) (before after : List RegisterWrite)
    (part : Pipe → List RegisterWrite) : Prop where
  writes : pass.writes = before ++ g.pipes.flatMap part ++ after
  parts : ∀ p ∈ g.pipes, part p = [] ∨ part p = p.offWrites ∨ ∃ s, part p = p.writes s
  inside : ∀ p ∈ g.pipes, ∀ w ∈ part p, (RegisterUnit.pipe p.index).Holds w.offset.toNat
  outside : ∀ p ∈ g.pipes, ∀ w ∈ before ++ after,
    ¬ (RegisterUnit.pipe p.index).Holds w.offset.toNat

/-- The pass at place `i` of a program is **well formed**. -/
structure WellFormed (g : Generation) (i : Nat) (pass : Pass) : Prop where
  number : pass.commandId.toNat = i
  header : ∃ mode rest, pass.writes =
    put Register.commandId pass.commandId :: put Register.workMode mode :: rest
  once : (pass.writes.map RegisterWrite.offset).Nodup
  inside : ∀ w ∈ pass.writes, 4 ∣ w.offset.toNat ∧ w.offset.toNat < Register.windowSize
  apart : ∀ w ∈ pass.writes, w.offset.toNat ∉ Register.interface
  pipes : ∃ before after part, pass.PipesApart g before after part
  switched : ∀ u ∈ RegisterUnit.all g,
    ∀ w ∈ (pass.writes.filter fun w => u.Holds w.offset.toNat).getLast?,
      w.offset.toNat = u.control

/-- Writes in the map's order make a pass well formed, if it opens like one, keeps the pipes apart,
and writes the control word of every unit that it writes anything for. -/
theorem WellFormed.of_reaches {g : Generation} {pass : Pass} {registers : List Nat}
    (h : Reaches pass.writes registers) (hall : registers.Sublist (Register.all g))
    (hheader : ∃ mode rest, pass.writes =
      put Register.commandId pass.commandId :: put Register.workMode mode :: rest)
    (hpipes : ∃ before after part, pass.PipesApart g before after part)
    (hcontrol : ∀ u ∈ RegisterUnit.all g,
      u.control ∈ registers ∨ ∀ r ∈ registers, ¬ u.Holds r) :
    pass.WellFormed g pass.commandId.toNat where
  number := rfl
  header := hheader
  once := h.nodup_map_offset hall
  inside := by
    intro w hw
    have hr := hall.subset (h.toNat_offset_mem hall hw)
    exact ⟨(Register.lieIn_all g).aligned _ hr, ((Register.lieIn_all g).bounds _ hr).2⟩
  apart := by
    intro w hw
    exact Register.notMem_interface_of_mem_all (hall.subset (h.toNat_offset_mem hall hw))
  pipes := hpipes
  switched := fun u hu _ hw => h.switchesLast hall hu (hcontrol u hu) hw

end Pass

/-! ### Registers of the read pipes -/

/-- Every pipe's block lies between the registers of the engine as a whole and those of the
compositor. -/
theorem Generation.not_holds_pipe {g : Generation} {p : Pipe} (hp : p ∈ g.pipes) {r : Nat}
    (hr : r < Register.pipeBase 0 ∨ Register.mixControl ≤ r) :
    ¬ (RegisterUnit.pipe p.index).Holds r := by
  have hblocks : ∀ p ∈ g.pipes, Register.pipeBase 0 ≤ Register.pipeBase p.index ∧
      Register.pipeBase (p.index + 1) ≤ Register.mixControl := by
    cases g <;> decide
  obtain ⟨hlow, hhigh⟩ := hblocks p hp
  rintro ⟨hstart, hstop⟩
  rcases hr with hr | hr
  · exact Nat.not_lt.mpr (hlow.trans hstart) hr
  · exact Nat.not_lt.mpr (hhigh.trans hr) hstop

/-! ### Frames -/

namespace Frame

/-- What a frame writes for a pipe. -/
def part (f : Frame) (p : Pipe) : List RegisterWrite :=
  match f.sourceOf? p with
  | some s => p.writes s
  | none => p.offWrites

theorem reaches_part (f : Frame) (p : Pipe) :
    Reaches (f.part p) (p.registers (f.use.pipe p)) := by
  have huse : f.use.pipe p = (f.sourceOf? p).map p.useOf := rfl
  unfold part
  rw [huse]
  cases f.sourceOf? p with
  | some s => exact p.reaches_writes s
  | none => exact rfl

theorem part_registers_sublist {g : Generation} (f : Frame) {p : Pipe} (hp : p ∈ g.pipes) :
    (p.registers (f.use.pipe p)).Sublist (Register.all g) := by
  have hpipe : (p.registers (f.use.pipe p)).Sublist
      (g.pipes.flatMap fun p => p.registers (f.use.pipe p)) := by
    have hone := (List.singleton_sublist.mpr hp).flatMap fun p => p.registers (f.use.pipe p)
    rwa [List.flatMap_singleton] at hone
  have huse : (g.pipes.flatMap fun p => p.registers (f.use.pipe p)).Sublist (f.registers g) := by
    unfold registers Use.registers
    rw [List.append_assoc _ (Register.mixRegisters _)]
    exact (List.sublist_append_left _ _).trans (List.sublist_append_right _ _)
  exact hpipe.trans (huse.trans (f.registers_sublist g))

/-- The writes after those for the read pipes are for the compositor and the write pipe. -/
theorem reaches_mixed (f : Frame) : Reaches (f.wiring.writes ++ f.target.writes)
    (Register.mixRegisters f.use.subframe ++
      Register.outRegisters f.use.outPlanes f.use.outColor) :=
  f.wiring.reaches_writes.append f.target.reaches_writes

theorem mixed_sublist (g : Generation) (f : Frame) :
    (Register.mixRegisters f.use.subframe ++
      Register.outRegisters f.use.outPlanes f.use.outColor).Sublist (Register.all g) := by
  have huse : (Register.mixRegisters f.use.subframe ++
      Register.outRegisters f.use.outPlanes f.use.outColor).Sublist (f.registers g) := by
    unfold registers Use.registers
    rw [List.append_assoc _ (Register.mixRegisters _)]
    exact (List.sublist_append_right _ _).trans (List.sublist_append_right _ _)
  exact huse.trans (f.registers_sublist g)

namespace Sound

variable {g : Generation} {f : Frame} (h : f.Sound g)
include h

theorem pipesApart : f.pass.PipesApart g
    (headerWrites f.commandId f.operation f.isStrip ++ f.read.readWrites ++ f.write.writeWrites)
    (f.wiring.writes ++ f.target.writes) f.part where
  writes := by
    rw [pass, pipeWrites, h.pipes, List.append_assoc _ f.wiring.writes]
    rfl
  parts := by
    intro p _
    unfold part
    cases f.sourceOf? p with
    | none => exact .inr (.inl rfl)
    | some s => exact .inr (.inr ⟨s, rfl⟩)
  inside := by
    intro p hp w hw
    have hr := (f.reaches_part p).toNat_offset_mem (f.part_registers_sublist hp) hw
    have hbounds := (Register.lieIn_registers p).bounds _
      ((p.registers_sublist (f.bounded_use.pipe p)).subset hr)
    have hnext : Register.pipeBase (p.index + 1) = p.base + 0x400 := by
      unfold Pipe.base Register.pipeBase
      omega
    exact ⟨hbounds.1, Nat.lt_of_lt_of_eq hbounds.2 hnext.symm⟩
  outside := by
    intro p hp w hw
    refine Generation.not_holds_pipe hp ?_
    rcases List.mem_append.mp hw with hw | hw
    · have hcommon := reaches_common h.read h.write f.commandId f.operation f.isStrip
      have hsublist : (Register.commonRegisters g).Sublist (Register.all g) :=
        (List.sublist_append_left _ _).trans (List.sublist_append_left _ _)
      have hr := hcommon.toNat_offset_mem hsublist hw
      exact .inl ((Register.lieIn_commonRegisters g).bounds _ (List.mem_append_left _ hr)).2
    · have hr := f.reaches_mixed.toNat_offset_mem (f.mixed_sublist g) hw
      exact .inr (Register.lieIn_mixed_full.bounds _ (f.bounded_use.mixed_sublist.subset hr)).1

theorem wellFormed_pass : f.pass.WellFormed g f.commandId.toNat :=
  .of_reaches h.reaches_pass (f.registers_sublist g) ⟨_, _, rfl⟩ ⟨_, _, _, h.pipesApart⟩
    fun _ hu => .inl (f.control_mem_registers hu)

end Sound

end Frame

/-! ### Programs -/

namespace Compiler

variable {c : Compiler} {program : Program} {i : Nat} {pass : Pass}

/-- The frame of a composition at place `i` is numbered `i`. -/
theorem toNat_commandId_of_frames {r : Request} {frames : List Frame}
    (h : c.frames r = .ok frames) {f : Frame} (hf : frames[i]? = some f) :
    f.commandId.toNat = i := by
  obtain ⟨target, sources, -, -, ⟨-, rfl, hwhole⟩ | ⟨-, jobs, job, hplan, hjob, hstrip⟩⟩ :=
    getElem?_frames h hf
  · obtain ⟨_, _, _, -, -, -, rfl⟩ := composeFrame_eq_ok_iff.mp hwhole
    rfl
  · obtain ⟨found, -, hstrip⟩ := Outcome.bind_eq_ok_iff.mp hstrip
    obtain ⟨_, _, _, -, -, -, rfl⟩ := composeFrame_eq_ok_iff.mp hstrip
    obtain ⟨hi, rfl⟩ := List.getElem?_eq_some_iff.mp hjob
    have hs : i < (stripsOf target.output.width c.limits.width).length := length_plan hplan ▸ hi
    have hindex : jobs[i].strip.index = i := by
      rw [strip_getElem_plan hplan hi hs, index_getElem_stripsOf]
    -- there are no more strips than columns
    have hcolumns := lt_length_stripsOf_iff.mp hs
    have hle := Nat.le_mul_of_pos_right i (stripStep_pos c.limits.width)
    rw [hindex]
    exact UInt32.toNat_ofNat_of_lt'
      (Nat.lt_of_le_of_lt hle (hcolumns.trans target.output.width.toNat_lt))

theorem wellFormed_of_compose {r : Request} (h : c.compose r = .ok program)
    (hp : program.passes[i]? = some pass) : pass.WellFormed c.generation i := by
  obtain ⟨frames, hframes, hpasses⟩ := exists_frames_of_compose h
  rw [hpasses, List.getElem?_map] at hp
  obtain ⟨f, hf, rfl⟩ := Option.map_eq_some_iff.mp hp
  have hwell := (sound_of_mem_frames hframes (List.mem_of_getElem? hf)).wellFormed_pass
  rwa [toNat_commandId_of_frames hframes hf] at hwell

theorem wellFormed_of_fill {fill : Fill} {output : Output} (h : c.fill fill output = .ok program)
    (hp : program.passes[i]? = some pass) : pass.WellFormed c.generation i := by
  obtain ⟨f, hf, rfl⟩ := fill_eq_ok_iff.mp h
  obtain ⟨hi, rfl⟩ := List.getElem?_eq_some_iff.mp hp
  obtain rfl : i = 0 := Nat.lt_one_iff.mp hi
  have hnumber : f.commandId = 0 := by
    obtain ⟨_, _, -, hcomposed, rfl⟩ := fillFrame_eq_ok_iff.mp hf
    obtain ⟨_, _, _, -, -, -, rfl⟩ := composeFrame_eq_ok_iff.mp hcomposed
    rfl
  have hwell := (sound_of_fillFrame hf).wellFormed_pass
  rwa [hnumber] at hwell

theorem wellFormed_of_copy {k : Copy} (h : c.copy k = .ok program)
    (hp : program.passes[i]? = some pass) : pass.WellFormed c.generation i := by
  have hreaches := reaches_of_copy h (List.mem_of_getElem? hp)
  have hbelow : ∀ r ∈ Register.commonRegisters c.generation ++ Register.copyRegisters,
      r < Register.pipeBase 0 :=
    fun r hr => ((Register.lieIn_commonRegisters c.generation).bounds r hr).2
  have hapart : pass.PipesApart c.generation pass.writes [] fun _ => [] :=
    { writes := by simp
      parts := fun _ _ => .inl rfl
      inside := fun _ _ _ hw => absurd hw List.not_mem_nil
      outside := by
        intro p hp w hw
        rw [List.append_nil] at hw
        exact Generation.not_holds_pipe hp
          (.inl (hbelow _ (hreaches.toNat_offset_mem (copyRegisters_sublist _) hw))) }
  -- a copy writes for the channels and for no other unit
  have hcontrol : ∀ u ∈ RegisterUnit.all c.generation,
      u.control ∈ Register.commonRegisters c.generation ++ Register.copyRegisters ∨
        ∀ r ∈ Register.commonRegisters c.generation ++ Register.copyRegisters,
          ¬ u.Holds r := by
    intro u hu
    rcases List.mem_append.mp hu with hchannel | hunit
    · exact .inl (List.mem_append_left _ (Register.control_mem_commonRegisters hchannel))
    · refine .inr fun r hr hholds => ?_
      exact Nat.not_lt.mpr ((RegisterUnit.start_of_mem_composing hunit).trans hholds.1)
        (hbelow r hr)
  obtain ⟨read, write, -, -, -, rfl⟩ := copy_eq_ok_iff.mp h
  obtain ⟨hi, rfl⟩ := List.getElem?_eq_some_iff.mp hp
  obtain rfl : i = 0 := Nat.lt_one_iff.mp hi
  exact .of_reaches hreaches (copyRegisters_sublist _) ⟨_, _, rfl⟩ ⟨_, _, _, hapart⟩ hcontrol

/-- **Every pass of every program is well formed.** -/
theorem Produces.wellFormed (h : c.Produces program) (hp : program.passes[i]? = some pass) :
    pass.WellFormed c.generation i := by
  cases h with
  | compose r h => exact wellFormed_of_compose h hp
  | fill fill output h => exact wellFormed_of_fill h hp
  | copy k h => exact wellFormed_of_copy h hp

theorem ne_nil_of_frames {r : Request} {frames : List Frame} (h : c.frames r = .ok frames) :
    frames ≠ [] := by
  obtain ⟨target, sources, strips, ht, -, -, hwhole, hcut⟩ := frames_eq_ok h
  cases strips with
  | false =>
    obtain ⟨f, rfl, -⟩ := hwhole rfl
    exact List.cons_ne_nil _ _
  | true =>
    obtain ⟨jobs, hplan, hframes⟩ := hcut rfl
    obtain ⟨hwidth, -, houtput, -⟩ := Target.ofOutput_eq_ok_iff.mp ht
    -- there is a strip, since the output has a column
    have hstrip : 0 < (stripsOf target.output.width c.limits.width).length := by
      rw [lt_length_stripsOf_iff, Nat.zero_mul, houtput]
      exact hwidth.1
    have hlength := (Outcome.length_of_mapM hframes).trans (length_plan hplan)
    exact List.ne_nil_of_length_pos (hlength ▸ hstrip)

/-- **No program is empty.** -/
theorem Produces.passes_ne_nil (h : c.Produces program) : program.passes ≠ [] := by
  cases h with
  | compose r h =>
    obtain ⟨frames, hframes, hpasses⟩ := exists_frames_of_compose h
    rw [hpasses, ne_eq, List.map_eq_nil_iff]
    exact ne_nil_of_frames hframes
  | fill fill output h =>
    obtain ⟨f, -, h⟩ := Outcome.bind_eq_ok_iff.mp h
    cases h
    exact List.cons_ne_nil _ _
  | copy k h =>
    obtain ⟨read, write, -, -, -, rfl⟩ := copy_eq_ok_iff.mp h
    exact List.cons_ne_nil _ _

/-- The second strip of a mirrored layer of video is well formed. -/
theorem wellFormed_wideVideo :
    ∃ program pass,
      (Compiler.ofGeneration .normal).compose (wideVideo .hFlip ⟨0, 0, 512, 256⟩) = .ok program ∧
      program.passes[1]? = some pass ∧ pass.WellFormed .normal 1 := by
  have hc : (Compiler.ofGeneration .normal).compose (wideVideo .hFlip ⟨0, 0, 512, 256⟩) = .ok _ :=
    rfl
  exact ⟨_, _, hc, rfl, Produces.wellFormed (.compose _ hc) rfl⟩

end Compiler

end Blitter
