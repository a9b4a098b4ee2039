import Blitter.Proofs.Channel
import Blitter.Proofs.Compiler.Lines
import Blitter.Proofs.Frame

/-!
# Passes leave nothing behind

A pass that is run after another finds the registers as that one left them. It does not show:
every pass of a program writes exactly the registers that the engine consults when it is started
after the pass (`Pass.IsComplete`), so that what the engine does is settled by the pass alone.
-/

namespace Blitter

/-- The pass writes **exactly the registers that the engine consults** after it, each of them
once, whatever they held before. -/
def Pass.IsComplete (g : Generation) (pass : Pass) : Prop :=
  ∃ registers, Reaches pass.writes registers ∧ registers.Sublist (Register.all g) ∧
    ∀ f : RegisterFile, (f.apply pass.writes).consulted g = registers

/-- What a complete pass writes to a register is there afterwards. -/
theorem Pass.IsComplete.read_apply_put {g : Generation} {pass : Pass} (h : pass.IsComplete g)
    (f : RegisterFile) {r : Nat} {value : UInt32} (hw : put r value ∈ pass.writes) :
    (f.apply pass.writes).read r = value := by
  obtain ⟨registers, hreaches, hsublist, -⟩ := h
  exact hreaches.read_apply_put hsublist f hw

theorem Frame.Sound.isComplete_pass {g : Generation} {f : Frame} (h : f.Sound g) :
    f.pass.IsComplete g :=
  ⟨f.registers g, h.reaches_pass, f.registers_sublist g, h.consulted_apply_pass⟩

namespace Compiler

variable {c : Compiler} {r : Request}

/-! ### Frames that a compiler makes -/

theorem length_shares_of_readWeights {sources : List Source} {reserved : Bool} {read : Allocation}
    (h : allocate (c.generation.readWeights sources reserved) c.generation.readPools false =
      .ok read) : read.shares.length = c.generation.readChannels := by
  have hweights := c.generation.length_readWeights sources reserved
  rw [length_shares_of_allocate h (hweights ▸ c.generation.readChannels_pos), hweights]

theorem length_shares_of_writeAllocation {target : Target} {write : Allocation}
    (h : c.writeAllocation target = .ok write) :
    write.shares.length = c.generation.writeChannels := by
  have hweights := c.generation.length_writeWeights target
  rw [length_shares_of_allocate h (hweights ▸ c.generation.writeChannels_pos), hweights]

theorem sound_of_composeFrame {commandId : UInt32} {isStrip : Bool} {sources : List Source}
    {target : Target} {background : Option UInt32} {porterDuff : Option PorterDuff}
    {reserved : Bool} {f : Frame}
    (h : c.composeFrame commandId isStrip sources target background porterDuff reserved = .ok f) :
    f.Sound c.generation := by
  obtain ⟨read, write, wiring, hread, hwrite, hwiring, rfl⟩ := composeFrame_eq_ok_iff.mp h
  exact
    { operation := nofun
      pipes := rfl
      read := length_shares_of_readWeights hread
      write := length_shares_of_writeAllocation hwrite
      wiring := Wiring.sound_of_ofLayers hwiring }

theorem sound_of_fillFrame {fill : Fill} {output : Output} {f : Frame}
    (h : c.fillFrame fill output = .ok f) : f.Sound c.generation := by
  obtain ⟨_, _, -, hcomposed, rfl⟩ := fillFrame_eq_ok_iff.mp h
  exact { sound_of_composeFrame hcomposed with operation := nofun }

/-- Every frame of a composition is **sound**. -/
theorem sound_of_mem_frames {frames : List Frame} (h : c.frames r = .ok frames) {f : Frame}
    (hf : f ∈ frames) : f.Sound c.generation := by
  obtain ⟨i, hi⟩ := List.mem_iff_getElem?.mp hf
  obtain ⟨target, sources, -, -, ⟨-, -, hf⟩ | ⟨-, jobs, job, -, -, hf⟩⟩ := getElem?_frames h hi
  · exact sound_of_composeFrame hf
  · obtain ⟨found, -, hf⟩ := Outcome.bind_eq_ok_iff.mp hf
    exact sound_of_composeFrame hf

/-! ### Programs -/

/-- The compiler **produces the program** for some request. -/
inductive Produces (c : Compiler) (program : Program) : Prop
  | compose (r : Request) (h : c.compose r = .ok program)
  | fill (fill : Fill) (output : Output) (h : c.fill fill output = .ok program)
  | copy (k : Copy) (h : c.copy k = .ok program)

theorem isComplete_of_compose {program : Program} (h : c.compose r = .ok program) {pass : Pass}
    (hp : pass ∈ program.passes) : pass.IsComplete c.generation := by
  obtain ⟨frames, hframes, hpasses⟩ := exists_frames_of_compose h
  rw [hpasses] at hp
  obtain ⟨f, hf, rfl⟩ := List.mem_map.mp hp
  exact (sound_of_mem_frames hframes hf).isComplete_pass

theorem isComplete_of_fill {fill : Fill} {output : Output} {program : Program}
    (h : c.fill fill output = .ok program) {pass : Pass} (hp : pass ∈ program.passes) :
    pass.IsComplete c.generation := by
  obtain ⟨f, hf, rfl⟩ := fill_eq_ok_iff.mp h
  rw [List.mem_singleton.mp hp]
  exact (sound_of_fillFrame hf).isComplete_pass

theorem copy_eq_ok_iff {k : Copy} {program : Program} :
    c.copy k = .ok program ↔ ∃ read write, checkCopy k = .ok () ∧ c.copyRead = .ok read ∧
      c.copyWrite = .ok write ∧ program =
        { operation := .copy, inStrips := false
          passes := [
            { commandId := 0
              writes := headerWrites 0 .copy false ++ read.readWrites ++ write.writeWrites ++
                copyWrites k }] } := by
  simp only [copy, Outcome.bind_eq_ok_iff]
  constructor
  · rintro ⟨⟨⟩, hk, read, hread, write, hwrite, ⟨⟩⟩
    exact ⟨read, write, hk, hread, hwrite, rfl⟩
  · rintro ⟨read, write, hk, hread, hwrite, rfl⟩
    exact ⟨(), hk, read, hread, write, hwrite, rfl⟩

/-- The pass that copies writes the registers that a copy looks at. -/
theorem reaches_of_copy {k : Copy} {program : Program} (h : c.copy k = .ok program) {pass : Pass}
    (hp : pass ∈ program.passes) :
    Reaches pass.writes (Register.commonRegisters c.generation ++ Register.copyRegisters) := by
  obtain ⟨read, write, -, hread, hwrite, rfl⟩ := copy_eq_ok_iff.mp h
  obtain rfl := List.mem_singleton.mp hp
  have hreads : read.shares.length = c.generation.readChannels := by
    have hpos := c.generation.readChannels_pos
    rw [length_shares_of_allocate hread (by rwa [List.length_replicate]), List.length_replicate]
  have hwrites : write.shares.length = c.generation.writeChannels := by
    have hpos := c.generation.writeChannels_pos
    rw [length_shares_of_allocate hwrite (by rwa [List.length_replicate]), List.length_replicate]
  refine Reaches.append (Frame.reaches_common hreads hwrites 0 .copy false) ?_
  exact rfl

theorem copyRegisters_sublist (g : Generation) :
    (Register.commonRegisters g ++ Register.copyRegisters).Sublist (Register.all g) :=
  Register.commonRegisters_sublist g (List.sublist_append_left _ _)

theorem isComplete_of_copy {k : Copy} {program : Program} (h : c.copy k = .ok program)
    {pass : Pass} (hp : pass ∈ program.passes) : pass.IsComplete c.generation := by
  have hreaches := reaches_of_copy h hp
  obtain ⟨read, write, -, -, -, rfl⟩ := copy_eq_ok_iff.mp h
  obtain rfl := List.mem_singleton.mp hp
  refine ⟨_, hreaches, copyRegisters_sublist _, fun f => ?_⟩
  have hmode : put Register.workMode (Register.workOperation.encode Operation.copy.code ||| 0) ∈
      headerWrites 0 .copy false ++ read.readWrites ++ write.writeWrites ++ copyWrites k := by
    simp [headerWrites]
  have hcopy : Register.workOperation.decode
      (Register.workOperation.encode Operation.copy.code ||| 0) = Operation.copy.code := by decide
  rw [RegisterFile.consulted, hreaches.read_apply_put (copyRegisters_sublist _) f hmode,
    if_pos hcopy]

/-- Every pass of every program is **complete**. -/
theorem Produces.isComplete {program : Program} (h : c.Produces program) {pass : Pass}
    (hp : pass ∈ program.passes) : pass.IsComplete c.generation := by
  cases h with
  | compose r h => exact isComplete_of_compose h hp
  | fill fill output h => exact isComplete_of_fill h hp
  | copy k h => exact isComplete_of_copy h hp

/-- **Nothing leaks from one pass into the next.** Whatever two register files hold, once a pass of
a program has been written to both, the engine consults the same registers of the two, and finds
the same in them. -/
theorem Produces.read_eq_of_mem_consulted {program : Program} (h : c.Produces program)
    {pass : Pass} (hp : pass ∈ program.passes) (f f' : RegisterFile) :
    (f.apply pass.writes).consulted c.generation = (f'.apply pass.writes).consulted c.generation ∧
      ∀ r ∈ (f.apply pass.writes).consulted c.generation,
        (f.apply pass.writes).read r = (f'.apply pass.writes).read r := by
  obtain ⟨registers, hreaches, -, hconsulted⟩ := h.isComplete hp
  rw [hconsulted, hconsulted]
  exact ⟨rfl, fun r hr => hreaches.read_apply_eq f f' hr⟩

/-- After the first strip of a mirrored layer of video, registers that all were ones and registers
that all were zeros are the same to the engine. -/
theorem read_eq_of_mem_consulted_wideVideo :
    ∃ program pass,
      (Compiler.ofGeneration .normal).compose (wideVideo .hFlip ⟨0, 0, 512, 256⟩) = .ok program ∧
      pass ∈ program.passes ∧
      ∀ r ∈ (RegisterFile.zero.apply pass.writes).consulted .normal,
        (RegisterFile.zero.apply pass.writes).read r =
          (RegisterFile.apply ⟨Vector.replicate registerCount 0xFFFFFFFF⟩ pass.writes).read r := by
  have hc : (Compiler.ofGeneration .normal).compose (wideVideo .hFlip ⟨0, 0, 512, 256⟩) = .ok _ :=
    rfl
  exact ⟨_, _, hc, List.mem_cons_self,
    (Produces.read_eq_of_mem_consulted (.compose _ hc) List.mem_cons_self _ _).2⟩

end Compiler

end Blitter
