import Blitter.Proofs.Compiler.CommandChannel
import Blitter.Proofs.Compiler.Composed
import Blitter.Proofs.Register.Encoding
import Blitter.Proofs.Wiring.Shown

/-!
# Programs lose nothing

Everything about a composition that the engine is to know is in the registers after a pass, and
can be read back from there: for every pass of every accepted composition, in one piece or in
strips, the registers are set to compose the layers that the pass is handed onto the output that it
is handed (`RegisterFile.Encodes`), and nothing else. A raw copy is read back as a whole. What the
registers held before makes no difference.
-/

namespace Blitter

/-- Pipes are numbered in order. -/
theorem Pipe.index_of_getElem?_chain {index channel : Nat} {kinds : List PipeKind} {i : Nat}
    {p : Pipe} (h : (chain index channel kinds)[i]? = some p) : p.index = index + i := by
  induction kinds generalizing index channel i with
  | nil => cases h
  | cons kind kinds ih =>
    cases i with
    | zero =>
      cases h
      rfl
    | succ i =>
      rw [ih h]
      omega

theorem Generation.index_of_getElem?_pipes {g : Generation} {i : Nat} {p : Pipe}
    (h : g.pipes[i]? = some p) : p.index = i :=
  (Pipe.index_of_getElem?_chain h).trans (Nat.zero_add i)

theorem Frame.Sound.carries_pass {g : Generation} {f : Frame} (h : f.Sound g) (rf : RegisterFile) :
    (rf.apply f.pass.writes).Carries f.pass.writes := fun _ _ hw => h.read_apply_pass rf hw

/-- After a frame's pass the write pipe **produces its target**. -/
theorem Frame.Sound.writesTo_apply_pass {g : Generation} {f : Frame} (h : f.Sound g)
    (ht : Target.ofOutput f.target.output = .ok f.target) (rf : RegisterFile) :
    (rf.apply f.pass.writes).WritesTo f.target :=
  Target.writesTo_of_carries
    ((h.carries_pass rf).mono fun _ hw => List.mem_append_right _ hw) ht

namespace Compiler

namespace Composed

variable {c : Compiler} {f : Frame} (h : c.Composed f) (rf : RegisterFile)
include h

/-- The compositor is programmed as a stack in which **every layer has its place**. -/
theorem exists_carries_stack : ∃ background porterDuff,
    (∀ l ∈ f.sources.map Source.layer,
      l.pipe.toNat < subframeCount ∧ l.depth.toNat < slotCount) ∧
    (rf.apply f.pass.writes).Carries
      { Wiring.stack (f.sources.map Source.layer) background f.target.output.width
          f.target.output.height with porterDuff }.writes := by
  obtain ⟨background, porterDuff, hw⟩ := h.wiring
  obtain ⟨hplaces, -, heq⟩ := (Wiring.ofLayers_eq_ok_iff_of_apart h.apart h.enabled).mp hw
  refine ⟨background, porterDuff, hplaces, ?_⟩
  rw [← heq]
  exact (h.sound.carries_pass rf).mono fun w hw =>
    List.mem_append_left _ (List.mem_append_right _ hw)

theorem fetches_apply_pass {s : Source} (hs : s ∈ f.sources) :
    ∃ p, c.generation.pipes[s.layer.pipe.toNat]? = some p ∧
      (rf.apply f.pass.writes).Fetches p s := by
  obtain ⟨p, hp, hcheck⟩ := (h.admitted s hs).fetched
  have hindex := Generation.index_of_getElem?_pipes hp
  have hpipes : p ∈ f.pipes := h.sound.pipes ▸ List.mem_of_getElem? hp
  have hsource := (sourceOf?_eq_some_iff h.apart).mpr ⟨hs, hindex.symm⟩
  have hcarries : (rf.apply f.pass.writes).Carries (p.writes s) :=
    (h.sound.carries_pass rf).mono fun w hw => Frame.mem_pass_of_mem_writes hpipes hsource hw
  exact ⟨p, hp, Pipe.fetches_of_carries hcarries (h.admitted s hs) hcheck⟩

theorem shows_apply_pass {s : Source} (hs : s ∈ f.sources) :
    (rf.apply f.pass.writes).Shows s.layer := by
  obtain ⟨background, porterDuff, hplaces, hcarries⟩ := h.exists_carries_stack rf
  obtain ⟨⟨-, hw⟩, ⟨-, hh⟩, -⟩ := Target.ofOutput_eq_ok_iff.mp h.target
  have hfits := (h.admitted s hs).fits
  have hright := hfits.dst_right
  have hbottom := hfits.dst_bottom
  exact Wiring.shows_of_carries hcarries h.apart hplaces (List.mem_map_of_mem hs) hfits.dst
    (by omega) (by omega)

/-- A pipe that no layer names **is switched off**. -/
theorem pipe_off_apply_pass {p : Pipe} (hp : p ∈ c.generation.pipes)
    (hfree : ∀ l ∈ f.sources.map Source.layer, l.pipe.toNat ≠ p.index) :
    (rf.apply f.pass.writes).pipeWord p Register.pipeControl &&& Register.pipeEnable = 0 := by
  have hnone : f.sourceOf? p = none := List.find?_eq_none.mpr fun s hs heq =>
    hfree s.layer (List.mem_map_of_mem hs) (beq_iff_eq.mp heq)
  have hoff : (rf.apply f.pass.writes).pipeWord p Register.pipeControl = 0 :=
    h.sound.carries_pass rf _ _ (Frame.mem_pass_of_mem_offWrites (h.sound.pipes ▸ hp) hnone
      (List.mem_singleton_self _))
  rw [hoff]
  rfl

/-- **What a composed frame is made of is in the registers** after its pass. -/
theorem encodes_apply_pass : (rf.apply f.pass.writes).Encodes c.generation
    (f.sources.map Source.layer) f.target.output := by
  obtain ⟨background, porterDuff, -, hstack⟩ := h.exists_carries_stack rf
  exact
    { fetches := by
        intro l hl
        obtain ⟨s, hs, rfl⟩ := List.mem_map.mp hl
        obtain ⟨p, hp, hfetches⟩ := h.fetches_apply_pass rf hs
        exact ⟨p, s, hp, (h.admitted s hs).found, hfetches⟩
      shows := List.forall_mem_map.mpr fun s hs => h.shows_apply_pass rf hs
      pipe_off := fun p hp hfree => h.pipe_off_apply_pass rf hp hfree
      subframe_off := fun n hn hfree => Wiring.subframeWord_and_enable_of_carries hstack hn hfree
      output := ⟨f.target, h.target, h.sound.writesTo_apply_pass h.target rf⟩ }

end Composed

/-- **Programs are read back.** After each pass of an accepted composition, whatever was there
before, the registers are set to compose the layers that the pass is handed onto the output that it
is handed. After the pass of an accepted copy they describe that copy. -/
theorem programs_read_back (c : Compiler) :
    (∀ r program, c.compose r = .ok program → ∃ handed, c.handed r = .ok handed ∧
      List.Forall₂ (fun (pass : Pass) given => ∀ rf : RegisterFile,
        (rf.apply pass.writes).Encodes c.generation given.1 given.2) program.passes handed) ∧
    ∀ k program, c.copy k = .ok program → ∃ pass, program.passes = [pass] ∧
      ∀ rf : RegisterFile, (rf.apply pass.writes).copySetting = k := by
  constructor
  · intro r program hc
    obtain ⟨frames, hframes, hpasses⟩ := exists_frames_of_compose hc
    obtain ⟨handed, hhanded, hall⟩ := forall₂_composed_of_frames hframes
    refine ⟨handed, hhanded, ?_⟩
    rw [hpasses, List.forall₂_map_left_iff]
    refine hall.imp ?_
    rintro f ⟨layers, output⟩ ⟨hcomposed, rfl, rfl⟩ rf
    exact hcomposed.encodes_apply_pass rf
  · intro k program hk
    obtain ⟨read, write, hcheck, -, -, rfl⟩ := copy_eq_ok_iff.mp hk
    refine ⟨_, rfl, fun rf => ?_⟩
    have hcomplete := isComplete_of_copy hk (List.mem_singleton_self _)
    refine copySetting_of_carries (fun register value hw => ?_) hcheck
    exact hcomplete.read_apply_put rf (List.mem_append_right _ hw)

/-- Compressed video at the far edge of the largest surface. It is cut into two strips, and either
of them fetches a box of tiles that ends beyond the surface. -/
def edgeVideo : Request :=
  { layers := [
      { format := .ofLetters 'N' 'V' '1' '2', arrangement := .decoderPacked32x8
        src := ⟨7910, 8, 282, 16⟩, dst := ⟨0, 0, 282, 16⟩, depth := 2, pipe := 1
        blend := .premultiplied, alpha := 200
        address := forPlanes 0x123456789A 0x100040000 0, stride := forPlanes 8192 8192 0
        colorKey := some ⟨0x102030, 0x405060⟩ }]
    output :=
      { format := .ofLetters 'A' 'R' '2' '4', width := 282, height := 16
        address := forPlanes 0x80000 0 0, stride := forPlanes 1152 0 0 } }

/-- Both strips of compressed video **are read back**, and so is a copy. -/
theorem programs_read_back_edgeVideo :
    (∃ program, (Compiler.ofGeneration .normal).compose edgeVideo = .ok program ∧
      program.passes.length = 2 ∧
      ∃ handed, (Compiler.ofGeneration .normal).handed edgeVideo = .ok handed ∧
        List.Forall₂ (fun (pass : Pass) given => ∀ rf : RegisterFile,
          (rf.apply pass.writes).Encodes .normal given.1 given.2) program.passes handed) ∧
    ∃ program, (Compiler.ofGeneration .normal).copy smallCopy = .ok program ∧
      ∃ pass, program.passes = [pass] ∧
        ∀ rf : RegisterFile, (rf.apply pass.writes).copySetting = smallCopy := by
  have hc : (Compiler.ofGeneration .normal).compose edgeVideo = .ok _ := rfl
  have hk : (Compiler.ofGeneration .normal).copy smallCopy = .ok _ := rfl
  exact ⟨⟨_, hc, rfl, (programs_read_back (.ofGeneration .normal)).1 edgeVideo _ hc⟩,
    ⟨_, hk, (programs_read_back (.ofGeneration .normal)).2 smallCopy _ hk⟩⟩

end Compiler

end Blitter
