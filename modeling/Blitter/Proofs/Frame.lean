import Blitter.Proofs.Register.Consulted
import Blitter.Proofs.Wiring
import Mathlib.Data.List.Basic

/-!
# The registers that a frame writes

The program of a frame writes some registers only under a condition: planes that are not there,
tiles of a linear source, the box of a sub-frame that is switched off are all passed over. In each
case a word that the frame does write says so. `consulted_apply_pass` puts the two together:
whatever the registers held before, those that the engine consults after a frame's program are
**exactly those that the program wrote**, each of them once.
-/

namespace Blitter

theorem PixelLayout.length_planes_le (l : PixelLayout) : l.planes.length ≤ 3 := by
  unfold PixelLayout.planes
  cases l.planarity <;> decide

/-! ### Groups of writes -/

namespace Reaches

/-- Writes for the items of a list, each to registers that its number tells. -/
theorem flatMap_zipIdx {α : Type} {as : List α} {n : Nat} {f : α × Nat → List RegisterWrite}
    {g : Nat → List Nat} (hn : as.length = n) (h : ∀ x ∈ as.zipIdx, Reaches (f x) (g x.2)) :
    Reaches (as.zipIdx.flatMap f) ((List.range n).flatMap g) := by
  have hnumbers : (List.range n).flatMap g = as.zipIdx.flatMap fun x => g x.2 := by
    rw [← hn, List.range_eq_range', ← List.zipIdx_map_snd, List.flatMap_map]
  rw [hnumbers]
  exact Reaches.flatMap h

/-- The writes for the memory planes of a layout. -/
theorem planes (l : PixelLayout) (low high stride : Nat → Nat) (a b c : Fin 3 → UInt32) :
    Reaches (l.planes.flatMap fun (plane : Fin 3) =>
        [put (low plane) (a plane), put (high plane) (b plane), put (stride plane) (c plane)])
      (Register.planeRegisters low high stride l.planes.length) := by
  unfold PixelLayout.planes
  cases l.planarity <;> rfl

/-- The writes that load a matrix. -/
theorem matrix {coefficients : List Int} (h : coefficients.length = 12) (register : Nat → Nat) :
    Reaches (ColorMatrix.writes register coefficients) ((List.range 12).map register) := by
  rw [ColorMatrix.writes, List.map_eq_flatMap, List.map_eq_flatMap]
  exact flatMap_zipIdx h fun _ _ => rfl

/-- The writes for the channels of a split. -/
theorem channels (a : Allocation) (register : Nat → Nat → Nat) :
    Reaches (a.writes register) (Register.channelRegisters register a.shares.length) :=
  flatMap_zipIdx rfl fun _ _ => rfl

end Reaches

/-! ### Read pipes -/

namespace Pipe

/-- What a pipe is set to do when it fetches a source. A simple pipe does nothing but fetch. -/
def useOf (p : Pipe) (s : Source) : PipeUse :=
  match p.kind with
  | .simple => ⟨s.layout.planes.length, false, false, false⟩
  | .rotating | .upright =>
    ⟨s.layout.planes.length, s.fetch.isTiled, s.layout.yuv, s.layer.scalesX || s.layer.scalesY⟩

/-- The control word with which a pipe fetches a source. -/
def controlOf (p : Pipe) (s : Source) : UInt32 :=
  match p.kind with
  | .simple => Register.pipeEnable
  | .rotating | .upright => controlWord s

variable (p : Pipe) (s : Source)

theorem reaches_planeWrites :
    Reaches (p.planeWrites s) ((Register.planeRegisters Register.pipeAddressLow
      Register.pipeAddressHigh Register.pipeStride s.layout.planes.length).map
        (Register.inBlock p.base)) := by
  rw [Register.planeRegisters, List.map_flatMap]
  exact Reaches.planes s.layout (Register.inBlock p.base ∘ Register.pipeAddressLow)
    (Register.inBlock p.base ∘ Register.pipeAddressHigh)
    (Register.inBlock p.base ∘ Register.pipeStride) (fun plane => lowWord (s.layer.address.get plane))
    (fun plane => highWord (s.layer.address.get plane)) fun plane => s.layer.stride.get plane

theorem reaches_tileWrites :
    Reaches (p.tileWrites s)
      ((Register.tileRegisters s.fetch.isTiled).map (Register.inBlock p.base)) := by
  unfold tileWrites Register.tileRegisters
  cases s.fetch.isTiled <;> rfl

theorem reaches_colorWrites :
    Reaches (p.colorWrites s) ((Register.colorRegisters Register.pipeColorControl
      Register.pipeColorCoefficient s.layout.yuv).map (Register.inBlock p.base)) := by
  unfold colorWrites Register.colorRegisters
  cases s.layout.yuv with
  | false => rfl
  | true =>
    have hlength : (ColorMatrix.yuvToRgb s.layer.colorSpace).length = 12 := by
      cases s.layer.colorSpace <;> rfl
    refine Reaches.cons _ _ ?_
    rw [if_pos rfl, List.map_map]
    exact Reaches.matrix hlength _

theorem reaches_scaleWrites :
    Reaches (p.scaleWrites s) ((Register.scaleRegisters
      (s.layer.scalesX || s.layer.scalesY)).map (Register.inBlock p.base)) := by
  simp only [scaleWrites, Register.scaleRegisters]
  by_cases hscaled : (s.layer.scalesX || s.layer.scalesY) = true
  · have hphases : Scaler.tapTable.length = Scaler.phases := rfl
    rw [if_pos hscaled, if_pos hscaled, List.map_append, List.map_flatMap]
    refine Reaches.append ?_ (Reaches.flatMap_zipIdx hphases fun _ _ => rfl)
    exact rfl
  · rw [if_neg hscaled, if_neg hscaled]
    exact rfl

/-- The writes by which a pipe fetches a source go to **the registers it looks at** when it does. -/
theorem reaches_writes : Reaches (p.writes s) (p.registers (some (p.useOf s))) := by
  unfold writes registers Register.pipeRegisters useOf
  cases p.kind with
  | simple =>
    simp only [List.map_append]
    refine Reaches.append (Reaches.append ?_ (p.reaches_planeWrites s)) ?_
    · exact rfl
    · exact rfl
  | rotating | upright =>
    simp only [List.map_append]
    refine Reaches.append (Reaches.append ?_ (p.reaches_planeWrites s))
      (Reaches.append (Reaches.append (Reaches.append (Reaches.append ?_ (p.reaches_tileWrites s))
        (p.reaches_colorWrites s)) (p.reaches_scaleWrites s)) ?_)
    · exact rfl
    · exact rfl
    · exact rfl

/-- The bits of the control word of a graphics pipe. -/
private theorem control_bits (r : Rotation) (tiled compressed color scaled : Bool) :
    let control := Register.pipeEnable ||| Register.pipeRotation.encode r.code |||
      (if tiled then Register.pipeTiled else 0) |||
      (if compressed then Register.pipeCompressed else 0) |||
      (if color then Register.pipeColor else 0) ||| (if scaled then Register.pipeScaler else 0)
    control &&& Register.pipeEnable ≠ 0 ∧ (control &&& Register.pipeTiled != 0) = tiled ∧
      (control &&& Register.pipeColor != 0) = color ∧
      (control &&& Register.pipeScaler != 0) = scaled := by
  revert tiled compressed color scaled
  cases r <;> decide +kernel

/-- The frame word **counts the planes**. -/
theorem decode_framePlanes_frameWord :
    (Register.framePlanes.decode (frameWord s)).toNat = s.layout.planes.length := by
  have hplanes : Register.framePlanes.decode
      (Register.framePlanes.encode (UInt32.ofNat s.layout.planes.length)) =
        UInt32.ofNat s.layout.planes.length := by
    unfold PixelLayout.planes
    cases s.layout.planarity <;> decide
  rw [frameWord, Field.decode_or, Field.decode_or, hplanes,
    Field.decode_encode_eq_zero (by decide), Field.decode_encode_eq_zero (by decide), UInt32.or_zero,
    UInt32.or_zero]
  unfold PixelLayout.planes
  cases s.layout.planarity <;> rfl

/-- The control and the frame word of a pipe that fetches a source **say what it is set to do**. -/
theorem ofWords_controlOf :
    p.controlOf s &&& Register.pipeEnable ≠ 0 ∧
      PipeUse.ofWords (p.controlOf s) (frameWord s) = p.useOf s := by
  obtain ⟨henable, htiled, hcolor, hscaled⟩ := control_bits s.layer.rotation s.fetch.isTiled
    s.fetch.isCompressed s.layout.yuv (s.layer.scalesX || s.layer.scalesY)
  unfold PipeUse.ofWords controlOf useOf
  rw [decode_framePlanes_frameWord]
  cases p.kind with
  | simple =>
    have hbits : Register.pipeEnable &&& Register.pipeEnable ≠ 0 ∧
        (Register.pipeEnable &&& Register.pipeTiled != 0) = false ∧
        (Register.pipeEnable &&& Register.pipeColor != 0) = false ∧
        (Register.pipeEnable &&& Register.pipeScaler != 0) = false := by decide
    refine ⟨hbits.1, ?_⟩
    simp only [PipeUse.mk.injEq, true_and]
    exact hbits.2
  | rotating | upright =>
    refine ⟨henable, ?_⟩
    simp only [PipeUse.mk.injEq, true_and]
    exact ⟨htiled, hcolor, hscaled⟩

theorem put_control_mem_writes :
    p.put Register.pipeControl (p.controlOf s) ∈ p.writes s := by
  unfold writes controlOf
  cases p.kind <;> simp

theorem put_frame_mem_writes : p.put Register.pipeFrame (frameWord s) ∈ p.writes s := by
  simp [writes]

end Pipe

/-! ### The compositor -/

/-- Whether the sub-frame has a color key, if it is switched on. -/
def Subframe.use (s : Subframe) : Option Bool :=
  if s.isEnabled then some s.colorKey.isSome else none

/-- A sub-frame's control word **says what it is set to do**. -/
theorem Subframe.IsWired.use_eq {s : Subframe} (h : s.IsWired) :
    s.use = if s.control &&& Register.subframeEnable = 0 then none
      else some (s.control &&& Register.subframeColorKey != 0) := by
  unfold Subframe.use
  by_cases hs : s.isEnabled = true
  · have henable : s.control &&& Register.subframeEnable ≠ 0 := bne_iff_ne.mp hs
    rw [if_pos hs, if_neg henable, h.control_and_colorKey hs]
  · have hoff : s.control &&& Register.subframeEnable = 0 := by
      simpa [Subframe.isEnabled] using hs
    rw [if_neg hs, if_pos hoff]

namespace Wiring

/-- What a sub-frame of the compositor is set to do. -/
def use (w : Wiring) (n : Nat) : Option Bool := w.subframes.toList[n]?.bind Subframe.use

theorem reaches_subframeWrites (n : Nat) (s : Subframe) :
    Reaches (subframeWrites n s) (Register.subframeRegisters n s.use) := by
  unfold subframeWrites Subframe.use
  cases s.isEnabled with
  | false => rfl
  | true => cases s.colorKey <;> rfl

theorem reaches_writes (w : Wiring) : Reaches w.writes (Register.mixRegisters w.use) := by
  have hsubframes : Reaches (w.subframes.toList.zipIdx.flatMap fun x => subframeWrites x.2 x.1)
      ((List.range subframeCount).flatMap fun n => Register.subframeRegisters n (w.use n)) := by
    refine Reaches.flatMap_zipIdx Vector.length_toList fun x hx => ?_
    have hs : w.use x.2 = x.1.use := by
      rw [use, List.mem_zipIdx_iff_getElem?.mp hx]
      rfl
    rw [hs]
    exact reaches_subframeWrites x.2 x.1
  have hpath : Reaches (w.path.toList.zipIdx.map fun x => put (Register.pathSlot x.2) x.1)
      ((List.range slotCount).map Register.pathSlot) := by
    rw [List.map_eq_flatMap, List.map_eq_flatMap]
    exact Reaches.flatMap_zipIdx Vector.length_toList fun _ _ => rfl
  refine Reaches.append (Reaches.append (Reaches.append ?_ hsubframes) hpath) ?_
  · exact rfl
  · exact rfl

theorem mem_writes_of_mem_subframeWrites {w : Wiring} {n : Nat} {s : Subframe}
    (hs : w.subframes.toList[n]? = some s) {x : RegisterWrite} (hx : x ∈ subframeWrites n s) :
    x ∈ w.writes := by
  have hmem : x ∈ w.subframes.toList.zipIdx.flatMap fun y => subframeWrites y.2 y.1 :=
    List.mem_flatMap.mpr ⟨(s, n), List.mem_zipIdx_iff_getElem?.mpr hs, hx⟩
  exact List.mem_append_left _ (List.mem_append_left _ (List.mem_append_right _ hmem))

theorem put_control_mem_writes (w : Wiring) {n : Nat} {s : Subframe}
    (hs : w.subframes.toList[n]? = some s) :
    put (Register.subframe n Register.subframeControl) s.control ∈ w.writes :=
  mem_writes_of_mem_subframeWrites hs (List.mem_append_right _ (List.mem_singleton_self _))

theorem put_pathSlot_mem_writes {w : Wiring} {z : Nat} {word : UInt32}
    (hz : w.path.toList[z]? = some word) : put (Register.pathSlot z) word ∈ w.writes := by
  have hmem : put (Register.pathSlot z) word ∈
      w.path.toList.zipIdx.map fun y => put (Register.pathSlot y.2) y.1 :=
    List.mem_map.mpr ⟨(word, z), List.mem_zipIdx_iff_getElem?.mpr hz, rfl⟩
  exact List.mem_append_left _ (List.mem_append_right _ hmem)

end Wiring

/-! ### The write pipe -/

namespace Target

variable (t : Target)

theorem reaches_colorWrites :
    Reaches t.colorWrites (Register.colorRegisters Register.outColorControl
      Register.outColorCoefficient t.layout.yuv) := by
  unfold colorWrites Register.colorRegisters
  cases t.layout.yuv with
  | false => exact rfl
  | true =>
    have hlength : (ColorMatrix.rgbToYuv t.output.colorSpace).length = 12 := by
      cases t.output.colorSpace <;> rfl
    exact Reaches.cons _ _ (Reaches.matrix hlength _)

theorem reaches_writes :
    Reaches t.writes (Register.outRegisters t.layout.planes.length t.layout.yuv) := by
  have hplanes := Reaches.planes t.layout Register.outAddressLow Register.outAddressHigh
    Register.outStride (fun plane => lowWord (t.output.address.get plane))
    (fun plane => highWord (t.output.address.get plane)) fun plane => t.output.stride.get plane
  refine Reaches.append (Reaches.append (Reaches.append ?_ t.reaches_colorWrites) hplanes) ?_
  · exact rfl
  · exact rfl

/-- The control word **counts the planes**. -/
theorem decode_outPlanes_controlWord :
    (Register.outPlanes.decode t.controlWord).toNat = t.layout.planes.length := by
  unfold controlWord PixelLayout.planes
  cases t.output.rotation <;> cases t.layout.planarity <;> decide +kernel

/-- The word of the color conversion says whether it is on. -/
theorem exists_put_outColorControl_mem_writes :
    ∃ word, put Register.outColorControl word ∈ t.writes ∧
      (word &&& Register.colorEnable != 0) = t.layout.yuv := by
  have hmem : ∀ w ∈ t.colorWrites, w ∈ t.writes := fun w hw =>
    List.mem_append_left _ (List.mem_append_left _ (List.mem_append_right _ hw))
  unfold colorWrites at hmem
  cases hyuv : t.layout.yuv with
  | false =>
    rw [hyuv] at hmem
    exact ⟨0, hmem _ (List.mem_singleton_self _), by decide⟩
  | true =>
    rw [hyuv] at hmem
    exact ⟨Register.colorEnable, hmem _ List.mem_cons_self, by decide⟩

theorem put_control_mem_writes : put Register.outControl t.controlWord ∈ t.writes :=
  List.mem_append_right _ (List.mem_singleton_self _)

end Target

/-! ### Frames -/

namespace Frame

/-- What every frame of a generation's engine has: the generation's pipes, a share for each of its
channels, and sub-frames that are those of layers. -/
structure Sound (g : Generation) (f : Frame) : Prop where
  operation : f.operation ≠ .copy
  pipes : f.pipes = g.pipes
  read : f.read.shares.length = g.readChannels
  write : f.write.shares.length = g.writeChannels
  wiring : f.wiring.Sound

/-- What the engine is set to do by a frame. -/
def use (f : Frame) : Use :=
  { pipe := fun p => (f.sourceOf? p).map p.useOf
    subframe := f.wiring.use
    outPlanes := f.target.layout.planes.length
    outColor := f.target.layout.yuv }

/-- The registers that a frame writes. -/
def registers (g : Generation) (f : Frame) : List Nat :=
  Register.commonRegisters g ++ f.use.registers g

variable {f : Frame} {g : Generation}

theorem bounded_use (f : Frame) : f.use.Bounded where
  pipe p v hv := by
    obtain ⟨s, -, rfl⟩ := Option.map_eq_some_iff.mp hv
    have hplanes : (p.useOf s).planes = s.layout.planes.length := by
      unfold Pipe.useOf
      cases p.kind <;> rfl
    rw [hplanes]
    exact s.layout.length_planes_le
  out := f.target.layout.length_planes_le

theorem registers_sublist (g : Generation) (f : Frame) :
    (f.registers g).Sublist (Register.all g) :=
  Register.commonRegisters_sublist g
    ((f.bounded_use.registers_sublist g).trans (List.sublist_append_right _ _))

/-- A pipe either fetches its source or is switched off. -/
theorem reaches_pipeWrites (f : Frame) :
    Reaches f.pipeWrites (f.pipes.flatMap fun p => p.registers (f.use.pipe p)) := by
  refine Reaches.flatMap fun p _ => ?_
  have huse : f.use.pipe p = (f.sourceOf? p).map p.useOf := rfl
  rw [huse]
  cases f.sourceOf? p with
  | some s => exact p.reaches_writes s
  | none => exact rfl

/-- The writes that open every program. -/
theorem reaches_common {g : Generation} {read write : Allocation}
    (hread : read.shares.length = g.readChannels) (hwrite : write.shares.length = g.writeChannels)
    (commandId : UInt32) (operation : Operation) (isStrip : Bool) :
    Reaches (headerWrites commandId operation isStrip ++ read.readWrites ++ write.writeWrites)
      (Register.commonRegisters g) := by
  unfold Register.commonRegisters
  rw [← hread, ← hwrite]
  refine Reaches.append (Reaches.append ?_ (.cons _ _ (Reaches.channels _ _)))
    (.cons _ _ (Reaches.channels _ _))
  exact rfl

/-- A frame's program **writes the registers that it says it does**. -/
theorem Sound.reaches_pass (h : f.Sound g) : Reaches f.pass.writes (f.registers g) := by
  have hcommon := reaches_common h.read h.write f.commandId f.operation f.isStrip
  have hpipes := f.reaches_pipeWrites
  rw [h.pipes] at hpipes
  have hall := ((hcommon.append hpipes).append f.wiring.reaches_writes).append
    f.target.reaches_writes
  have hregisters : f.registers g = Register.commonRegisters g ++
      (g.pipes.flatMap fun p => p.registers (f.use.pipe p)) ++
        Register.mixRegisters f.wiring.use ++
        Register.outRegisters f.target.layout.planes.length f.target.layout.yuv := by
    rw [registers, Use.registers, List.append_assoc, List.append_assoc, List.append_assoc]
    rfl
  rw [hregisters]
  exact hall

section Pipes

variable {p : Pipe} {w : RegisterWrite}

theorem mem_pass_of_mem_pipeWrites (hw : w ∈ f.pipeWrites) : w ∈ f.pass.writes :=
  List.mem_append_left _ (List.mem_append_left _ (List.mem_append_right _ hw))

theorem mem_pass_of_mem_writes (hp : p ∈ f.pipes) {s : Source} (hs : f.sourceOf? p = some s)
    (hw : w ∈ p.writes s) : w ∈ f.pass.writes := by
  refine mem_pass_of_mem_pipeWrites (List.mem_flatMap.mpr ⟨p, hp, ?_⟩)
  rw [hs]
  exact hw

theorem mem_pass_of_mem_offWrites (hp : p ∈ f.pipes) (hs : f.sourceOf? p = none)
    (hw : w ∈ p.offWrites) : w ∈ f.pass.writes := by
  refine mem_pass_of_mem_pipeWrites (List.mem_flatMap.mpr ⟨p, hp, ?_⟩)
  rw [hs]
  exact hw

end Pipes

section Values

variable (h : f.Sound g) (rf : RegisterFile)
include h

/-- What a frame's program writes to a register is there afterwards. -/
theorem Sound.read_apply_pass {r : Nat} {value : UInt32} (hw : put r value ∈ f.pass.writes) :
    (rf.apply f.pass.writes).read r = value :=
  h.reaches_pass.read_apply_put (f.registers_sublist g) rf hw

theorem Sound.decode_workMode :
    Register.workOperation.decode ((rf.apply f.pass.writes).read Register.workMode) =
      f.operation.code := by
  have hmode : put Register.workMode (Register.workOperation.encode f.operation.code |||
      (if f.isStrip then Register.workStrip else 0)) ∈ f.pass.writes := by
    simp [pass, headerWrites]
  rw [h.read_apply_pass rf hmode]
  cases f.operation <;> cases f.isStrip <;> decide

theorem Sound.pipeUse_apply_pass {p : Pipe} (hp : p ∈ g.pipes) :
    (rf.apply f.pass.writes).pipeUse p = f.use.pipe p := by
  have huse : f.use.pipe p = (f.sourceOf? p).map p.useOf := rfl
  rw [← h.pipes] at hp
  rw [huse]
  unfold RegisterFile.pipeUse
  cases hs : f.sourceOf? p with
  | none =>
    have hoff := h.read_apply_pass rf
      (mem_pass_of_mem_offWrites hp hs (List.mem_singleton_self _))
    rw [hoff]
    exact rfl
  | some s =>
    have hcontrol := h.read_apply_pass rf
      (mem_pass_of_mem_writes hp hs (p.put_control_mem_writes s))
    have hframe := h.read_apply_pass rf
      (mem_pass_of_mem_writes hp hs (p.put_frame_mem_writes s))
    obtain ⟨henable, hwords⟩ := p.ofWords_controlOf s
    simp only [hcontrol, hframe, if_neg henable, hwords, Option.map_some]

theorem Sound.subframeUse_apply_pass {n : Nat} (hn : n < subframeCount) :
    (rf.apply f.pass.writes).subframeUse n = f.use.subframe n := by
  have hlength : n < f.wiring.subframes.toList.length := by
    rw [Vector.length_toList]
    exact hn
  have hs : f.wiring.subframes.toList[n]? = some f.wiring.subframes.toList[n] :=
    List.getElem?_eq_getElem hlength
  have hmem : put (Register.subframe n Register.subframeControl)
      f.wiring.subframes.toList[n].control ∈ f.pass.writes :=
    List.mem_append_left _ (List.mem_append_right _ (f.wiring.put_control_mem_writes hs))
  have hwired := h.wiring _ (List.getElem_mem hlength)
  have huse : f.use.subframe n = f.wiring.subframes.toList[n].use :=
    congrArg (Option.bind · Subframe.use) hs
  rw [huse, hwired.use_eq]
  unfold RegisterFile.subframeUse
  simp only [h.read_apply_pass rf hmem]

/-- After a frame's program, whatever was there before, the registers that the engine consults
are **those that the program wrote**. -/
theorem Sound.consulted_apply_pass : (rf.apply f.pass.writes).consulted g = f.registers g := by
  have hoperation : f.operation.code ≠ Operation.copy.code := by
    have hne := h.operation
    cases hcase : f.operation with
    | compose | fill => decide
    | copy => exact absurd hcase hne
  obtain ⟨word, hword, hcolor⟩ := f.target.exists_put_outColorControl_mem_writes
  have hpipes : (g.pipes.flatMap fun p => p.registers ((rf.apply f.pass.writes).pipeUse p)) =
      g.pipes.flatMap fun p => p.registers (f.use.pipe p) := by
    refine List.flatMap_congr fun p hp => ?_
    rw [h.pipeUse_apply_pass rf hp]
  have hsubframes : Register.mixRegisters (rf.apply f.pass.writes).subframeUse =
      Register.mixRegisters f.use.subframe := by
    have hall : ∀ n ∈ List.range subframeCount,
        Register.subframeRegisters n ((rf.apply f.pass.writes).subframeUse n) =
          Register.subframeRegisters n (f.use.subframe n) := by
      intro n hn
      rw [h.subframeUse_apply_pass rf (List.mem_range.mp hn)]
    rw [Register.mixRegisters, List.flatMap_congr hall]
    rfl
  have hplanes := h.read_apply_pass rf (List.mem_append_right _ f.target.put_control_mem_writes)
  have hout := h.read_apply_pass rf (List.mem_append_right _ hword)
  unfold RegisterFile.consulted registers
  rw [h.decode_workMode rf, if_neg hoperation]
  unfold Use.registers RegisterFile.use
  simp only [hpipes, hsubframes, hplanes, hout, hcolor, f.target.decode_outPlanes_controlWord]
  rfl

end Values

end Frame

end Blitter
