import Blitter.Frame
import Blitter.Proofs.Register.Field
import Blitter.Proofs.RegisterFile
import Mathlib.Data.List.Flatten

/-!
# Registers that the engine consults

Which registers the engine looks at when it is started depends on what some of them say: a read
pipe that is switched off looks at its control word and no further, and one that is switched on
fetches as many planes as its frame word counts. A `Use` is what those words say, and
`Use.registers` lists what is looked at then. `RegisterFile.consulted` reads the use off the
registers themselves.

All the lists are parts of one, in which no word of the window occurs twice
(`Register.lieIn_all`).
-/

namespace Blitter

/-! ### Read pipes -/

/-- What a read pipe that is switched on is **set to do**, as far as it decides about the registers
that the pipe looks at. -/
structure PipeUse where
  /-- The number of memory planes. -/
  planes : Nat
  tiled : Bool
  color : Bool
  scaled : Bool

namespace PipeUse

/-- What the control and the frame word of a pipe say. -/
def ofWords (control frame : UInt32) : PipeUse :=
  { planes := (Register.framePlanes.decode frame).toNat
    tiled := control &&& Register.pipeTiled != 0
    color := control &&& Register.pipeColor != 0
    scaled := control &&& Register.pipeScaler != 0 }

/-- Everything a pipe can do. -/
def full : PipeUse := ⟨3, true, true, true⟩

end PipeUse

namespace Register

/-- The registers of so many memory planes. -/
def planeRegisters (low high stride : Nat → Nat) (planes : Nat) : List Nat :=
  (List.range planes).flatMap fun plane => [low plane, high plane, stride plane]

/-- The registers of a color conversion: its control word, and its twelve coefficients if it is
on. -/
def colorRegisters (control : Nat) (coefficient : Nat → Nat) (on : Bool) : List Nat :=
  control :: if on then (List.range 12).map coefficient else []

/-- The registers of a read pipe's tiles. -/
def tileRegisters (on : Bool) : List Nat :=
  if on then [pipeTileControl, pipeTilePosition, pipeTileSize] else []

/-- The registers of a read pipe's scaler: its control word, and the rest if it is on. -/
def scaleRegisters (on : Bool) : List Nat :=
  if on then
    [pipeScaleControl, pipeScaleSize, pipeScaleStepX, pipeScaleStepY, pipeScalePhaseX,
      pipeScalePhaseY] ++
    (List.range Scaler.phases).flatMap fun phase => [pipeScaleTapsX phase, pipeScaleTapsY phase]
  else [pipeScaleControl]

/-- The registers of a read pipe that is switched on, relative to its block. -/
def pipeRegisters (kind : PipeKind) (u : PipeUse) : List Nat :=
  [pipeLayout, pipeFrame] ++ planeRegisters pipeAddressLow pipeAddressHigh pipeStride u.planes ++
    match kind with
    | .simple => [pipeSourcePosition, pipeSourceSize, pipeControl]
    | .rotating | .upright =>
      [pipeSourcePosition, pipeSourceSize, pipeCropPosition, pipeCropSize] ++
        tileRegisters u.tiled ++ colorRegisters pipeColorControl pipeColorCoefficient u.color ++
        scaleRegisters u.scaled ++ [pipeControl]

theorem planeRegisters_sublist {low high stride : Nat → Nat} {m n : Nat} (h : m ≤ n) :
    (planeRegisters low high stride m).Sublist (planeRegisters low high stride n) :=
  (List.range_sublist.mpr h).flatMap _

theorem colorRegisters_sublist {control : Nat} {coefficient : Nat → Nat} (on : Bool) :
    (colorRegisters control coefficient on).Sublist (colorRegisters control coefficient true) := by
  cases on with
  | false => exact (List.nil_sublist _).cons_cons _
  | true => exact .refl _

/-- Whatever a pipe is set to do, it looks at no other registers than if it did everything. -/
theorem pipeRegisters_sublist (kind : PipeKind) {u : PipeUse} (h : u.planes ≤ 3) :
    (pipeRegisters kind u).Sublist (pipeRegisters kind .full) := by
  have htile : (tileRegisters u.tiled).Sublist (tileRegisters true) := by
    cases u.tiled with
    | false => exact List.nil_sublist _
    | true => exact .refl _
  have hscale : (scaleRegisters u.scaled).Sublist (scaleRegisters true) := by
    cases u.scaled with
    | false => exact (List.nil_sublist _).cons_cons _
    | true => exact .refl _
  refine List.Sublist.append ((List.Sublist.refl _).append (planeRegisters_sublist h)) ?_
  cases kind with
  | simple => exact .refl _
  | rotating | upright =>
    exact ((((List.Sublist.refl _).append htile).append (colorRegisters_sublist _)).append
      hscale).append (.refl _)

end Register

/-- The registers that a read pipe looks at: its control word, and the rest if it is switched
on. -/
def Pipe.registers (p : Pipe) (u : Option PipeUse) : List Nat :=
  (match u with
    | some u => Register.pipeRegisters p.kind u
    | none => [Register.pipeControl]).map (Register.inBlock p.base)

theorem Pipe.registers_sublist (p : Pipe) {u : Option PipeUse} (h : ∀ v ∈ u, v.planes ≤ 3) :
    (p.registers u).Sublist (p.registers (some .full)) := by
  refine List.Sublist.map _ ?_
  cases u with
  | none => cases p.kind <;> exact List.singleton_sublist.mpr (by decide)
  | some v => exact Register.pipeRegisters_sublist p.kind (h v rfl)

/-! ### The engine -/

/-- What the engine is **set to do** when it composes or fills. -/
structure Use where
  /-- What a read pipe does, if it is switched on. -/
  pipe : Pipe → Option PipeUse
  /-- Whether a sub-frame has a color key, if it is switched on. -/
  subframe : Nat → Option Bool
  /-- The number of memory planes of the output. -/
  outPlanes : Nat
  /-- The write pipe converts colors. -/
  outColor : Bool

namespace Register

/-- The registers that a sub-frame looks at. -/
def subframeRegisters (n : Nat) : (keyed : Option Bool) → List Nat
  | none => [subframe n subframeControl]
  | some keyed =>
    [subframe n subframePosition, subframe n subframeSize, subframe n subframeAlpha] ++
      (if keyed then [subframe n subframeKeyMin, subframe n subframeKeyMax] else []) ++
      [subframe n subframeControl]

/-- The registers that the compositor looks at. -/
def mixRegisters (use : Nat → Option Bool) : List Nat :=
  [mixSize, mixBackground] ++ (List.range subframeCount).flatMap (fun n =>
    subframeRegisters n (use n)) ++ (List.range slotCount).map pathSlot ++ [mixOperator, mixControl]

theorem subframeRegisters_sublist (n : Nat) (keyed : Option Bool) :
    (subframeRegisters n keyed).Sublist (subframeRegisters n (some true)) := by
  rcases keyed with _ | _ | _
  · exact List.singleton_sublist.mpr (by simp [subframeRegisters])
  · exact ((List.Sublist.refl _).append (List.nil_sublist _)).append (.refl _)
  · exact .refl _

theorem mixRegisters_sublist (use : Nat → Option Bool) :
    (mixRegisters use).Sublist (mixRegisters fun _ => some true) :=
  (((List.Sublist.refl _).append
    (List.Sublist.flatMap_right _ fun n _ => subframeRegisters_sublist n (use n))).append
      (.refl _)).append (.refl _)

/-- The registers that the write pipe looks at. -/
def outRegisters (planes : Nat) (color : Bool) : List Nat :=
  [outLayout, outSize, outBypass] ++ colorRegisters outColorControl outColorCoefficient color ++
    planeRegisters outAddressLow outAddressHigh outStride planes ++ [outControl]

/-- The registers of so many channels. -/
def channelRegisters (register : Nat → Nat → Nat) (channels : Nat) : List Nat :=
  (List.range channels).flatMap fun n =>
    [channelWatermark, channelData, channelCommand, channelBurst].map (register n)

/-- The registers that the engine looks at **whatever it does**. -/
def commonRegisters (g : Generation) : List Nat :=
  [commandId, workMode] ++ readControl :: channelRegisters readChannel g.readChannels ++
    writeControl :: channelRegisters writeChannel g.writeChannels

/-- The registers that a raw copy looks at. -/
def copyRegisters : List Nat :=
  [copySourceLow, copySourceHigh, copyTargetLow, copyTargetHigh, copySize, copySourceStride,
    copyTargetStride]

end Register

namespace Use

/-- The registers that the units of the engine look at when it composes or fills. -/
def registers (u : Use) (g : Generation) : List Nat :=
  g.pipes.flatMap (fun p => p.registers (u.pipe p)) ++ Register.mixRegisters u.subframe ++
    Register.outRegisters u.outPlanes u.outColor

/-- Everything the engine can do. -/
def full : Use := ⟨fun _ => some .full, fun _ => some true, 3, true⟩

/-- Nothing has more than three memory planes. -/
structure Bounded (u : Use) : Prop where
  pipe : ∀ p, ∀ v ∈ u.pipe p, v.planes ≤ 3
  out : u.outPlanes ≤ 3

variable {u : Use} (h : u.Bounded)
include h

/-- The registers of the compositor and of the write pipe are no others than if they did
everything. -/
theorem Bounded.mixed_sublist :
    (Register.mixRegisters u.subframe ++ Register.outRegisters u.outPlanes u.outColor).Sublist
      (Register.mixRegisters full.subframe ++
        Register.outRegisters full.outPlanes full.outColor) :=
  (Register.mixRegisters_sublist u.subframe).append
    ((((List.Sublist.refl _).append (Register.colorRegisters_sublist _)).append
      (Register.planeRegisters_sublist h.out)).append (.refl _))

/-- Whatever the engine is set to do, it looks at no other registers than if it did everything. -/
theorem Bounded.registers_sublist (g : Generation) :
    (u.registers g).Sublist (full.registers g) := by
  have hpipes : (g.pipes.flatMap fun p => p.registers (u.pipe p)).Sublist
      (g.pipes.flatMap fun p => p.registers (full.pipe p)) :=
    List.Sublist.flatMap_right _ fun p _ => p.registers_sublist (h.pipe p)
  unfold registers
  rw [List.append_assoc, List.append_assoc]
  exact hpipes.append h.mixed_sublist

end Use

/-! ### Reading the use off the registers -/

namespace RegisterFile

/-- What a read pipe is set to do, if it is switched on. -/
def pipeUse (f : RegisterFile) (p : Pipe) : Option PipeUse :=
  let control := f.read (Register.inBlock p.base Register.pipeControl)
  if control &&& Register.pipeEnable = 0 then none
  else some (.ofWords control (f.read (Register.inBlock p.base Register.pipeFrame)))

/-- Whether a sub-frame has a color key, if it is switched on. -/
def subframeUse (f : RegisterFile) (n : Nat) : Option Bool :=
  let control := f.read (Register.subframe n Register.subframeControl)
  if control &&& Register.subframeEnable = 0 then none
  else some (control &&& Register.subframeColorKey != 0)

/-- What the engine is set to do. -/
def use (f : RegisterFile) : Use :=
  { pipe := f.pipeUse
    subframe := f.subframeUse
    outPlanes := (Register.outPlanes.decode (f.read Register.outControl)).toNat
    outColor := f.read Register.outColorControl &&& Register.colorEnable != 0 }

/-- **The registers that the engine consults** when it is started. -/
def consulted (g : Generation) (f : RegisterFile) : List Nat :=
  Register.commonRegisters g ++
    if Register.workOperation.decode (f.read Register.workMode) = Operation.copy.code then
      Register.copyRegisters
    else f.use.registers g

/-- The fields that count planes have two bits. -/
theorem bounded_use (f : RegisterFile) : f.use.Bounded where
  pipe p v hv := by
    have hpipe : f.pipeUse p = some v := hv
    simp only [pipeUse, Option.ite_none_left_eq_some, Option.some.injEq] at hpipe
    obtain ⟨-, rfl⟩ := hpipe
    exact Nat.le_of_lt_succ (Field.decode_lt Register.framePlanes _)
  out := Nat.le_of_lt_succ (Field.decode_lt Register.outPlanes _)

end RegisterFile

/-! ### The blocks of the map -/

/-- The registers are **different words** of the window from `lo` up to `hi`. -/
structure Register.LieIn (lo hi : Nat) (registers : List Nat) : Prop where
  nodup : registers.Nodup
  bounds : ∀ r ∈ registers, lo ≤ r ∧ r < hi
  aligned : ∀ r ∈ registers, 4 ∣ r

namespace Register

instance (lo hi : Nat) (registers : List Nat) : Decidable (LieIn lo hi registers) :=
  decidable_of_iff (registers.Nodup ∧ (∀ r ∈ registers, lo ≤ r ∧ r < hi) ∧ ∀ r ∈ registers, 4 ∣ r)
    ⟨fun ⟨hnodup, hbounds, haligned⟩ => ⟨hnodup, hbounds, haligned⟩,
      fun ⟨hnodup, hbounds, haligned⟩ => ⟨hnodup, hbounds, haligned⟩⟩

namespace LieIn

variable {lo mid hi : Nat} {registers others : List Nat}

theorem append (h : LieIn lo mid registers) (h' : LieIn mid hi others) (hlo : lo ≤ mid)
    (hhi : mid ≤ hi) : LieIn lo hi (registers ++ others) where
  nodup := by
    refine h.nodup.append h'.nodup fun r hr hr' => ?_
    exact Nat.not_lt.mpr (h'.bounds r hr').1 (h.bounds r hr).2
  bounds := by
    intro r hr
    rcases List.mem_append.mp hr with hr | hr
    · exact ⟨(h.bounds r hr).1, Nat.lt_of_lt_of_le (h.bounds r hr).2 hhi⟩
    · exact ⟨Nat.le_trans hlo (h'.bounds r hr).1, (h'.bounds r hr).2⟩
  aligned := List.forall_mem_append.mpr ⟨h.aligned, h'.aligned⟩

/-- Registers relative to a block, taken from its base. -/
theorem inBlock (h : LieIn lo hi registers) {base : Nat} (hbase : 4 ∣ base) :
    LieIn (base + lo) (base + hi) (registers.map (Register.inBlock base)) where
  nodup := h.nodup.map fun _ _ => Nat.add_left_cancel
  bounds := by
    rw [List.forall_mem_map]
    intro r hr
    exact ⟨Nat.add_le_add_left (h.bounds r hr).1 base, Nat.add_lt_add_left (h.bounds r hr).2 base⟩
  aligned := by
    rw [List.forall_mem_map]
    exact fun r hr => Nat.dvd_add hbase (h.aligned r hr)

theorem mono (h : LieIn lo hi registers) {lo' hi' : Nat} (hlo : lo' ≤ lo) (hhi : hi ≤ hi') :
    LieIn lo' hi' registers where
  nodup := h.nodup
  bounds r hr := ⟨Nat.le_trans hlo (h.bounds r hr).1, Nat.lt_of_lt_of_le (h.bounds r hr).2 hhi⟩
  aligned := h.aligned

/-- Different words have different numbers. -/
theorem nodup_map_div (h : LieIn lo hi registers) : (registers.map (· / 4)).Nodup := by
  refine h.nodup.map_on fun r hr s hs heq => ?_
  rw [← Nat.mul_div_cancel' (h.aligned r hr), ← Nat.mul_div_cancel' (h.aligned s hs), heq]

end LieIn

/-- A pipe's registers lie in **the pipe's block**. -/
theorem lieIn_registers (p : Pipe) :
    LieIn p.base (p.base + 0x400) (p.registers (some .full)) := by
  have hrelative : ∀ kind, LieIn 0 0x400 (pipeRegisters kind .full) := by
    intro kind
    cases kind <;> decide +kernel
  have hbase : 4 ∣ p.base := by
    unfold Pipe.base pipeBase
    omega
  exact (hrelative p.kind).inBlock hbase

/-- The blocks of consecutive pipes lie side by side. -/
theorem lieIn_flatMap_chain (kinds : List PipeKind) (index channel : Nat) :
    LieIn (pipeBase index) (pipeBase (index + kinds.length))
      ((Pipe.chain index channel kinds).flatMap fun p => p.registers (some .full)) := by
  induction kinds generalizing index channel with
  | nil => exact ⟨.nil, fun _ h => absurd h List.not_mem_nil, fun _ h => absurd h List.not_mem_nil⟩
  | cons kind kinds ih =>
    have hnext : pipeBase (index + (kind :: kinds).length) =
        pipeBase (index + 1 + kinds.length) := by
      rw [List.length_cons, Nat.add_right_comm, Nat.add_assoc]
    have hstep : pipeBase (index + 1) = pipeBase index + 0x400 := by
      unfold pipeBase
      omega
    have hlast : pipeBase (index + 1) ≤ pipeBase (index + 1 + kinds.length) := by
      unfold pipeBase
      omega
    rw [hnext, Pipe.chain, List.flatMap_cons]
    refine LieIn.append ?_ (ih (index + 1) (channel + kind.channels)) (by omega) hlast
    rw [hstep]
    exact lieIn_registers ⟨index, kind, channel⟩

/-- Every register that the engine ever consults. -/
def all (g : Generation) : List Nat := commonRegisters g ++ copyRegisters ++ Use.full.registers g

/-- The first block holds the registers of the engine as a whole. -/
theorem lieIn_commonRegisters (g : Generation) :
    LieIn commandId (pipeBase 0) (commonRegisters g ++ copyRegisters) := by
  cases g <;> decide +kernel

/-- The compositor's registers and the write pipe's lie in the last two blocks. -/
theorem lieIn_mixed_full : LieIn mixControl windowSize
    (mixRegisters Use.full.subframe ++ outRegisters Use.full.outPlanes Use.full.outColor) := by
  decide +kernel

/-- The units' registers lie in the blocks above. -/
theorem lieIn_registers_full (g : Generation) :
    LieIn (pipeBase 0) windowSize (Use.full.registers g) := by
  have hkinds : pipeBase (0 + g.pipeKinds.length) ≤ mixControl := by
    cases g <;> decide
  have hpipes := (lieIn_flatMap_chain g.pipeKinds 0 0).mono (Nat.le_refl _) hkinds
  unfold Use.registers
  rw [List.append_assoc]
  exact hpipes.append lieIn_mixed_full (by decide) (by decide)

/-- **No word of the window is listed twice**, and those of the interface are not listed. -/
theorem lieIn_all (g : Generation) : LieIn commandId windowSize (all g) :=
  (lieIn_commonRegisters g).append (lieIn_registers_full g) (by decide) (by decide)

/-- The registers of the command chain are not listed. -/
theorem not_chain_of_mem_all {g : Generation} {r : Nat} (hr : r ∈ all g) :
    r < chainBaseLow ∨ chainEnd + 4 ≤ r := by
  have hcommon : ∀ r ∈ commonRegisters g ++ copyRegisters,
      r < chainBaseLow ∨ chainEnd + 4 ≤ r := by
    cases g <;> decide +kernel
  rcases List.mem_append.mp hr with hr | hr
  · exact hcommon r hr
  · have habove : chainEnd + 4 ≤ pipeBase 0 := by decide
    exact .inr (Nat.le_trans habove ((lieIn_registers_full g).bounds r hr).1)

theorem commonRegisters_sublist (g : Generation) {registers : List Nat}
    (h : registers.Sublist (copyRegisters ++ Use.full.registers g)) :
    (commonRegisters g ++ registers).Sublist (all g) := by
  unfold all
  rw [List.append_assoc]
  exact (List.Sublist.refl _).append h

end Register

/-- Whatever the registers say, the engine consults **no others**. -/
theorem RegisterFile.consulted_sublist (g : Generation) (f : RegisterFile) :
    (f.consulted g).Sublist (Register.all g) := by
  refine Register.commonRegisters_sublist g ?_
  split
  · exact List.sublist_append_left _ _
  · exact (f.bounded_use.registers_sublist g).trans (List.sublist_append_right _ _)

/-! ### Writes to registers of the map -/

namespace Reaches

variable {ws : List RegisterWrite} {registers : List Nat} (h : Reaches ws registers)
include h

/-- Registers that are written to **do not depend on what was there before**. -/
theorem read_apply_eq (f f' : RegisterFile) {r : Nat} (hr : r ∈ registers) :
    (f.apply ws).read r = (f'.apply ws).read r := by
  have hmem : UInt32.ofNat r ∈ ws.map RegisterWrite.offset := by
    rw [h]
    exact List.mem_map_of_mem hr
  obtain ⟨w, hw, hoffset⟩ := List.mem_map.mp hmem
  refine RegisterFile.get_apply_eq_of_mem f f' ?_
  rw [← hoffset]
  exact List.mem_map_of_mem hw

variable {g : Generation} (hall : registers.Sublist (Register.all g))
include hall

theorem slots_eq : RegisterFile.slots ws = registers.map (· / 4) := by
  have hslots : RegisterFile.slots ws =
      (ws.map RegisterWrite.offset).map RegisterFile.slot := by
    rw [List.map_map]
    rfl
  rw [hslots, h, List.map_map]
  refine List.map_congr_left fun r hr => ?_
  have hr' : r < Register.windowSize := ((Register.lieIn_all g).bounds r (hall.subset hr)).2
  have hwindow : Register.windowSize < 2 ^ 32 := by decide
  rw [Function.comp_apply, RegisterFile.slot, UInt32.toNat_ofNat_of_lt' (hr'.trans hwindow)]

/-- What is written to a register is **there afterwards**. -/
theorem read_apply_put (f : RegisterFile) {r : Nat} {value : UInt32} (hw : put r value ∈ ws) :
    (f.apply ws).read r = value := by
  have hnodup : (RegisterFile.slots ws).Nodup := by
    rw [h.slots_eq hall]
    exact (Register.lieIn_all g).nodup_map_div.sublist (hall.map _)
  have hslot : RegisterFile.slot (UInt32.ofNat r) ∈ RegisterFile.slots ws :=
    List.mem_map_of_mem hw
  rw [h.slots_eq hall] at hslot
  obtain ⟨r', hr', heq⟩ := List.mem_map.mp hslot
  have hlt := ((Register.lieIn_all g).bounds r' (hall.subset hr')).2
  refine RegisterFile.get_apply_of_mem f hnodup hw ?_
  show RegisterFile.slot (UInt32.ofNat r) < registerCount
  unfold Register.windowSize at hlt
  unfold registerCount
  omega

end Reaches

end Blitter
