import Blitter.Frame
import Blitter.Proofs.Register.Field
import Blitter.Proofs.RegisterFile

/-!
# What registers are set to

The registers of a pipe, a sub-frame or the write pipe are read here the way that hardware takes
them: words are split into their fields, positions and sizes are unpacked, two words make an
address, and which words are looked at is told by bits of other words. `Encodes` is a register file
that is set to compose given layers onto a given output, with nothing but readings of registers on
one side and nothing but the layers and the output on the other.
-/

namespace Blitter

/-- How far color components are subsampled, by its code. -/
def Chroma.ofCode (code : UInt32) : Chroma :=
  if code = 0 then quarter else if code = 1 then half else full

/-- How components are spread over planes, by its code. -/
def Planarity.ofCode (code : UInt32) : Planarity :=
  if code = 0 then interleaved else if code = 1 then semiPlanar else planar

/-- The **layout that a word describes**. -/
def PixelLayout.ofWord (word : UInt32) : PixelLayout :=
  { a := (Register.layoutA.decode word).toUInt8
    y := (Register.layoutY.decode word).toUInt8
    u := (Register.layoutU.decode word).toUInt8
    v := (Register.layoutV.decode word).toUInt8
    swap := (Register.layoutSwap.decode word).toUInt8
    yuv := word &&& Register.layoutYuv != 0
    chroma := .ofCode (Register.layoutChroma.decode word)
    planarity := .ofCode (Register.layoutPlanarity.decode word)
    bigEndian := word &&& Register.layoutBigEndian != 0
    alphaIgnored := word &&& Register.layoutAlphaIgnored != 0 }

/-- Layout words tell the formats of the catalog **apart**: each gives back its layout. -/
theorem PixelLayout.ofWord_toWord :
    ∀ f ∈ Format.catalog, PixelLayout.ofWord f.layout.toWord = f.layout := by
  decide +kernel

/-- The rectangle at a position and of a size. -/
def Rect.ofWords (position size : UInt32) : Rect :=
  { x := (unpackPosition position).1, y := (unpackPosition position).2
    w := (unpackSize size).1, h := (unpackSize size).2 }

theorem Rect.ofWords_pack {x y w h : UInt32} (hx : x.toNat < 65536) (hy : y.toNat < 65536)
    (hw : 0 < w.toNat ∧ w.toNat ≤ 65536) (hh : 0 < h.toNat ∧ h.toNat ≤ 65536) :
    Rect.ofWords (packPosition x y) (packSize w h) = ⟨x, y, w, h⟩ := by
  rw [ofWords, unpackPosition_packPosition hx hy, unpackSize_packSize hw hh]

namespace RegisterFile

variable (rf : RegisterFile)

/-- The registers **hold what the writes put into them**. -/
def Carries (ws : List RegisterWrite) : Prop :=
  ∀ register value, put register value ∈ ws → rf.read register = value

theorem Carries.mono {rf : RegisterFile} {ws vs : List RegisterWrite} (h : rf.Carries ws)
    (hsub : vs ⊆ ws) : rf.Carries vs := fun register value hw => h register value (hsub hw)

/-- The address in two registers. -/
def address (low high : Nat) : UInt64 := joinWords (rf.read high) (rf.read low)

/-- Planes are given **the addresses and strides** that are written for them. -/
theorem Carries.plane {rf : RegisterFile} {planes : List (Fin 3)} {low high stride : Fin 3 → Nat}
    {address : Vector UInt64 3} {strides : Vector UInt32 3}
    (h : rf.Carries (planes.flatMap fun (n : Fin 3) =>
      [put (low n) (lowWord (address.get n)), put (high n) (highWord (address.get n)),
        put (stride n) (strides.get n)])) {n : Fin 3} (hn : n ∈ planes) :
    rf.address (low n) (high n) = address.get n ∧ rf.read (stride n) = strides.get n := by
  have hplane {register : Nat} {value : UInt32}
      (hw : put register value ∈ [put (low n) (lowWord (address.get n)),
        put (high n) (highWord (address.get n)), put (stride n) (strides.get n)]) :
      rf.read register = value := h _ _ (List.mem_flatMap.mpr ⟨n, hn, hw⟩)
  have hlow := hplane List.mem_cons_self
  have hhigh := hplane (List.mem_cons_of_mem _ List.mem_cons_self)
  have hstride := hplane (List.mem_cons_of_mem _ (List.mem_cons_of_mem _ List.mem_cons_self))
  refine ⟨?_, hstride⟩
  rw [RegisterFile.address, hlow, hhigh, joinWords_highWord_lowWord]

/-! ### Read pipes -/

section Pipe

variable (p : Pipe)

/-- The word of a register in the pipe's block. -/
def pipeWord (reg : Nat) : UInt32 := rf.read (Register.inBlock p.base reg)

/-- The box of pixels that the pipe fetches. -/
def fetchedBox : Rect :=
  .ofWords (rf.pipeWord p Register.pipeSourcePosition) (rf.pipeWord p Register.pipeSourceSize)

/-- The source rectangle of the pipe: what it fetches, which a graphics pipe crops. -/
def sourceRect : Rect :=
  match p.kind with
  | .simple => rf.fetchedBox p
  | .rotating | .upright =>
    let crop := Rect.ofWords (rf.pipeWord p Register.pipeCropPosition)
      (rf.pipeWord p Register.pipeCropSize)
    { crop with x := (rf.fetchedBox p).x + crop.x, y := (rf.fetchedBox p).y + crop.y }

/-- A side of the pipe's tiles. -/
def tileSide (f : Field) : UInt32 :=
  UInt32.ofNat (2 ^ ((f.decode (rf.pipeWord p Register.pipeTileControl)).toNat + 1))

/-- The box that the pipe fetches, as it is counted in tiles. -/
def tileBox : Rect :=
  let tiles := Rect.ofWords (rf.pipeWord p Register.pipeTilePosition)
    (rf.pipeWord p Register.pipeTileSize)
  let width := rf.tileSide p Register.tileWidth
  let height := rf.tileSide p Register.tileHeight
  ⟨tiles.x * width, tiles.y * height, tiles.w * width, tiles.h * height⟩

/-- The compressed format that the pipe reads, if it reads one. -/
def compression : Option UInt8 :=
  if rf.pipeWord p Register.pipeControl &&& Register.pipeCompressed = 0 then none
  else some (Register.frameCompression.decode (rf.pipeWord p Register.pipeFrame)).toUInt8

/-- Whether the pipe scales across, and whether it scales down. -/
def scaling : Bool × Bool :=
  if rf.pipeWord p Register.pipeControl &&& Register.pipeScaler = 0 then (false, false)
  else (rf.pipeWord p Register.pipeScaleControl &&& Register.scaleX != 0,
    rf.pipeWord p Register.pipeScaleControl &&& Register.scaleY != 0)

/-- The pipe is **set to fetch the source**. -/
structure Fetches (s : Source) : Prop where
  enabled : rf.pipeWord p Register.pipeControl &&& Register.pipeEnable ≠ 0
  layout : rf.pipeWord p Register.pipeLayout = s.layout.toWord
  layout_eq : PixelLayout.ofWord (rf.pipeWord p Register.pipeLayout) = s.layout
  rotation : Register.pipeRotation.decode (rf.pipeWord p Register.pipeControl) =
    s.layer.rotation.code
  planes : (Register.framePlanes.decode (rf.pipeWord p Register.pipeFrame)).toNat =
    s.layout.planes.length
  address : ∀ n ∈ s.layout.planes,
    rf.address (Register.inBlock p.base (Register.pipeAddressLow n))
      (Register.inBlock p.base (Register.pipeAddressHigh n)) = s.layer.address.get n
  stride : ∀ n ∈ s.layout.planes,
    rf.pipeWord p (Register.pipeStride n) = s.layer.stride.get n
  source : rf.sourceRect p = s.layer.src
  mode : Register.frameFetchMode.decode (rf.pipeWord p Register.pipeFrame) = s.fetch.mode.code
  tiled : (rf.pipeWord p Register.pipeControl &&& Register.pipeTiled != 0) = s.fetch.isTiled
  compression : rf.compression p = s.fetch.compression
  /-- Counted in tiles, the box is the one that is fetched. -/
  box : s.fetch.isTiled = true → rf.tileBox p = rf.fetchedBox p ∧
    rf.fetchedBox p = ⟨s.fetch.box.x1, s.fetch.box.y1, s.fetch.box.width, s.fetch.box.height⟩
  scaling : rf.scaling p = (s.layer.scalesX, s.layer.scalesY)

end Pipe

/-! ### The compositor -/

section Compositor

variable (n : Nat)

/-- The word of a register of a sub-frame. -/
def subframeWord (reg : Nat) : UInt32 := rf.read (Register.subframe n reg)

/-- Where the sub-frame is in the picture. -/
def destination : Rect :=
  .ofWords (rf.subframeWord n Register.subframePosition) (rf.subframeWord n Register.subframeSize)

/-- How the sub-frame is blended, which the slot above its own number has a part in. -/
def blend : Blend :=
  if rf.subframeWord n Register.subframeControl &&& Register.subframeGlobalAlpha != 0 then .none
  else if rf.read (Register.pathSlot (n + 1)) &&& Register.pathPremultiplied != 0 then
    .premultiplied
  else .coverage

/-- The color key of the sub-frame, if it has one. -/
def colorKey : Option ColorKey :=
  if rf.subframeWord n Register.subframeControl &&& Register.subframeColorKey = 0 then none
  else some ⟨rf.subframeWord n Register.subframeKeyMin, rf.subframeWord n Register.subframeKeyMax⟩

end Compositor

/-- The compositor is **set to show the layer**. -/
structure Shows (l : Layer) : Prop where
  enabled : rf.subframeWord l.pipe.toNat Register.subframeControl &&& Register.subframeEnable ≠ 0
  destination : rf.destination l.pipe.toNat = l.dst
  alpha : rf.subframeWord l.pipe.toNat Register.subframeAlpha = l.alpha.toUInt32
  blend : rf.blend l.pipe.toNat = l.blend
  /-- The blending of the slot above is that of the layer's pipe. -/
  blended : Register.pathBlend.decode (rf.read (Register.pathSlot (l.pipe.toNat + 1))) =
    l.pipe.toUInt32
  colorKey : rf.colorKey l.pipe.toNat = l.colorKey
  depth_lt : l.depth.toNat < slotCount
  /-- Of all slots, the one at the layer's depth names its pipe. -/
  depth : ∀ z < slotCount,
    Register.pathLayer.decode (rf.read (Register.pathSlot z)) = l.pipe.toUInt32 ↔
      z = l.depth.toNat

/-! ### The write pipe -/

/-- The write pipe is **set to produce the output**. -/
structure WritesTo (t : Target) : Prop where
  enabled : rf.read Register.outControl &&& Register.outEnable ≠ 0
  layout : rf.read Register.outLayout = t.layout.toWord
  layout_eq : PixelLayout.ofWord (rf.read Register.outLayout) = t.layout
  size : unpackSize (rf.read Register.outSize) = (t.output.width, t.output.height)
  rotation : Register.outRotation.decode (rf.read Register.outControl) = t.output.rotation.code
  planes : (Register.outPlanes.decode (rf.read Register.outControl)).toNat = t.layout.planes.length
  address : ∀ n ∈ t.layout.planes,
    rf.address (Register.outAddressLow n) (Register.outAddressHigh n) = t.output.address.get n
  stride : ∀ n ∈ t.layout.planes, rf.read (Register.outStride n) = t.output.stride.get n

/-! ### All of it -/

/-- The registers are set to compose **these layers onto this output**: every layer is fetched by
its pipe and shown by the compositor, every pipe and every sub-frame without a layer is switched
off, and the output is written. -/
structure Encodes (g : Generation) (layers : List Layer) (output : Output) : Prop where
  fetches : ∀ l ∈ layers, ∃ p source, g.pipes[l.pipe.toNat]? = some p ∧
    Source.ofLayer l = .ok source ∧ rf.Fetches p source
  shows : ∀ l ∈ layers, rf.Shows l
  pipe_off : ∀ p ∈ g.pipes, (∀ l ∈ layers, l.pipe.toNat ≠ p.index) →
    rf.pipeWord p Register.pipeControl &&& Register.pipeEnable = 0
  subframe_off : ∀ n < subframeCount, (∀ l ∈ layers, l.pipe.toNat ≠ n) →
    rf.subframeWord n Register.subframeControl &&& Register.subframeEnable = 0
  output : ∃ target, Target.ofOutput output = .ok target ∧ rf.WritesTo target

/-- The **copy that the registers describe**. -/
def copySetting : Copy :=
  { src := rf.address Register.copySourceLow Register.copySourceHigh
    width := (unpackSize (rf.read Register.copySize)).1
    height := (unpackSize (rf.read Register.copySize)).2
    srcStride := rf.read Register.copySourceStride
    dst := rf.address Register.copyTargetLow Register.copyTargetHigh
    dstStride := rf.read Register.copyTargetStride }

end RegisterFile

end Blitter
