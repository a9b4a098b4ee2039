import Blitter.Channel
import Blitter.ColorMatrix
import Blitter.Scaler

/-!
# Read pipes

Each enabled layer is fetched by one read pipe. Graphics pipes crop, scale, convert YUV and read
tiles, and some of them rotate; simple pipes fetch linear RGB and nothing else. `Pipe.check`
turns down what a pipe cannot fetch; `Pipe.writes` is the program that makes it fetch the rest.
-/

namespace Blitter

/-- The kind of pipe has the capability. -/
def PipeKind.can : PipeKind → Capability → Bool
  | .rotating, _ => true
  | .upright, .rotate => false
  | .upright, _ => true
  | .simple, _ => false

/-- The bit of a capability in a set of them. -/
def Capability.bit : Capability → UInt32
  | scale => 1
  | rotate => 2
  | yuv => 4
  | tiled => 8
  | crop => 16

/-- The capabilities of a kind of pipe as a set of bits. -/
def PipeKind.capabilityBits (k : PipeKind) : UInt32 :=
  [Capability.scale, .rotate, .yuv, .tiled, .crop].foldl
    (fun bits c => if k.can c then bits ||| c.bit else bits) 0

namespace Pipe

/-- Turns a layer down that needs a capability which the pipe does not have. -/
def require (p : Pipe) (what : Capability) (needed : Bool) : Outcome Unit :=
  if needed && !p.kind.can what then reject (.missingCapability p.index what) else .ok ()

/-- Turns down a layer that the pipe **cannot fetch**. -/
def check (p : Pipe) (s : Source) : Outcome Unit := do
  p.require .yuv s.layout.yuv
  p.require .tiled s.fetch.isTiled
  p.require .rotate (s.layer.rotation != .none)
  if s.layer.scalesX || s.layer.scalesY then
    p.require .scale true
    Scaler.check s.layer.turnedSize.1 s.layer.dst.w
    Scaler.check s.layer.turnedSize.2 s.layer.dst.h

/-- The write of a register in the pipe's block. -/
def put (p : Pipe) (reg : Nat) (value : UInt32) : RegisterWrite :=
  Blitter.put (Register.inBlock p.base reg) value

/-- The writes for the memory planes of a source. -/
def planeWrites (p : Pipe) (s : Source) : List RegisterWrite :=
  s.layout.planes.flatMap fun (plane : Fin 3) =>
    [ p.put (Register.pipeAddressLow plane) (lowWord (s.layer.address.get plane)),
      p.put (Register.pipeAddressHigh plane) (highWord (s.layer.address.get plane)),
      p.put (Register.pipeStride plane) (s.layer.stride.get plane) ]

/-- The writes that set the fetched box and the crop inside it. -/
def cropWrites (p : Pipe) (s : Source) : List RegisterWrite :=
  let box := s.fetch.box
  let src := s.layer.src
  [ p.put Register.pipeSourcePosition (packPosition box.x1 box.y1),
    p.put Register.pipeSourceSize (packSize box.width box.height),
    p.put Register.pipeCropPosition (packPosition (src.x - box.x1) (src.y - box.y1)),
    p.put Register.pipeCropSize (packSize src.w src.h) ]

/-- The writes that set the tiles of a tiled source. -/
def tileWrites (p : Pipe) (s : Source) : List RegisterWrite :=
  if s.fetch.isTiled then
    let box := s.fetch.box
    let tw := s.fetch.tileWidth
    let th := s.fetch.tileHeight
    [ p.put Register.pipeTileControl s.fetch.controlWord,
      p.put Register.pipeTilePosition (packPosition (box.x1 / tw) (box.y1 / th)),
      p.put Register.pipeTileSize (packSize (box.width / tw) (box.height / th)) ]
  else []

/-- The writes that set the color conversion. -/
def colorWrites (p : Pipe) (s : Source) : List RegisterWrite :=
  if s.layout.yuv then
    p.put Register.pipeColorControl Register.colorEnable ::
      ColorMatrix.writes (fun n => Register.inBlock p.base (Register.pipeColorCoefficient n))
        (ColorMatrix.yuvToRgb s.layer.colorSpace)
  else [p.put Register.pipeColorControl 0]

/-- The writes that set the scaler. -/
def scaleWrites (p : Pipe) (s : Source) : List RegisterWrite :=
  let l := s.layer
  if l.scalesX || l.scalesY then
    [ p.put Register.pipeScaleControl
        ((if l.scalesX then Register.scaleX else 0) ||| (if l.scalesY then Register.scaleY else 0)),
      p.put Register.pipeScaleSize (packSize l.dst.w l.dst.h),
      p.put Register.pipeScaleStepX (Scaler.step l.turnedSize.1 l.dst.w),
      p.put Register.pipeScaleStepY (Scaler.step l.turnedSize.2 l.dst.h),
      p.put Register.pipeScalePhaseX 0,
      p.put Register.pipeScalePhaseY 0 ] ++
    Scaler.tapTable.zipIdx.flatMap fun (taps, phase) =>
      [p.put (Register.pipeScaleTapsX phase) taps, p.put (Register.pipeScaleTapsY phase) taps]
  else [p.put Register.pipeScaleControl 0]

/-- The control word of a graphics pipe. -/
def controlWord (s : Source) : UInt32 :=
  Register.pipeEnable ||| Register.pipeRotation.encode s.layer.rotation.code |||
    (if s.fetch.isTiled then Register.pipeTiled else 0) |||
    (if s.fetch.isCompressed then Register.pipeCompressed else 0) |||
    (if s.layout.yuv then Register.pipeColor else 0) |||
    (if s.layer.scalesX || s.layer.scalesY then Register.pipeScaler else 0)

/-- The frame word: planes, fetch mode and compressed format. -/
def frameWord (s : Source) : UInt32 :=
  Register.framePlanes.encode (UInt32.ofNat s.layout.planes.length) |||
    Register.frameFetchMode.encode s.fetch.mode.code |||
    Register.frameCompression.encode (s.fetch.compression.getD 0).toUInt32

/-- The writes by which the pipe **fetches a source**; the control word is last. -/
def writes (p : Pipe) (s : Source) : List RegisterWrite :=
  [p.put Register.pipeLayout s.layout.toWord, p.put Register.pipeFrame (frameWord s)] ++
    p.planeWrites s ++
    match p.kind with
    | .simple =>
      [ p.put Register.pipeSourcePosition (packPosition s.layer.src.x s.layer.src.y),
        p.put Register.pipeSourceSize (packSize s.layer.src.w s.layer.src.h),
        p.put Register.pipeControl Register.pipeEnable ]
    | .rotating | .upright =>
      p.cropWrites s ++ p.tileWrites s ++ p.colorWrites s ++ p.scaleWrites s ++
        [p.put Register.pipeControl (controlWord s)]

/-- The write by which the pipe fetches nothing. -/
def offWrites (p : Pipe) : List RegisterWrite := [p.put Register.pipeControl 0]

end Pipe

end Blitter
