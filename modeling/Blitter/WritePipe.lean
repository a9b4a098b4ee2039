import Blitter.ColorMatrix
import Blitter.Resolved

/-!
# The write pipe

The write pipe turns the composed picture into the format of the output, rotates it and writes
it to the output's memory planes.
-/

namespace Blitter

namespace Target

/-- The writes that set the color conversion. -/
def colorWrites (t : Target) : List RegisterWrite :=
  if t.layout.yuv then
    put Register.outColorControl Register.colorEnable ::
      ColorMatrix.writes Register.outColorCoefficient (ColorMatrix.rgbToYuv t.output.colorSpace)
  else [put Register.outColorControl 0]

/-- The writes for the memory planes of the output. -/
def planeWrites (t : Target) : List RegisterWrite :=
  t.layout.planes.flatMap fun (plane : Fin 3) =>
    [ put (Register.outAddressLow plane) (lowWord (t.output.address.get plane)),
      put (Register.outAddressHigh plane) (highWord (t.output.address.get plane)),
      put (Register.outStride plane) (t.output.stride.get plane) ]

/-- The control word. -/
def controlWord (t : Target) : UInt32 :=
  Register.outEnable ||| Register.outRotation.encode t.output.rotation.code |||
    Register.outPlanes.encode (UInt32.ofNat t.layout.planes.length)

/-- The writes by which the write pipe **produces the output**; the control word is last. -/
def writes (t : Target) : List RegisterWrite :=
  [ put Register.outLayout t.layout.toWord,
    put Register.outSize (packSize t.output.width t.output.height),
    put Register.outBypass (Register.outBypassStages.encode t.bypass.code) ] ++
  t.colorWrites ++ t.planeWrites ++ [put Register.outControl t.controlWord]

end Target

end Blitter
