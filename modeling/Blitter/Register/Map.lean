import Blitter.Register.Field

/-!
# The register map

Byte offsets of the engine's registers, counted from the start of its register window, and the
bit fields inside them. The blocks are the global registers at `0x0000`, the read and write
channels at `0x0100` and `0x0200`, the read pipes from `0x1000`, the compositor at `0x3000` and
the write pipe at `0x4000`.

Offsets are natural numbers; `put` turns one into a register write.
-/

namespace Blitter

/-- The largest width and height that any size field carries. -/
def maxDimension : UInt32 := 8192

/-- A **register write**, the unit in which the engine is driven. -/
structure RegisterWrite where
  offset : UInt32
  value : UInt32
  deriving DecidableEq, Repr, Inhabited

/-- The write of `value` to the register at `offset`. -/
def put (offset : Nat) (value : UInt32) : RegisterWrite := ⟨UInt32.ofNat offset, value⟩

namespace Register

/-- The size of the register window in bytes. -/
def windowSize : Nat := 0x5000

/-! ### Global registers -/

def version : Nat := 0x00
def control : Nat := 0x04
def interruptMask : Nat := 0x08
def interruptStatus : Nat := 0x0C
def commandId : Nat := 0x10
def status : Nat := 0x14
def workMode : Nat := 0x18

def controlStart : UInt32 := 1
def controlReset : UInt32 := 2
def controlChain : UInt32 := 4

def workOperation : Field := { shift := 0, width := 2 }
def workStrip : UInt32 := 0x10

/-! ### The command chain -/

def chainBaseLow : Nat := 0x20
def chainBaseHigh : Nat := 0x24
def chainLength : Nat := 0x28
def chainNextLow : Nat := 0x2C
def chainNextHigh : Nat := 0x30
def chainNextLength : Nat := 0x34
def chainEnd : Nat := 0x38

/-! ### Raw copy -/

def copySourceLow : Nat := 0x40
def copySourceHigh : Nat := 0x44
def copyTargetLow : Nat := 0x48
def copyTargetHigh : Nat := 0x4C
def copySize : Nat := 0x50
def copySourceStride : Nat := 0x54
def copyTargetStride : Nat := 0x58

/-- The longest row of a raw copy in bytes: its field holds the length less one in 16 bits. -/
def copyMaxWidth : UInt32 := 0x10000

/-! ### Read and write channels -/

def readControl : Nat := 0x100
def readControlCopy : UInt32 := 1
def writeControl : Nat := 0x200

def channelWatermark : Nat := 0x0
def channelData : Nat := 0x4
def channelCommand : Nat := 0x8
def channelBurst : Nat := 0xC

def burstLength : Field := { shift := 0, width := 4 }
def burstPriority : Field := { shift := 8, width := 4 }
def burstEnable : UInt32 := 0x80000000

/-- Register `reg` of read channel `n`. -/
def readChannel (n reg : Nat) : Nat := 0x110 + n * 0x10 + reg

/-- Register `reg` of write channel `n`. -/
def writeChannel (n reg : Nat) : Nat := 0x210 + n * 0x10 + reg

/-! ### Read pipes, relative to the base of a pipe's block -/

/-- The block of pipe `n`. -/
def pipeBase (n : Nat) : Nat := 0x1000 + n * 0x400

def pipeControl : Nat := 0x000
def pipeLayout : Nat := 0x004
def pipeFrame : Nat := 0x008
def pipeSourceSize : Nat := 0x00C
def pipeCropPosition : Nat := 0x010
def pipeCropSize : Nat := 0x014
def pipeSourcePosition : Nat := 0x018
def pipeTileControl : Nat := 0x050
def pipeTilePosition : Nat := 0x054
def pipeTileSize : Nat := 0x058
def pipeColorControl : Nat := 0x05C
def pipeScaleControl : Nat := 0x100
def pipeScaleSize : Nat := 0x104
def pipeScaleStepX : Nat := 0x108
def pipeScaleStepY : Nat := 0x10C
def pipeScalePhaseX : Nat := 0x110
def pipeScalePhaseY : Nat := 0x114

def pipeAddressLow (plane : Nat) : Nat := 0x020 + plane * 8
def pipeAddressHigh (plane : Nat) : Nat := 0x024 + plane * 8
def pipeStride (plane : Nat) : Nat := 0x040 + plane * 4
def pipeColorCoefficient (n : Nat) : Nat := 0x060 + n * 4
def pipeScaleTapsX (phase : Nat) : Nat := 0x200 + phase * 4
def pipeScaleTapsY (phase : Nat) : Nat := 0x240 + phase * 4

/-- Register `reg` of the block at `base`. -/
def inBlock (base reg : Nat) : Nat := base + reg

def pipeEnable : UInt32 := 0x001
def pipeRotation : Field := { shift := 4, width := 3 }
def pipeTiled : UInt32 := 0x100
def pipeCompressed : UInt32 := 0x200
def pipeColor : UInt32 := 0x400
def pipeScaler : UInt32 := 0x800

def framePlanes : Field := { shift := 0, width := 2 }
def frameFetchMode : Field := { shift := 4, width := 3 }
def frameCompression : Field := { shift := 8, width := 8 }

def tileWidth : Field := { shift := 0, width := 4 }
def tileHeight : Field := { shift := 4, width := 4 }

def scaleX : UInt32 := 1
def scaleY : UInt32 := 2

def colorEnable : UInt32 := 1

/-! ### The pixel layout word, shared by the read pipes and the write pipe -/

def layoutA : Field := { shift := 0, width := 4 }
def layoutY : Field := { shift := 4, width := 4 }
def layoutU : Field := { shift := 8, width := 4 }
def layoutV : Field := { shift := 12, width := 4 }
def layoutSwap : Field := { shift := 16, width := 3 }
def layoutYuv : UInt32 := 0x00080000
def layoutChroma : Field := { shift := 20, width := 2 }
def layoutPlanarity : Field := { shift := 22, width := 2 }
def layoutBigEndian : UInt32 := 0x01000000
def layoutAlphaIgnored : UInt32 := 0x02000000

/-! ### The compositor -/

def mixControl : Nat := 0x3000
def mixBackground : Nat := 0x3004
def mixSize : Nat := 0x3008
def mixOperator : Nat := 0x300C

def mixEnable : UInt32 := 1
def mixBackgroundEnable : UInt32 := 2

def operatorEnable : UInt32 := 1
def operatorSource : Field := { shift := 4, width := 3 }
def operatorTarget : Field := { shift := 8, width := 3 }
def operatorMode : Field := { shift := 12, width := 4 }

def subframeControl : Nat := 0x00
def subframePosition : Nat := 0x04
def subframeSize : Nat := 0x08
def subframeAlpha : Nat := 0x0C
def subframeKeyMin : Nat := 0x10
def subframeKeyMax : Nat := 0x14

/-- Register `reg` of the compositor's sub-frame `n`. -/
def subframe (n reg : Nat) : Nat := 0x3100 + n * 0x20 + reg

def subframeEnable : UInt32 := 1
def subframeGlobalAlpha : UInt32 := 2
def subframeColorKey : UInt32 := 4

/-- Slot `z` of the compositor's path, counted from the bottom. -/
def pathSlot (z : Nat) : Nat := 0x3200 + z * 4

def pathLayer : Field := { shift := 0, width := 3 }
def pathBlend : Field := { shift := 4, width := 3 }
def pathPremultiplied : UInt32 := 0x100

/-- A path word with both index fields on the unused index 7. -/
def pathUnused : UInt32 := 0x77

/-! ### The write pipe -/

def outControl : Nat := 0x4000
def outLayout : Nat := 0x4004
def outSize : Nat := 0x4008
def outBypass : Nat := 0x400C
def outColorControl : Nat := 0x4010

def outColorCoefficient (n : Nat) : Nat := 0x4014 + n * 4
def outAddressLow (plane : Nat) : Nat := 0x4050 + plane * 8
def outAddressHigh (plane : Nat) : Nat := 0x4054 + plane * 8
def outStride (plane : Nat) : Nat := 0x4070 + plane * 4

def outEnable : UInt32 := 1
def outRotation : Field := { shift := 4, width := 3 }
def outPlanes : Field := { shift := 8, width := 2 }
def outBypassStages : Field := { shift := 0, width := 2 }

end Register

end Blitter
