import Blitter.Register.Map
import Blitter.Text.Blank

/-!
# Engine generations

Two revisions of the engine share the register map. They differ in their read pipes, in the
number of read and write channels and the depth of the pools these share, and in whether the
engine can replay command buffers. The generation is told by the start of a compatible string.
-/

namespace Blitter

/-- The kinds of read pipe. -/
inductive PipeKind where
  /-- A graphics pipe that rotates. -/
  | rotating
  /-- A graphics pipe that does not rotate. -/
  | upright
  /-- A pipe that fetches linear RGB sources and nothing else. -/
  | simple
  deriving DecidableEq, Repr

namespace PipeKind

/-- Read channels wired to a pipe of the kind. -/
def channels : PipeKind → Nat
  | rotating | upright => 3
  | simple => 1

/-- The kind as messages show it. -/
def text : PipeKind → String
  | rotating => "GPipeHigh"
  | upright => "GPipeMid"
  | simple => "SPipe"

end PipeKind

/-- What the channels of one direction share. -/
structure Pools where
  watermark : UInt32
  data : UInt32
  command : UInt32
  deriving DecidableEq, Repr

/-- The **generation** of an engine. -/
inductive Generation where
  | lite
  | normal
  deriving DecidableEq, Repr

namespace Generation

/-- The compatible string that the generation is known by. -/
def compatible : Generation → String
  | normal => "g2d,normal-v2"
  | lite => "g2d,lite-v1"

/-- The generation whose compatible string the text starts with, blank characters aside. -/
def ofCompatible? (text : String) : Option Generation :=
  [normal, lite].find? fun g => g.compatible.toList.isPrefixOf (Text.trimChars text.toList)

/-- The kinds of the read pipes, in order. -/
def pipeKinds : Generation → List PipeKind
  | normal => [.rotating, .rotating, .upright, .simple, .simple]
  | lite => [.upright, .simple]

/-- The number of read channels. -/
def readChannels : Generation → Nat
  | normal => 12
  | lite => 6

/-- The number of write channels. -/
def writeChannels : Generation → Nat
  | normal => 4
  | lite => 3

/-- The pools shared by the write channels. -/
def writePools : Generation → Pools
  | normal => ⟨256, 512, 32⟩
  | lite => ⟨128, 256, 16⟩

/-- The pools shared by the read channels: twice those of the write channels. -/
def readPools (g : Generation) : Pools :=
  let w := g.writePools
  ⟨w.watermark * 2, w.data * 2, w.command * 2⟩

/-- The engine can replay command buffers. -/
def replaysCommands : Generation → Bool
  | normal => true
  | lite => false

/-- The pipe that buffers longer lines than the others, if there is one. -/
def deepPipe : Generation → Option UInt64
  | normal => some 2
  | lite => none

/-- The content of the version register. -/
def versionWord : Generation → UInt32
  | normal => 0x00020000
  | lite => 0x00010000

/-- The generation as messages show it. -/
def text : Generation → String
  | normal => "Normal"
  | lite => "Lite"

end Generation

/-- A **read pipe** of an engine: its place among the pipes, its kind and its first channel. -/
structure Pipe where
  index : Nat
  kind : PipeKind
  firstChannel : Nat
  deriving DecidableEq, Repr

namespace Pipe

/-- The base of the pipe's register block. -/
def base (p : Pipe) : Nat := Register.pipeBase p.index

/-- Pipes of the given kinds, numbered from `index` on and wired to channels from `channel` on. -/
def chain : (index channel : Nat) → List PipeKind → List Pipe
  | _, _, [] => []
  | index, channel, kind :: kinds =>
    ⟨index, kind, channel⟩ :: chain (index + 1) (channel + kind.channels) kinds

end Pipe

/-- The read pipes of a generation, in order. -/
def Generation.pipes (g : Generation) : List Pipe := Pipe.chain 0 0 g.pipeKinds

end Blitter
