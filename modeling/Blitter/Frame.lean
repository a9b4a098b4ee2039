import Blitter.Log.Event
import Blitter.ReadPipe
import Blitter.Strip
import Blitter.Wiring
import Blitter.WritePipe

/-!
# Frames

A frame is what the engine does in one run: which channels work, what every read pipe fetches,
how the compositor is wired and where the write pipe puts the result. `Frame.pass` is its program
of register writes, always in that order.
-/

namespace Blitter

/-- What the engine does. -/
inductive Operation where
  | compose
  | fill
  | copy
  deriving DecidableEq, Repr

namespace Operation

/-- The register code. -/
def code : Operation → UInt32
  | compose => 0
  | fill => 1
  | copy => 2

/-- The operation as messages show it. -/
def text : Operation → String
  | compose => "Compose"
  | fill => "Fill"
  | copy => "Fastcopy"

end Operation

/-- The register writes of **one run** of the engine. -/
structure Pass where
  commandId : UInt32
  writes : List RegisterWrite
  deriving DecidableEq

/-- The writes that open every pass: its number, then what is to be done. -/
def headerWrites (commandId : UInt32) (operation : Operation) (isStrip : Bool) :
    List RegisterWrite :=
  [ put Register.commandId commandId,
    put Register.workMode (Register.workOperation.encode operation.code |||
      (if isStrip then Register.workStrip else 0)) ]

/-- What the read channels' split is reported as. -/
def Allocation.event (a : Allocation) : Event :=
  { level := .debug, part := "g2d::bandwidth"
    message := "rdma: active weight " ++ toString a.weight ++ " burst " ++ a.burst.text ++
      " weights " ++ bracketed (a.shares.map fun s => toString s.weight) }

/-- What a pipe's fetch is reported as. -/
def Pipe.event (p : Pipe) (s : Source) : Event :=
  let src := s.layer.src
  let dst := s.layer.dst
  { level := .trace, part := "g2d::pipe"
    message := "pipe " ++ toString p.index ++ " (" ++ p.kind.text ++ "): " ++
      s.layer.format.text ++ " " ++ toString src.w ++ "x" ++ toString src.h ++ " -> " ++
      toString dst.w ++ "x" ++ toString dst.h ++ " at (" ++ toString dst.x ++ ", " ++
      toString dst.y ++ ")" }

/-- What the compositor's path is reported as. -/
def Wiring.event (w : Wiring) : Event :=
  { level := .trace, part := "g2d::mlc"
    message := "mlc paths " ++ bracketed (w.path.toList.map fun p => Text.hex .upper 8 p.toNat) }

/-- What the engine does in **one run** that composes or fills. -/
structure Frame where
  commandId : UInt32
  operation : Operation
  isStrip : Bool
  read : Allocation
  write : Allocation
  pipes : List Pipe
  sources : List Source
  wiring : Wiring
  target : Target
  deriving DecidableEq

namespace Frame

/-- The source that a pipe fetches, if there is one. -/
def sourceOf? (f : Frame) (p : Pipe) : Option Source :=
  f.sources.find? fun s => s.layer.pipe.toNat == p.index

/-- The writes for the read pipes, in order. -/
def pipeWrites (f : Frame) : List RegisterWrite :=
  f.pipes.flatMap fun p =>
    match f.sourceOf? p with
    | some s => p.writes s
    | none => p.offWrites

/-- The **program of a frame**. -/
def pass (f : Frame) : Pass :=
  { commandId := f.commandId
    writes := headerWrites f.commandId f.operation f.isStrip ++ f.read.readWrites ++
      f.write.writeWrites ++ f.pipeWrites ++ f.wiring.writes ++ f.target.writes }

/-- What is reported while the program of a frame is put together. -/
def events (f : Frame) : List Event :=
  f.read.event :: f.pipes.filterMap (fun p => (f.sourceOf? p).map p.event) ++ [f.wiring.event]

end Frame

end Blitter
