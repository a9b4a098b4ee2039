import Blitter.Bus
import Blitter.CommandBuffer
import Blitter.Compiler

/-!
# Bringing a program to the engine

Either every pass is written to the registers and started on its own, or the passes are laid down
in command buffers, one each, which are chained, uploaded and started once. What is done to the
engine is given as a list of accesses, in order.
-/

namespace Blitter

/-- How programs are brought to the engine. -/
inductive WriteMode where
  /-- Register by register. -/
  | direct
  /-- By chained command buffers. -/
  | chained
  deriving DecidableEq, Repr

namespace WriteMode

/-- The mode as messages show it. -/
def text : WriteMode → String
  | direct => "CpuWrite"
  | chained => "CmdWrite"

/-- The name of the mode in a configuration. -/
def name : WriteMode → String
  | direct => "cpu"
  | chained => "cmd"

/-- Both modes. -/
def all : List WriteMode := [direct, chained]

theorem mem_all (m : WriteMode) : m ∈ all := by cases m <;> decide

end WriteMode

/-- The accesses that write a pass to the registers. -/
def Pass.accesses (p : Pass) : List Access := p.writes.map Access.write

/-- The access that starts the engine on what is in its registers. -/
def startDirect : Access := .set Register.control Register.controlStart

namespace BufferPool

/-- Lays down each of the given passes in a buffer of its own, from buffer `id` on. What was laid
down before a pass that does not fit stays. -/
def loadFrom (p : BufferPool) : (id : Nat) → List Pass → BufferPool × Outcome Unit
  | _, [] => (p, .ok ())
  | id, pass :: passes =>
    match p.append id pass.writes with
    | .ok p => p.loadFrom (id + 1) passes
    | .error e => (p, .error e)

/-- **Lays down** the passes of a program, one in each buffer. Nothing is laid down if they are
more than the buffers. -/
def load (p : BufferPool) (passes : List Pass) : BufferPool × Outcome Unit :=
  if p.count < passes.length then (p, reject (.tooManyPasses passes.length p.count))
  else p.loadFrom 0 passes

/-- What the refusal of a program is reported as. -/
def loadEvents : Rejection → List Event
  | .tooManyPasses passes buffers =>
    [{ level := .error, part := "g2d::emit"
       message := toString passes ++ " passes do not fit " ++ toString buffers ++
        " command buffers" }]
  | why => appendEvents why

/-- The accesses that upload a chain's buffers and start the engine on it. -/
def startAccesses (linked : BufferPool) (head : ChainHead) : List Access :=
  linked.usedBuffers.map (fun b => Access.upload b.address b.words) ++
    [ .set Register.chainBaseLow (lowWord head.address),
      .set Register.chainBaseHigh (highWord head.address),
      .set Register.chainLength (UInt32.ofNat head.entries),
      .set Register.control (Register.controlChain ||| Register.controlStart) ]

/-- **Chains** what was laid down: the accesses that start the engine on it, or a refusal if
nothing was. The pool is empty afterwards either way. -/
def launch (p : BufferPool) : BufferPool × Outcome (ChainHead × List Access) :=
  match p.chain with
  | some (linked, head) => (p.emptied, .ok (head, linked.startAccesses head))
  | none => (p.emptied, rejectGeometry .emptyChain)

/-- What the start of a chain is reported as. -/
def launchEvent (head : ChainHead) : Event :=
  { level := .debug, part := "g2d::emit"
    message := "kicked command chain of " ++ toString head.buffers ++ " buffers" }

end BufferPool

end Blitter
