import Blitter.Bus
import Blitter.Generation
import Blitter.Interrupt
import Blitter.Text.Hex

/-!
# A simulated engine

A register file that carries out starts. A start runs the pass that lies in the registers, or
replays the chain of command buffers whose first address and length are in the registers; then
the engine sets its interrupt status and raises an interrupt, if its mask lets any bit through.
The simulation keeps a log of every write that reached the registers, direct or replayed.
-/

namespace Blitter

/-- A **simulated engine**. -/
structure Engine where
  registers : RegisterFile
  /-- The content of the version register after a reset. -/
  version : UInt32
  /-- The writes that reached the registers, the last one first. -/
  journal : List RegisterWrite
  /-- Command buffers by address, the last upload to an address first. -/
  memory : List (UInt64 × List UInt32)
  starts : Nat
  /-- Passes carried out. -/
  frames : Nat
  resets : Nat
  /-- No interrupt is ever raised. -/
  hangs : Bool
  /-- Status bits reported with every start. -/
  fault : Option UInt32
  deriving DecidableEq

namespace Engine

/-- An engine of the given generation, fresh from power-up. -/
def create (g : Generation) (hangs : Bool) (fault : Option UInt32) : Engine :=
  { registers := RegisterFile.zero.write Register.version g.versionWord
    version := g.versionWord, journal := [], memory := [], starts := 0, frames := 0, resets := 0
    hangs, fault }

/-- The register at an offset. -/
def get (e : Engine) (offset : UInt32) : UInt32 := e.registers.get offset

/-- The register at a fixed offset of the map. -/
def read (e : Engine) (register : Nat) : UInt32 := e.registers.read register

/-- Sets a register without a trace in the log. -/
def store (e : Engine) (register : Nat) (value : UInt32) : Engine :=
  { e with registers := e.registers.write register value }

/-- The writes that reached the registers, in order. -/
def log (e : Engine) : List RegisterWrite := e.journal.reverse

/-- The engine with an empty log. -/
def clearLog (e : Engine) : Engine := { e with journal := [] }

/-- All registers to zero, except the version. -/
def reset (e : Engine) : Engine :=
  { e with
    registers := RegisterFile.zero.write Register.version e.version
    resets := e.resets + 1 }

/-- The words uploaded to an address. -/
def buffer? (e : Engine) (address : UInt64) : Option (List UInt32) := e.memory.lookup address

/-- The number of addresses that hold a command buffer. -/
def bufferCount (e : Engine) : Nat := e.memory.length

/-- Puts a command buffer at an address, in place of the one there. -/
def upload (e : Engine) (address : UInt64) (words : List UInt32) : Engine :=
  { e with memory := (address, words) :: e.memory.filter fun m => m.1 != address }

/-- Words taken in pairs; an odd one at the end is dropped. -/
def pairs : List UInt32 → List RegisterWrite
  | offset :: value :: ws => ⟨offset, value⟩ :: pairs ws
  | _ => []

/-- Makes a write that comes from a command buffer. -/
def replayWrite (e : Engine) (w : RegisterWrite) : Engine :=
  { e with journal := w :: e.journal, registers := e.registers.set w.offset w.value }

/-- Replays command buffers one after the other from the one at `address`, of which it takes the
first `entries` pairs, until the end of the chain is marked. At most `fuel` buffers are replayed,
and `done` counts those before. The result is the number of buffers replayed, or nothing if the
chain leads to an address without a buffer or does not end. -/
def replayFrom (e : Engine) (address : UInt64) (entries : Nat) (done : Nat) :
    (fuel : Nat) → Engine × Option Nat
  | 0 => (e, none)
  | fuel + 1 =>
    match e.buffer? address with
    | none => (e, none)
    | some words =>
      let e := ((pairs words).take entries).foldl replayWrite e
      if e.read Register.chainEnd ≠ 0 then (e, some (done + 1))
      else
        e.replayFrom (joinWords (e.read Register.chainNextHigh) (e.read Register.chainNextLow))
          (e.read Register.chainNextLength).toNat (done + 1) fuel

/-- Replays the chain whose start is in the registers. Every buffer is replayed once at most. -/
def replayChain (e : Engine) : Engine × Option Nat :=
  let address := joinWords (e.read Register.chainBaseHigh) (e.read Register.chainBaseLow)
  let entries := (e.read Register.chainLength).toNat
  (e.store Register.chainEnd 0).replayFrom address entries 0 e.bufferCount

/-- Runs what is in the registers, or replays the chain they name. The result is the engine and
the status bits of the run. -/
def run (e : Engine) (control : UInt32) : Engine × UInt32 :=
  if control &&& Register.controlChain ≠ 0 then
    match e.replayChain with
    | (e, some buffers) =>
      ({ e with frames := e.frames + buffers }, Status.frameDone ||| Status.chainDone)
    | (e, none) => (e, Status.chainError)
  else ({ e with frames := e.frames + 1 }, Status.frameDone)

/-- **Starts** the engine. The result is the engine after the run and the interrupt it raises, if
it raises one. -/
def start (e : Engine) (control : UInt32) : Engine × Option UInt32 :=
  let (e, bits) := run { e with starts := e.starts + 1 } control
  let status := bits ||| e.fault.getD 0 ||| e.read Register.interruptStatus
  let e := e.store Register.interruptStatus status
  let raised := status &&& e.read Register.interruptMask
  (e, if e.hangs || raised == 0 then none else some raised)

/-- Makes a **register write**. A write to the control register may reset or start the engine, one
to the interrupt status clears the bits that are set in it, and one to the version is lost. The
result is the engine and the interrupt raised, if one is. -/
def write (e : Engine) (w : RegisterWrite) : Engine × Option UInt32 :=
  let e := { e with journal := w :: e.journal }
  let offset := w.offset.toNat
  if offset = Register.control ∧ w.value &&& Register.controlReset ≠ 0 then (e.reset, none)
  else if offset = Register.control ∧ w.value &&& Register.controlStart ≠ 0 then
    (e.store Register.control (w.value &&& ~~~Register.controlStart)).start w.value
  else if offset = Register.interruptStatus then
    (e.store Register.interruptStatus (e.read Register.interruptStatus &&& ~~~w.value), none)
  else if offset = Register.version then (e, none)
  else ({ e with registers := e.registers.set w.offset w.value }, none)

/-- Carries out one access. -/
def access (e : Engine) : Access → Engine × Option UInt32
  | .write w => e.write w
  | .upload address words => (e.upload address words, none)

/-- What a start is reported as. -/
def startEvent (e : Engine) : Event :=
  { level := .trace, part := "g2d::hw"
    message := "sim: kick " ++ toString e.starts ++ " status 0x" ++
      Text.hex .upper 1 (e.read Register.interruptStatus).toNat }

/-- What an access is reported as, given the engine before and after it. -/
def accessEvents (before after : Engine) : List Event :=
  if before.starts < after.starts then [after.startEvent] else []

end Engine

end Blitter
