import Blitter.RegisterFile

/-!
# The bus to an engine

All that a driver does to an engine: it writes registers, and it puts words into the memory from
which the engine replays commands.
-/

namespace Blitter

/-- One **access** to an engine. -/
inductive Access where
  | write (w : RegisterWrite)
  /-- Puts words at an address of command memory. -/
  | upload (address : UInt64) (words : List UInt32)
  deriving DecidableEq, Repr

/-- The write of a fixed register. -/
def Access.set (register : Nat) (value : UInt32) : Access := .write (put register value)

end Blitter
