import Blitter.Bus

/-!
# An engine behind a memory window

An engine whose registers and command memory are mapped into the address space of the driver. A
register access outside the window and an upload that does not fit into command memory have no
effect.
-/

namespace Blitter

/-- The **mapped memory** of an engine. -/
structure Window where
  registers : RegisterFile
  /-- Command memory, word by word. -/
  commands : Array UInt32
  /-- The address at which the engine sees command memory. -/
  base : UInt64
  deriving DecidableEq

namespace Window

/-- A window onto an engine with `words` words of command memory, all at zero. -/
def create (words : Nat) (base : UInt64) : Window :=
  { registers := .zero, commands := Array.replicate words 0, base }

/-- The word of command memory that an address lies in. An address before the base counts as one
far behind it. -/
def slot (w : Window) (address : UInt64) : Nat := (address - w.base).toNat / 4

/-- Sets words of command memory one after the other from a slot on. -/
def place (commands : Array UInt32) (start : Nat) : List UInt32 → Array UInt32
  | [] => commands
  | word :: words => place (commands.setIfInBounds start word) (start + 1) words

/-- Puts words at an address of command memory, all of them or none. -/
def upload (w : Window) (address : UInt64) (words : List UInt32) : Window :=
  let start := w.slot address
  if w.commands.size < start + words.length then w
  else { w with commands := place w.commands start words }

/-- Carries out one access. -/
def access (w : Window) : Access → Window
  | .write r => { w with registers := w.registers.set r.offset r.value }
  | .upload address words => w.upload address words

/-- The register at an offset. -/
def get (w : Window) (offset : UInt32) : UInt32 := w.registers.get offset

end Window

end Blitter
