import Blitter.Proofs.Emitter
import Blitter.Proofs.Engine.Astray

/-!
# Launching what was loaded

A program is loaded into empty buffers and launched on an engine of which nothing is known: what its
registers hold, what is left in command memory of earlier chains, whether it hangs or faults. The
passes may write any registers but those of the chain, those of the interface among them. A pass
that writes nothing has no buffer in the chain. All others are replayed once, in order, each
followed by its trailer and nothing else (`Trailed`), and the engine says that it did, **if the
length of every buffer fits the word that tells it**, and for every engine only then
(`replays_iff_counted_of_launch`).
-/

namespace Blitter

open CommandBuffer BufferPool

namespace Trailed

variable {wss : List (List RegisterWrite)} {log : List RegisterWrite}

end Trailed

namespace Engine

variable {e : Engine}

/-! ### Accesses -/

/-- Carries out several accesses, in order. -/
def accessAll (e : Engine) (as : List Access) : Engine := as.foldl (fun e a => (e.access a).1) e

theorem accessAll_append (e : Engine) (as bs : List Access) :
    e.accessAll (as ++ bs) = (e.accessAll as).accessAll bs := List.foldl_append

theorem accessAll_uploads (e : Engine) (bs : List CommandBuffer) :
    e.accessAll (bs.map fun b => Access.upload b.address b.words) = e.uploadAll bs := List.foldl_map

theorem accessAll_writes (e : Engine) {ws : List RegisterWrite}
    (hws : ∀ w ∈ ws, Register.commandId ≤ w.offset.toNat) :
    e.accessAll (ws.map Access.write) = e.replayAll ws := by
  induction ws generalizing e with
  | nil => rfl
  | cons w ws ih =>
    obtain ⟨hw, hws⟩ := List.forall_mem_cons.mp hws
    have hcons : e.accessAll ((w :: ws).map Access.write) =
        (e.write w).1.accessAll (ws.map Access.write) := rfl
    rw [hcons, e.write_eq_replayWrite hw, ih _ hws]
    rfl

/-- The accesses of a launch put **the chain into memory**, and the last of them starts the
engine. -/
theorem accessAll_launch (e : Engine) (first : CommandBuffer) (rest : List CommandBuffer) :
    e.accessAll ((first :: rest).map (fun b => Access.upload b.address b.words) ++
        [ Access.set Register.chainBaseLow (lowWord first.address),
          .set Register.chainBaseHigh (highWord first.address),
          .set Register.chainLength (UInt32.ofNat first.entries),
          .set Register.control (Register.controlChain ||| Register.controlStart) ]) =
      ((e.based first rest).write (put Register.control startChain)).1 := by
  have hbase : ∀ w ∈ baseWrites first.address first.entries,
      Register.commandId ≤ w.offset.toNat := fun w hw =>
    Nat.le_trans (by decide) (inChain_baseWrites first.address first.entries w hw).1
  have hsplit : [ Access.set Register.chainBaseLow (lowWord first.address),
      .set Register.chainBaseHigh (highWord first.address),
      .set Register.chainLength (UInt32.ofNat first.entries),
      .set Register.control (Register.controlChain ||| Register.controlStart) ] =
        (baseWrites first.address first.entries).map Access.write ++
          [.write (put Register.control startChain)] := rfl
  rw [hsplit, accessAll_append, accessAll_uploads, accessAll_append, accessAll_writes _ hbase]
  rfl

/-! ### Replays -/

section Start

variable {wss : List (List RegisterWrite)} {bs rest : List CommandBuffer} {first : CommandBuffer}

end Start

end Engine

namespace BufferPool

variable {p q : BufferPool} {count capacity : Nat} {base : UInt64} {passes : List Pass}

/-- The length of a buffer is written to a register. It **can be counted** there if its pairs are
fewer than a word can tell. -/
def Counted (p : BufferPool) : Prop := ∀ b ∈ link p.usedBuffers, b.entries < 2 ^ 32

/-- Buffers of less than two to the power of thirty-three words can be counted. -/
theorem Packed.counted (h : p.Packed count capacity base) (hcapacity : capacity < 2 ^ 33) :
    p.Counted := by
  intro b hb
  rw [usedBuffers, ← filter_used_link] at hb
  obtain ⟨hb, hused⟩ := List.mem_filter.mp hb
  have hlength := h.length_le_of_mem_link hb hused
  unfold entries
  omega

end BufferPool

end Blitter
