import Blitter.Proofs.Engine.Start

/-!
# Engines in step

Two engines that hold the same and are told the same stay in step, no matter what is in their
command memories and what they have counted so far: the same writes reach both, and both raise the
same interrupts (`Engine.InStep`). A chain is no exception, since its start says where it is and a
replay follows nothing but what was uploaded for it (`InStep.write_startChain`).
-/

namespace Blitter

open CommandBuffer BufferPool

namespace Engine

/-- The engines hold the same, and **the same writes have reached both** since their logs were
`log` and `log'`. -/
structure InStep (log log' : List RegisterWrite) (e k : Engine) : Prop where
  registers : e.registers = k.registers
  version : e.version = k.version
  hangs : e.hangs = k.hangs
  fault : e.fault = k.fault
  log : ∃ new, e.log = log ++ new ∧ k.log = log' ++ new

namespace InStep

variable {log log' : List RegisterWrite} {e k : Engine} (h : InStep log log' e k)
include h

theorem read_eq (register : Nat) : e.read register = k.read register := by
  rw [Engine.read, h.registers, Engine.read]

/-- The same writes are logged by both. -/
theorem log_append (ws : List RegisterWrite) :
    ∃ new, e.log ++ ws = log ++ new ∧ k.log ++ ws = log' ++ new := by
  obtain ⟨new, he, hk⟩ := h.log
  exact ⟨new ++ ws, by rw [he, List.append_assoc], by rw [hk, List.append_assoc]⟩

theorem journal (w : RegisterWrite) :
    InStep log log' { e with journal := w :: e.journal } { k with journal := w :: k.journal } where
  registers := h.registers
  version := h.version
  hangs := h.hangs
  fault := h.fault
  log := by
    rw [log_cons, log_cons]
    exact h.log_append [w]

theorem store (register : Nat) (value : UInt32) :
    InStep log log' (e.store register value) (k.store register value) where
  registers := congrArg (RegisterFile.write · register value) h.registers
  version := h.version
  hangs := h.hangs
  fault := h.fault
  log := h.log

theorem replayAll (ws : List RegisterWrite) :
    InStep log log' (e.replayAll ws) (k.replayAll ws) := by
  have hlogs := h.log_append ws
  rw [← log_replayAll, ← log_replayAll] at hlogs
  rw [replayAll_eq, replayAll_eq] at *
  exact ⟨congrArg (RegisterFile.apply · ws) h.registers, h.version, h.hangs, h.fault, hlogs⟩

/-- What is uploaded does not show. -/
theorem uploadAll (bs : List CommandBuffer) :
    InStep log log' (e.uploadAll bs) (k.uploadAll bs) := by
  obtain ⟨memory, hmemory⟩ := e.uploadAll_eq bs
  obtain ⟨memory', hmemory'⟩ := k.uploadAll_eq bs
  rw [hmemory, hmemory']
  exact ⟨h.registers, h.version, h.hangs, h.fault, h.log⟩

theorem based (first : CommandBuffer) (rest : List CommandBuffer) :
    InStep log log' (e.based first rest) (k.based first rest) :=
  (h.uploadAll (first :: rest)).replayAll (baseWrites first.address first.entries)

theorem started (value : UInt32) : InStep log log' (e.started value) (k.started value) :=
  let stored := (h.journal (put Register.control value)).store Register.control
    (value &&& ~~~Register.controlStart)
  ⟨stored.registers, stored.version, stored.hangs, stored.fault, stored.log⟩

/-- Engines in step **raise the same interrupt**. -/
theorem reporting (bits : UInt32) :
    InStep log log' (e.reporting bits).1 (k.reporting bits).1 ∧
      (e.reporting bits).2 = (k.reporting bits).2 := by
  obtain ⟨status, hstatus⟩ :
      ∃ status, status = bits ||| e.fault.getD 0 ||| e.read Register.interruptStatus := ⟨_, rfl⟩
  have hstatus' : bits ||| k.fault.getD 0 ||| k.read Register.interruptStatus = status := by
    rw [hstatus, h.fault, h.read_eq]
  have hstored := h.store Register.interruptStatus status
  simp only [Engine.reporting, ← hstatus, hstatus']
  refine ⟨hstored, ?_⟩
  rw [hstored.read_eq, hstored.hangs]

/-- A start on the registers keeps engines in step. -/
theorem write_startDirect :
    InStep log log' (e.write (put Register.control Register.controlStart)).1
        (k.write (put Register.control Register.controlStart)).1 ∧
      (e.write (put Register.control Register.controlStart)).2 =
        (k.write (put Register.control Register.controlStart)).2 := by
  have hstarted := h.started Register.controlStart
  rw [Engine.write_startDirect, Engine.write_startDirect]
  refine reporting ?_ Status.frameDone
  exact ⟨hstarted.registers, hstarted.version, hstarted.hangs, hstarted.fault, hstarted.log⟩

/-- So does a start on **a chain that was uploaded to both**. -/
theorem write_startChain {bs rest : List CommandBuffer} {first : CommandBuffer}
    {wss : List (List RegisterWrite)} (hchain : IsChain wss bs first rest) :
    InStep log log' ((e.based first rest).write (put Register.control startChain)).1
        ((k.based first rest).write (put Register.control startChain)).1 ∧
      ((e.based first rest).write (put Register.control startChain)).2 =
        ((k.based first rest).write (put Register.control startChain)).2 := by
  have hreplayed := (((h.based first rest).started startChain).store Register.chainEnd
    0).replayAll (replayed (link bs))
  have hchained : InStep log log' (((e.based first rest).started startChain).afterChain bs)
      (((k.based first rest).started startChain).afterChain bs) :=
    ⟨hreplayed.registers, hreplayed.version, hreplayed.hangs, hreplayed.fault, hreplayed.log⟩
  have hreported := hchained.reporting (Status.frameDone ||| Status.chainDone)
  have hlinked := hchain.toIsLinked
  rwa [← Engine.write_startChain hlinked, ← Engine.write_startChain hlinked] at hreported

/-- An acknowledgement clears **the same bits**. -/
theorem write_status (bits : UInt32) :
    InStep log log' (e.write (put Register.interruptStatus bits)).1
      (k.write (put Register.interruptStatus bits)).1 := by
  have hlogged := h.journal (put Register.interruptStatus bits)
  rw [Engine.write_status, Engine.write_status, h.read_eq]
  exact hlogged.store Register.interruptStatus (k.read Register.interruptStatus &&& ~~~bits)

end InStep

end Engine

end Blitter
