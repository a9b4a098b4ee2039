import Blitter.Engine
import Blitter.Proofs.Register.SameState

/-!
# What an engine does with a program

An engine that neither hangs nor faults is `Quiet` between two runs: it lets every interrupt
through and has none to report. `Engine.Ran` says what a program has done to it by the time that
it is quiet again: its registers are in the state in which the program's writes leave them, and
its log has those writes at the end. Runs follow one another (`Ran.trans`), and writes that are
the same up to the read channels keep engines `Alike` (`Ran.alike`).
-/

namespace Blitter

namespace Engine

variable {e e' e'' : Engine} {ws vs : List RegisterWrite}

/-! ### Writes that only set registers -/

/-- Makes writes one after the other, as they come from a command buffer. -/
def replayAll (e : Engine) (ws : List RegisterWrite) : Engine := ws.foldl replayWrite e

theorem replayAll_eq (e : Engine) (ws : List RegisterWrite) :
    e.replayAll ws =
      { e with registers := e.registers.apply ws, journal := ws.reverse ++ e.journal } := by
  induction ws generalizing e with
  | nil => rfl
  | cons w ws ih =>
    have hcons : e.replayAll (w :: ws) = (e.replayWrite w).replayAll ws := rfl
    rw [hcons, ih, List.reverse_cons, List.append_assoc]
    rfl

theorem replayAll_append (e : Engine) (ws vs : List RegisterWrite) :
    e.replayAll (ws ++ vs) = (e.replayAll ws).replayAll vs := List.foldl_append

theorem log_replayAll (e : Engine) (ws : List RegisterWrite) :
    (e.replayAll ws).log = e.log ++ ws := by
  rw [log, replayAll_eq, List.reverse_append, List.reverse_reverse]
  rfl

/-- A logged write is the last one in the log. -/
theorem log_cons (e : Engine) (w : RegisterWrite) :
    Engine.log { e with journal := w :: e.journal } = e.log ++ [w] := List.reverse_cons

/-- Above the registers of the interface a write **sets a register** and does nothing else. -/
theorem write_eq_replayWrite (e : Engine) {w : RegisterWrite}
    (hw : Register.commandId ≤ w.offset.toNat) : e.write w = (e.replayWrite w, none) := by
  have hcommand : Register.commandId = 0x10 := rfl
  have hcontrol : w.offset.toNat ≠ Register.control := by
    unfold Register.control
    omega
  have hstatus : w.offset.toNat ≠ Register.interruptStatus := by
    unfold Register.interruptStatus
    omega
  have hversion : w.offset.toNat ≠ Register.version := by
    unfold Register.version
    omega
  simp only [write, hcontrol, hstatus, hversion, false_and, if_false]
  rfl

theorem access_set (e : Engine) (register : Nat) (value : UInt32) :
    e.access (.set register value) = e.write (put register value) := rfl

/-! ### Quiet engines -/

/-- The engine neither hangs nor faults, lets every interrupt through and has **nothing to
report**. -/
structure Quiet (e : Engine) : Prop where
  hangs : e.hangs = false
  fault : e.fault = none
  mask : e.read Register.interruptMask = Status.known
  status : e.read Register.interruptStatus = 0

/-- Replayed writes above the registers of the interface keep an engine quiet. -/
theorem Quiet.replayAll (h : e.Quiet) (hws : ∀ w ∈ ws, Register.commandId ≤ w.offset.toNat) :
    (e.replayAll ws).Quiet := by
  have hslots : ∀ o : UInt32, o.toNat < Register.commandId →
      RegisterFile.slot o ∉ RegisterFile.slots ws := by
    intro o ho hmem
    obtain ⟨w, hw, heq⟩ := List.mem_map.mp hmem
    have hle := hws w hw
    unfold Register.commandId at ho hle
    unfold RegisterFile.slot at heq
    omega
  have hget : ∀ o : UInt32, o.toNat < Register.commandId →
      (e.replayAll ws).registers.get o = e.registers.get o := by
    intro o ho
    rw [replayAll_eq]
    exact RegisterFile.get_apply_of_notMem _ (hslots o ho)
  have hmask := hget (UInt32.ofNat Register.interruptMask) (by decide)
  have hstatus := hget (UInt32.ofNat Register.interruptStatus) (by decide)
  rw [replayAll_eq] at *
  exact
    { hangs := h.hangs
      fault := h.fault
      mask := hmask.trans h.mask
      status := hstatus.trans h.status }

/-- Stores outside the interrupt registers keep an engine quiet. -/
theorem Quiet.store (h : e.Quiet) {register : Nat}
    (hmask : RegisterFile.slot (UInt32.ofNat register) ≠
      RegisterFile.slot (UInt32.ofNat Register.interruptMask))
    (hstatus : RegisterFile.slot (UInt32.ofNat register) ≠
      RegisterFile.slot (UInt32.ofNat Register.interruptStatus)) (value : UInt32) :
    (e.store register value).Quiet where
  hangs := h.hangs
  fault := h.fault
  mask := (RegisterFile.get_set_of_slot_ne _ _ hmask).trans h.mask
  status := (RegisterFile.get_set_of_slot_ne _ _ hstatus).trans h.status

/-- The end of a start: the engine joins the bits of its run to its status, and **raises an
interrupt** if it may. -/
def reporting (e : Engine) (bits : UInt32) : Engine × Option UInt32 :=
  let status := bits ||| e.fault.getD 0 ||| e.read Register.interruptStatus
  let e := e.store Register.interruptStatus status
  let raised := status &&& e.read Register.interruptMask
  (e, if e.hangs || raised == 0 then none else some raised)

/-- A quiet engine **raises exactly the bits of its run**. -/
theorem reporting_of_quiet (h : e.Quiet) {bits : UInt32} (hknown : bits &&& Status.known = bits)
    (hbits : bits ≠ 0) :
    e.reporting bits = (e.store Register.interruptStatus bits, some bits) := by
  have hmask : (e.store Register.interruptStatus bits).read Register.interruptMask =
      Status.known := by
    have hslot : RegisterFile.slot (UInt32.ofNat Register.interruptStatus) ≠
        RegisterFile.slot (UInt32.ofNat Register.interruptMask) := by decide
    exact (RegisterFile.get_set_of_slot_ne _ _ hslot).trans h.mask
  have hhangs : (e.store Register.interruptStatus bits).hangs = false := h.hangs
  have hzero : (bits == 0) = false := beq_eq_false_iff_ne.mpr hbits
  have hpending : bits ||| e.fault.getD 0 ||| e.read Register.interruptStatus = bits := by
    rw [h.fault, h.status, Option.getD_none, UInt32.or_zero, UInt32.or_zero]
  simp only [reporting, hpending, hmask, hknown, hhangs, hzero, Bool.or_false, Bool.false_eq_true,
    if_false]

/-- An acknowledgement clears bits and **raises no interrupt**. -/
theorem write_status (e : Engine) (bits : UInt32) :
    e.write (put Register.interruptStatus bits) =
      ({ e with journal := put Register.interruptStatus bits :: e.journal }.store
        Register.interruptStatus (e.read Register.interruptStatus &&& ~~~bits), none) := rfl

/-- What an engine is after it reported bits and they were acknowledged. -/
def acknowledged (e : Engine) (bits : UInt32) : Engine :=
  ((e.store Register.interruptStatus bits).write (put Register.interruptStatus bits)).1

/-- Once it is acknowledged, **nothing is left of a report**. -/
theorem get_acknowledged (h : e.Quiet) (bits : UInt32) (o : UInt32) :
    (e.acknowledged bits).registers.get o = e.registers.get o := by
  have hcleared : (e.acknowledged bits).registers =
      (e.registers.write Register.interruptStatus bits).write Register.interruptStatus
        ((e.registers.write Register.interruptStatus bits).read Register.interruptStatus &&&
          ~~~bits) := rfl
  have hread : (e.registers.write Register.interruptStatus bits).read Register.interruptStatus =
      bits := RegisterFile.get_set_self _ _ (by decide)
  rw [hcleared, hread, UInt32.and_not_self]
  by_cases hslot : RegisterFile.slot (UInt32.ofNat Register.interruptStatus) = RegisterFile.slot o
  · have hstatus : e.registers.get o = 0 := by
      rw [← h.status]
      unfold Engine.read RegisterFile.read RegisterFile.get
      rw [hslot]
    have hlt : RegisterFile.slot o < registerCount := by
      rw [← hslot]
      decide
    rw [hstatus, RegisterFile.write, RegisterFile.get_set, if_pos ⟨hslot, hlt⟩]
  · rw [RegisterFile.write, RegisterFile.get_set_of_slot_ne _ _ hslot, RegisterFile.write,
      RegisterFile.get_set_of_slot_ne _ _ hslot]

theorem Quiet.acknowledged (h : e.Quiet) (bits : UInt32) : (e.acknowledged bits).Quiet where
  hangs := h.hangs
  fault := h.fault
  mask := (get_acknowledged h bits (UInt32.ofNat Register.interruptMask)).trans h.mask
  status := (get_acknowledged h bits (UInt32.ofNat Register.interruptStatus)).trans h.status

/-! ### Runs -/

/-- What **a program that writes `ws`** has done to an engine by the time that it is quiet
again. -/
structure Ran (e e' : Engine) (ws : List RegisterWrite) : Prop where
  quiet : e'.Quiet
  registers : e'.registers.SameState (e.registers.apply ws)
  log : programmed e'.log = programmed e.log ++ ws.map RegisterWrite.masked

/-- The engines are in **the same state**, and programs have reached them with the same writes in
the same order, as far as neither tells how the programs were written. -/
structure Alike (e k : Engine) : Prop where
  registers : e.registers.SameState k.registers
  log : programmed e.log = programmed k.log

namespace Ran

theorem refl (h : e.Quiet) : e.Ran e [] where
  quiet := h
  registers := .refl _
  log := (List.append_nil _).symm

/-- Replaying writes **runs those among them that are a program's**. Those to the command chain
count for nothing. -/
theorem of_replayAll_filter (h : e.Quiet)
    (hws : ∀ w ∈ ws, Register.InProgram w.offset ∨ Register.InChain w.offset) :
    e.Ran (e.replayAll ws) (ws.filter fun w => Register.InProgram w.offset) where
  quiet := by
    refine h.replayAll fun w hw => ?_
    rcases hws w hw with hprogram | hchain
    · exact hprogram.1
    · exact Nat.le_trans (by decide) hchain.1
  registers := by
    rw [replayAll_eq]
    refine .apply_filter _ fun w hw hout hfree => ?_
    have hprogram : ¬ Register.InProgram w.offset := of_decide_eq_false hout
    exact hfree.2.1 ((hws w hw).resolve_left hprogram)
  log := by
    rw [log_replayAll, programmed_append]
    rfl

/-- Replaying a program's writes runs them. -/
theorem of_replayAll (h : e.Quiet) (hws : ∀ w ∈ ws, Register.InProgram w.offset) :
    e.Ran (e.replayAll ws) ws := by
  have hran := of_replayAll_filter h fun w hw => .inl (hws w hw)
  rwa [List.filter_eq_self.mpr fun w hw => decide_eq_true (hws w hw)] at hran

/-- Writes to the command chain count for nothing. -/
theorem of_replayAll_chain (h : e.Quiet) (hws : ∀ w ∈ ws, Register.InChain w.offset) :
    e.Ran (e.replayAll ws) [] := by
  have hran := of_replayAll_filter h fun w hw => .inr (hws w hw)
  have hnone : ∀ w ∈ ws, ¬ decide (Register.InProgram w.offset) = true :=
    fun w hw hprogram => (of_decide_eq_true hprogram).2 (hws w hw)
  rwa [List.filter_eq_nil_iff.mpr hnone] at hran

theorem trans (h : e.Ran e' ws) (h' : e'.Ran e'' vs) : e.Ran e'' (ws ++ vs) where
  quiet := h'.quiet
  registers := by
    rw [RegisterFile.apply_append]
    exact h'.registers.trans (h.registers.apply_same vs)
  log := by
    rw [h'.log, h.log, List.map_append, List.append_assoc]

/-- Writes that are the same up to the read channels **keep engines alike**. -/
theorem alike {k k' : Engine} (h : e.Ran e' ws) (h' : k.Ran k' vs)
    (hws : ws.map RegisterWrite.masked = vs.map RegisterWrite.masked) (halike : e.Alike k) :
    e'.Alike k' where
  registers := h.registers.trans ((halike.registers.apply hws).trans h'.registers.symm)
  log := by
    rw [h.log, h'.log, halike.log, hws]

end Ran

end Engine

end Blitter
