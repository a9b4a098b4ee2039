import Blitter.Proofs.Engine.Start

/-!
# What an engine was made to do

Whether or not an engine hangs, and whatever it reports, it does what it is told: `Engine.Worked`
counts its starts and the passes that it carried out, and says which writes of programs reached its
registers.
-/

namespace Blitter

open CommandBuffer BufferPool

/-- The writes of a log that **stem from programs**, as they were made. -/
def programWrites (log : List RegisterWrite) : List RegisterWrite :=
  log.filter fun w => Register.InProgram w.offset

theorem programWrites_append (log log' : List RegisterWrite) :
    programWrites (log ++ log') = programWrites log ++ programWrites log' := List.filter_append ..

/-- A write of a register of the interface does not stem from a program. -/
theorem programWrites_put {r : Nat} {value : UInt32}
    (h : ¬ Register.InProgram (UInt32.ofNat r)) : programWrites [put r value] = [] :=
  List.filter_cons_of_neg (by rw [put, decide_eq_true_eq]; exact h)

namespace Engine

variable {e e' e'' k : Engine}

/-- The engine was started so often and **carried out so many passes**, and these are the writes of
programs that reached its registers meanwhile. It was not reset. -/
structure Worked (e e' : Engine) (starts frames : Nat) (ws : List RegisterWrite) : Prop where
  version : e'.version = e.version
  hangs : e'.hangs = e.hangs
  fault : e'.fault = e.fault
  resets : e'.resets = e.resets
  starts : e'.starts = e.starts + starts
  frames : e'.frames = e.frames + frames
  log : programWrites e'.log = programWrites e.log ++ ws

namespace Worked

variable {starts frames starts' frames' : Nat} {ws vs : List RegisterWrite}

theorem refl (e : Engine) : e.Worked e 0 0 [] :=
  ⟨rfl, rfl, rfl, rfl, rfl, rfl, (List.append_nil _).symm⟩

theorem trans (h : e.Worked e' starts frames ws) (h' : e'.Worked e'' starts' frames' vs) :
    e.Worked e'' (starts + starts') (frames + frames') (ws ++ vs) where
  version := h'.version.trans h.version
  hangs := h'.hangs.trans h.hangs
  fault := h'.fault.trans h.fault
  resets := h'.resets.trans h.resets
  starts := by rw [h'.starts, h.starts, Nat.add_assoc]
  frames := by rw [h'.frames, h.frames, Nat.add_assoc]
  log := by rw [h'.log, h.log, List.append_assoc]

theorem of_replayAll (e : Engine) (ws : List RegisterWrite) :
    e.Worked (e.replayAll ws) 0 0 (programWrites ws) := by
  have hlog := e.log_replayAll ws
  rw [replayAll_eq] at *
  exact ⟨rfl, rfl, rfl, rfl, rfl, rfl, by rw [hlog, programWrites_append]⟩

theorem of_uploadAll (e : Engine) (bs : List CommandBuffer) : e.Worked (e.uploadAll bs) 0 0 [] := by
  obtain ⟨memory, hmemory⟩ := e.uploadAll_eq bs
  rw [hmemory]
  exact ⟨rfl, rfl, rfl, rfl, rfl, rfl, (List.append_nil _).symm⟩

theorem of_started (e : Engine) (value : UInt32) : e.Worked (e.started value) 1 0 [] where
  version := rfl
  hangs := rfl
  fault := rfl
  resets := rfl
  starts := rfl
  frames := rfl
  log := by
    rw [log_started, programWrites_append, programWrites_put (by decide)]

theorem of_reporting (e : Engine) (bits : UInt32) : e.Worked (e.reporting bits).1 0 0 [] :=
  ⟨rfl, rfl, rfl, rfl, rfl, rfl, (List.append_nil _).symm⟩

/-- A start on the registers carries out **one pass**. -/
theorem of_write_startDirect (e : Engine) :
    e.Worked (e.write (put Register.control Register.controlStart)).1 1 1 [] := by
  have hstarted := of_started e Register.controlStart
  rw [write_startDirect]
  exact { hstarted with frames := rfl }

/-- An acknowledgement starts nothing. -/
theorem of_write_status (e : Engine) (bits : UInt32) :
    e.Worked (e.write (put Register.interruptStatus bits)).1 0 0 [] where
  version := rfl
  hangs := rfl
  fault := rfl
  resets := rfl
  starts := rfl
  frames := rfl
  log := by
    have hlog : (e.write (put Register.interruptStatus bits)).1.log =
        e.log ++ [put Register.interruptStatus bits] :=
      e.log_cons (put Register.interruptStatus bits)
    rw [hlog, programWrites_append, programWrites_put (by decide)]

/-- What tells the engine where a chain is does not stem from a program. -/
theorem of_based (e : Engine) (first : CommandBuffer) (rest : List CommandBuffer) :
    e.Worked (e.based first rest) 0 0 [] := by
  have hbased := (of_uploadAll e (first :: rest)).trans
    (of_replayAll _ (baseWrites first.address first.entries))
  have hnone : programWrites (baseWrites first.address first.entries) = [] :=
    List.filter_eq_nil_iff.mpr fun w hw hin =>
      (of_decide_eq_true hin).2 (inChain_baseWrites first.address first.entries w hw)
  rwa [hnone] at hbased

section Chain

variable {bs rest : List CommandBuffer} {first : CommandBuffer} {wss : List (List RegisterWrite)}
  (h : IsChain wss bs first rest)
include h

theorem of_afterChain (e : Engine) : e.Worked (e.afterChain bs) 0 bs.length wss.flatten := by
  have hreplayed := of_replayAll (e.store Register.chainEnd 0) (replayed (link bs))
  rw [programWrites, filter_replayed_link h.laid h.program] at hreplayed
  exact { hreplayed with frames := rfl }

/-- A start on a chain carries out **every pass in it**. -/
theorem of_write_startChain (e : Engine) :
    e.Worked ((e.based first rest).write (put Register.control startChain)).1
        1 bs.length wss.flatten := by
  have hran := ((of_based e first rest).trans (of_started _ startChain)).trans
    (of_afterChain h _)
  have hreported := hran.trans (of_reporting _ (Status.frameDone ||| Status.chainDone))
  rw [write_startChain h.toIsLinked]
  simpa only [Nat.add_zero, Nat.zero_add, List.append_nil, List.nil_append] using hreported

end Chain

end Worked

end Engine

end Blitter
