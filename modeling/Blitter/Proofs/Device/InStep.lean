import Blitter.Proofs.Device.History
import Blitter.Proofs.Engine.InStep

/-!
# Devices in step

Two devices that were bound alike, with engines in step, stay `Device.InStep` whatever requests are
brought to both: the requests end the same way on both, and the same writes reach both engines
(`Device.InStep.live`). What the devices reported and counted so far does not come into it, nor
what is left in command memory, nor which interrupts had arrived: a device forgets these before it
starts its engine.
-/

namespace Blitter

/-- A reset keeps engines in step. -/
theorem Engine.InStep.readied {log log' : List RegisterWrite} {e k : Engine}
    (h : Engine.InStep log log' e k) : Engine.InStep log log' e.readied k.readied where
  registers := by rw [readied_eq, readied_eq, h.version]
  version := by rw [version_readied, version_readied, h.version]
  hangs := by rw [hangs_readied, hangs_readied, h.hangs]
  fault := by rw [fault_readied, fault_readied, h.fault]
  log := by
    rw [log_readied, log_readied]
    exact h.log_append _

namespace Device

/-- The devices are bound alike, the same interrupts are to come to both, and their engines are **in
step**. -/
structure InStep (log log' : List RegisterWrite) (d k : Device) : Prop where
  compiler : d.compiler = k.compiler
  mode : d.mode = k.mode
  pool : d.pool = k.pool
  timeout : d.timeout = k.timeout
  due : d.line.clear = k.line.clear
  engine : Engine.InStep log log' d.engine k.engine

namespace InStep

variable {log log' : List RegisterWrite} {d k : Device} {passes : List Pass} {pass : Pass}

section Step

variable (h : InStep log log' d k)
include h

theorem report (events events' : List Event) :
    InStep log log' (d.report events) (k.report events') :=
  ⟨h.compiler, h.mode, h.pool, h.timeout, h.due, h.engine⟩

theorem clearLine : InStep log log' d.clearLine k.clearLine ∧ d.clearLine.line = k.clearLine.line :=
  ⟨⟨h.compiler, h.mode, h.pool, h.timeout, congrArg InterruptLine.clear h.due, h.engine⟩, h.due⟩

variable (hline : d.line = k.line)
include hline

/-- An access on which the engines **raise the same** keeps devices in step. -/
theorem access {a : Access}
    (hengine : Engine.InStep log log' (d.engine.access a).1 (k.engine.access a).1)
    (hraised : (d.engine.access a).2 = (k.engine.access a).2) :
    InStep log log' (d.access a) (k.access a) ∧ (d.access a).line = (k.access a).line := by
  have hlines : (d.access a).line = (k.access a).line := by
    simp only [Device.access, hraised, hline]
  exact ⟨⟨h.compiler, h.mode, h.pool, h.timeout, congrArg InterruptLine.clear hlines, hengine⟩,
    hlines⟩

theorem acknowledge (awaited : UInt32) (seen : List UInt32) :
    InStep log log' (d.acknowledge awaited seen) (k.acknowledge awaited seen) := by
  induction seen generalizing d k with
  | nil => exact h
  | cons status seen ih =>
    have hengine := h.engine.write_status status
    have hraised : (d.engine.write (put Register.interruptStatus status)).2 =
        (k.engine.write (put Register.interruptStatus status)).2 := by
      rw [Engine.write_status, Engine.write_status]
    rw [← Engine.access_set, ← Engine.access_set] at hengine hraised
    obtain ⟨haccess, hlines⟩ := h.access hline hengine hraised
    simp only [Device.acknowledge]
    split
    · exact ih haccess hlines
    · exact ih (haccess.report _ _) hlines

/-- A wait **ends the same way** on both. -/
theorem await (awaited : UInt32) :
    InStep log log' (d.await awaited).1 (k.await awaited).1 ∧
      (d.await awaited).2 = (k.await awaited).2 := by
  obtain ⟨waited, hd⟩ :
      ∃ waited, d.line.await awaited (d.line.now + d.timeout.toNat) = waited := ⟨_, rfl⟩
  have hk : k.line.await awaited (k.line.now + k.timeout.toNat) = waited := by
    rw [← hline, ← h.timeout, hd]
  have hstart : InStep log log' { d with line := waited.line } { k with line := waited.line } :=
    ⟨h.compiler, h.mode, h.pool, h.timeout, rfl, h.engine⟩
  have hacknowledged := hstart.acknowledge rfl awaited waited.seen
  simp only [Device.await, hd, hk]
  cases waited.ending with
  | done => exact ⟨hacknowledged, rfl⟩
  | fault status => exact ⟨hacknowledged, rfl⟩
  | timeout => exact ⟨hacknowledged, by rw [hacknowledged.timeout]⟩

end Step

/-! ### Programs -/

section Programs

variable (h : InStep log log' d k)
include h

theorem runPass (hpass : pass.IsPlain) :
    InStep log log' (d.runPass pass).1 (k.runPass pass).1 ∧
      (d.runPass pass).2 = (k.runPass pass).2 := by
  obtain ⟨hcleared, hlines⟩ := h.clearLine
  have hwrites : InStep log log' { d.clearLine with engine := d.engine.replayAll pass.writes }
      { k.clearLine with engine := k.engine.replayAll pass.writes } :=
    { hcleared with engine := h.engine.replayAll pass.writes }
  obtain ⟨hengine, hraised⟩ := hwrites.engine.write_startDirect
  obtain ⟨hstarted, hlines⟩ := hwrites.access (a := startDirect) hlines hengine hraised
  have hawaited := hstarted.await hlines Status.frameDone
  rw [Device.runPass, Device.runPass, accessAll_clearLine _ hpass, accessAll_clearLine _ hpass]
  exact hawaited

theorem runDirect (hplain : ∀ pass ∈ passes, pass.IsPlain) :
    InStep log log' (d.runDirect passes).1 (k.runDirect passes).1 ∧
      (d.runDirect passes).2 = (k.runDirect passes).2 := by
  induction passes generalizing d k with
  | nil => exact ⟨h, rfl⟩
  | cons pass passes ih =>
    obtain ⟨hpass, hpasses⟩ := List.forall_mem_cons.mp hplain
    obtain ⟨hstep, houtcome⟩ := h.runPass hpass
    rcases hd : d.runPass pass with ⟨d', e | ⟨⟨⟩⟩⟩
    all_goals
      rcases hk : k.runPass pass with ⟨k', e' | ⟨⟨⟩⟩⟩
      all_goals
        rw [hd, hk] at hstep houtcome
        cases houtcome
    · rw [runDirect_cons_of_error hd, runDirect_cons_of_error hk]
      exact ⟨hstep, rfl⟩
    · rw [runDirect_cons_of_ok hd, runDirect_cons_of_ok hk]
      exact ih hstep hpasses

theorem runChained (hpool : d.pool.Ready) (hplain : ∀ pass ∈ passes, pass.IsPlain)
    (hne : passes ≠ []) :
    InStep log log' (d.runChained passes).1 (k.runChained passes).1 ∧
      (d.runChained passes).2 = (k.runChained passes).2 := by
  rcases hload : d.pool.load passes with ⟨pool, e | ⟨⟨⟩⟩⟩
  · have hload' := h.pool ▸ hload
    rw [runChained_of_load_eq_error hload, runChained_of_load_eq_error hload']
    have hloaded : InStep log log' { d with pool } { k with pool } := { h with pool := rfl }
    exact ⟨hloaded.report _ _, rfl⟩
  · have hpool' := h.pool ▸ hpool
    have hload' := h.pool ▸ hload
    obtain ⟨first, rest, hchain⟩ := exists_isChain_of_load hpool hload hplain hne
    obtain ⟨hengine, hraised⟩ := h.engine.write_startChain hchain
    obtain ⟨hcleared, hlines⟩ := h.clearLine
    have huploaded : InStep log log' (d.withChain first rest) (k.withChain first rest) :=
      { hcleared with engine := h.engine.based first rest }
    rw [← engine_withChain, ← engine_withChain] at hengine hraised
    obtain ⟨hstarted, hlines⟩ := huploaded.access
      (a := .set Register.control Engine.startChain) hlines hengine hraised
    rw [runChained_eq hpool hload hchain.linked, runChained_eq hpool' hload' hchain.linked]
    exact (hstarted.report _ _).await hlines Status.chainDone

/-- What is tried for an order **ends the same way** on both. -/
theorem attempt (hpool : d.pool.Ready) (o : Order) :
    InStep log log' (d.attempt o).1 (k.attempt o).1 ∧ (d.attempt o).2 = (k.attempt o).2 := by
  have htaken : InStep log log' (d.taken o) (k.taken o) :=
    ⟨h.compiler, h.mode, h.pool, h.timeout, rfl, h.engine⟩
  cases hcompile : d.compiler.compile o.job with
  | error e =>
    rw [attempt_of_compile_eq_error hcompile, attempt_of_compile_eq_error (h.compiler ▸ hcompile)]
    exact ⟨htaken, rfl⟩
  | ok p =>
    rw [attempt_of_compile hcompile, attempt_of_compile (h.compiler ▸ hcompile)]
    have hplain := Compiler.isPlain_of_compile hcompile
    have hne := (Compiler.produces_of_compile hcompile).passes_ne_nil
    have haccepted : InStep log log' ((d.taken o).accepted p) ((k.taken o).accepted p) :=
      ⟨h.compiler, h.mode, h.pool, h.timeout, rfl, h.engine⟩
    cases hmode : d.mode with
    | direct =>
      rw [submit_of_direct (d := d.taken o) hmode,
        submit_of_direct (d := k.taken o) (h.mode ▸ hmode)]
      exact haccepted.runDirect hplain
    | chained =>
      rw [submit_of_chained (d := d.taken o) hmode,
        submit_of_chained (d := k.taken o) (h.mode ▸ hmode)]
      exact haccepted.runChained hpool hplain hne

theorem recover : InStep log log' d.recover k.recover := by
  rw [recover_eq, recover_eq]
  exact ⟨h.compiler, h.mode, congrArg BufferPool.emptied h.pool, h.timeout,
    congrArg InterruptLine.clear h.due, h.engine.readied⟩

/-- So does a request, and **both engines are left in step**. -/
theorem serve (hpool : d.pool.Ready) (o : Order) :
    InStep log log' (d.serve o).1 (k.serve o).1 ∧ (d.serve o).2 = (k.serve o).2 := by
  obtain ⟨hstep, hend⟩ := h.attempt hpool o
  rcases hd : d.attempt o with ⟨tried, result⟩
  rcases hk : k.attempt o with ⟨tried', result'⟩
  rw [hd, hk] at hstep hend
  obtain rfl : result = result' := hend
  rcases result with (why | _) | ⟨⟨⟩⟩
  · obtain ⟨_, events, -, rfl, hserve⟩ := exists_serve_of_rejected hd
    obtain ⟨_, events', -, rfl, hserve'⟩ := exists_serve_of_rejected hk
    have hclean := (hstep.report events events').recover
    rw [hserve, hserve']
    exact ⟨⟨hclean.compiler, hclean.mode, hclean.pool, hclean.timeout, rfl, hclean.engine⟩, rfl⟩
  · rw [serve_of_overflow hd, serve_of_overflow hk]
    exact ⟨h, rfl⟩
  · rw [serve_of_ok hd, serve_of_ok hk]
    exact ⟨⟨hstep.compiler, hstep.mode, hstep.pool, hstep.timeout, rfl, hstep.engine⟩, rfl⟩

/-- **Whatever devices in step go through**, they stay in step, and the requests among it end the
same way on both. -/
theorem live (hpool : d.pool.Ready) (turns : List Turn) :
    InStep log log' (d.live turns).1 (k.live turns).1 ∧
      (d.live turns).2 = (k.live turns).2 := by
  induction turns generalizing d k with
  | nil => exact ⟨h, rfl⟩
  | cons turn turns ih =>
    cases turn with
    | request o =>
      obtain ⟨hserve, hend⟩ := h.serve hpool o
      have hready : (d.serve o).1.pool.Ready := (kept_serve hpool o).pool ▸ hpool
      obtain ⟨hstep, hends⟩ := ih hserve hready
      rw [live_request, live_request]
      exact ⟨hstep, congrArg₂ List.cons hend hends⟩
    | interrupt status =>
      have hinterrupted : InStep log log' (d.interrupt status) (k.interrupt status) :=
        ⟨h.compiler, h.mode, h.pool, h.timeout, h.due, h.engine⟩
      rw [live_interrupt, live_interrupt]
      exact ih hinterrupted hpool

end Programs

end InStep

end Device

end Blitter
