import Blitter.Proofs.Compiler.WellFormed
import Blitter.Proofs.Device.Requests
import Blitter.Proofs.Device.Worked

/-!
# Devices in use

Requests are brought to a device one after the other, and interrupts arrive between them
(`Device.live`). What can come of a request on whatever engine is said once, by `Device.Attempted`:
it does not compile, or cannot be laid down, and the engine is not touched; or its program is run,
to its end or up to a wait that fails. No history of requests changes what the device was bound to
(`Device.kept_live`).
-/

namespace Blitter

namespace Device

variable {d d' : Device} {o : Order}

/-! ### Cleaning up -/

/-- A reset raises no interrupt and starts nothing. -/
theorem reset_eq (d : Device) :
    d.reset = { d with engine := d.engine.readied, pool := d.pool.emptied } := by
  have hreset : d.access (.set Register.control Register.controlReset) =
      { d with engine := (d.engine.write (put Register.control Register.controlReset)).1 } := by
    refine access_eq ?_ ?_
    · rw [Engine.access_set, Engine.write_controlReset]
    · simp only [Engine.write_controlReset, Engine.starts_reset]
  have hmask : ∀ k : Device, k.access (.set Register.interruptMask Status.known) =
      { k with engine := (k.engine.write (put Register.interruptMask Status.known)).1 } := by
    intro k
    refine access_eq ?_ ?_
    · rw [Engine.access_set, Engine.write_interruptMask]
    · rw [Engine.write_interruptMask]
  have hall : d.accessAll [.set Register.control Register.controlReset,
      .set Register.interruptMask Status.known] =
        (d.access (.set Register.control Register.controlReset)).access
          (.set Register.interruptMask Status.known) := rfl
  rw [reset, hall, hmask, hreset]
  rfl

theorem recover_eq (d : Device) :
    d.recover =
      { d with engine := d.engine.readied, pool := d.pool.emptied, line := d.line.clear } := by
  rw [recover, reset_eq]
  rfl

/-! ### One request -/

/-- What is tried for an order, **before anything is cleaned up**. -/
def attempt (d : Device) (o : Order) : Device × Outcome Unit :=
  match d.compiler.compile o.job with
  | .ok p => (d.taken o).submit p
  | .error e => (d.taken o, .error e)

theorem attempt_of_compile {p : Program} (h : d.compiler.compile o.job = .ok p) :
    d.attempt o = (d.taken o).submit p := by
  rw [attempt, h]

theorem attempt_of_compile_eq_error {e : Failure} (h : d.compiler.compile o.job = .error e) :
    d.attempt o = (d.taken o, .error e) := by
  rw [attempt, h]

/-- The device **when a request returns**. Interrupts may be still to come. -/
def request (d : Device) (o : Order) : Device × Outcome Unit :=
  Replay.perform o.job { d with line := .start d.line.pending o.arrivals }

/-- The engine is not touched, and **what is laid down goes** when the pool is emptied. -/
structure Untouched (d d' : Device) : Prop where
  compiler : d'.compiler = d.compiler
  mode : d'.mode = d.mode
  pool : d'.pool.emptied = d.pool
  timeout : d'.timeout = d.timeout
  engine : d'.engine = d.engine

/-- **What can come of an attempt.** -/
inductive Attempted (d : Device) (o : Order) (tried : Device) : Outcome Unit → Prop
  | notCompiled {e : Failure} (hcompile : d.compiler.compile o.job = .error e)
      (huntouched : d.Untouched tried) : Attempted d o tried (.error e)
  | notLaid {p : Program} {e : Failure} (hcompile : d.compiler.compile o.job = .ok p)
      (hmode : d.mode = .chained) (hload : (d.pool.load p.passes).2 = .error e)
      (huntouched : d.Untouched tried) : Attempted d o tried (.error e)
  | direct {p : Program} (hcompile : d.compiler.compile o.job = .ok p) (hmode : d.mode = .direct)
      (hworked : d.Worked tried p.passes.length p.passes.length
        (p.passes.flatMap Pass.writes)) : Attempted d o tried (.ok ())
  | chained {p : Program} (hcompile : d.compiler.compile o.job = .ok p)
      (hmode : d.mode = .chained) (hload : (d.pool.load p.passes).2 = .ok ())
      (hworked : d.Worked tried 1 p.passes.length (p.passes.flatMap Pass.writes)) :
      Attempted d o tried (.ok ())
  | directFailed {p : Program} {k : Nat} {why : Rejection}
      (hcompile : d.compiler.compile o.job = .ok p) (hmode : d.mode = .direct)
      (hwait : WaitFails d.timeout why)
      (hfails : ((d.taken o).accepted p).FailsAt p.passes k why)
      (hworked : d.Worked tried (k + 1) (k + 1)
        ((p.passes.take (k + 1)).flatMap Pass.writes)) :
      Attempted d o tried (.error (.rejected why))
  | chainFailed {p : Program} {why : Rejection} (hcompile : d.compiler.compile o.job = .ok p)
      (hmode : d.mode = .chained) (hload : (d.pool.load p.passes).2 = .ok ())
      (hwait : WaitFails d.timeout why)
      (hworked : d.Worked tried 1 p.passes.length (p.passes.flatMap Pass.writes)) :
      Attempted d o tried (.error (.rejected why))

/-- What a device did that had only reported something before it did itself. -/
theorem Worked.of_taken {p : Program} {starts frames : Nat} {ws : List RegisterWrite}
    (h : ((d.taken o).accepted p).Worked d' starts frames ws) : d.Worked d' starts frames ws :=
  ⟨h.compiler, h.mode, h.pool, h.timeout, h.engine⟩

section Submit

variable {p : Program} (hcompile : d.compiler.compile o.job = .ok p)
include hcompile

theorem attempted_of_direct (hmode : d.mode = .direct) :
    d.Attempted o ((d.taken o).submit p).1 ((d.taken o).submit p).2 := by
  have hplain := Compiler.isPlain_of_compile hcompile
  rw [submit_of_direct (d := d.taken o) hmode]
  rcases hrun : ((d.taken o).accepted p).runDirect p.passes with ⟨tried, e | ⟨⟨⟩⟩⟩
  · obtain ⟨k, why, rfl, hwait, hfails, hworked⟩ := exists_failsAt hplain hrun
    exact .directFailed hcompile hmode hwait hfails hworked.of_taken
  · exact .direct hcompile hmode (worked_of_runDirect hplain hrun).of_taken

theorem attempted_of_chained (hpool : d.pool.Ready) (hmode : d.mode = .chained) :
    d.Attempted o ((d.taken o).submit p).1 ((d.taken o).submit p).2 := by
  have hplain := Compiler.isPlain_of_compile hcompile
  have hne := (Compiler.produces_of_compile hcompile).passes_ne_nil
  rw [submit_of_chained (d := d.taken o) hmode]
  rcases hload : d.pool.load p.passes with ⟨pool, e | ⟨⟨⟩⟩⟩
  · have hemptied := hpool.emptied_load p.passes
    rw [hload] at hemptied
    rw [runChained_of_load_eq_error (d := (d.taken o).accepted p) hload]
    exact .notLaid hcompile hmode (congrArg Prod.snd hload) ⟨rfl, rfl, hemptied, rfl, rfl⟩
  · have hworked := worked_runChained (d := (d.taken o).accepted p) hplain hpool hload hne
    rcases hrun : ((d.taken o).accepted p).runChained p.passes with ⟨tried, e | ⟨⟨⟩⟩⟩
    · obtain ⟨why, rfl, hwait⟩ := waitFails_of_runChained (d := (d.taken o).accepted p) hplain
        hpool hload hne (congrArg Prod.snd hrun)
      rw [hrun] at hworked
      exact .chainFailed hcompile hmode (congrArg Prod.snd hload) hwait hworked.of_taken
    · rw [hrun] at hworked
      exact .chained hcompile hmode (congrArg Prod.snd hload) hworked.of_taken

end Submit

/-- **Nothing else** can come of an attempt. -/
theorem attempted (hpool : d.pool.Ready) (o : Order) :
    d.Attempted o (d.attempt o).1 (d.attempt o).2 := by
  cases hcompile : d.compiler.compile o.job with
  | error e =>
    rw [attempt_of_compile_eq_error hcompile]
    exact .notCompiled hcompile ⟨rfl, rfl, hpool.emptied_eq, rfl, rfl⟩
  | ok p =>
    rw [attempt_of_compile hcompile]
    cases hmode : d.mode with
    | direct => exact attempted_of_direct hcompile hmode
    | chained => exact attempted_of_chained hcompile hpool hmode

/-- A request is an attempt that is **cleaned up after if it is turned down**. -/
theorem exists_request_eq (d : Device) (o : Order) :
    ∃ what, d.request o =
      match (d.attempt o).2 with
      | .error (.rejected why) =>
        (((d.attempt o).1.report [failedEvent what why]).recover, (d.attempt o).2)
      | _ => ((d.attempt o).1, (d.attempt o).2) :=
  exists_perform_eq { d with line := .start d.line.pending o.arrivals } o.job

/-- It returns what the attempt did. -/
theorem snd_request (d : Device) (o : Order) : (d.request o).2 = (d.attempt o).2 := by
  obtain ⟨_, hrequest⟩ := exists_request_eq d o
  rw [hrequest]
  rcases d.attempt o with ⟨tried, (why | _) | ⟨⟨⟩⟩⟩
  · rfl
  · rfl
  · rfl

section Serve

variable {tried : Device}

theorem serve_of_ok (h : d.attempt o = (tried, .ok ())) :
    d.serve o = ({ tried with line := .start tried.line.finish [] }, .ok ()) := by
  obtain ⟨_, hrequest⟩ := exists_request_eq d o
  rw [h, request] at hrequest
  rw [serve, step, hrequest]

theorem serve_of_overflow (h : d.attempt o = (tried, .error .overflow)) :
    d.serve o = (d, .error .overflow) := by
  obtain ⟨_, hrequest⟩ := exists_request_eq d o
  rw [h, request] at hrequest
  rw [serve, step, hrequest]

/-- A request that is turned down is cleaned up after, **before late interrupts arrive**. -/
theorem exists_serve_of_rejected {why : Rejection}
    (h : d.attempt o = (tried, .error (.rejected why))) :
    ∃ after events, d.request o = (after, .error (.rejected why)) ∧
      after = (tried.report events).recover ∧
      d.serve o =
        ({ after with line := .start after.line.finish [] }, .error (.rejected why)) := by
  obtain ⟨what, hrequest⟩ := exists_request_eq d o
  rw [h] at hrequest
  refine ⟨_, [failedEvent what why], hrequest, rfl, ?_⟩
  rw [request] at hrequest
  rw [serve, step, hrequest]

end Serve

/-- The step that a request is part of returns that, too. -/
theorem snd_serve (d : Device) (o : Order) : (d.serve o).2 = (d.attempt o).2 := by
  rcases hattempt : d.attempt o with ⟨tried, (why | _) | ⟨⟨⟩⟩⟩
  · obtain ⟨after, events, -, -, hserve⟩ := exists_serve_of_rejected hattempt
    rw [hserve]
  · rw [serve_of_overflow hattempt]
  · rw [serve_of_ok hattempt]

theorem exists_attempt_of_serve {result : Outcome Unit} (h : d.serve o = (d', result)) :
    ∃ tried, d.attempt o = (tried, result) := by
  refine ⟨(d.attempt o).1, Prod.ext rfl ?_⟩
  rw [← snd_serve, h]

/-! ### What stays -/

/-- What a device **was bound to**, and how its engine was built, stays. -/
structure Kept (d d' : Device) : Prop where
  compiler : d'.compiler = d.compiler
  mode : d'.mode = d.mode
  pool : d'.pool = d.pool
  timeout : d'.timeout = d.timeout
  version : d'.engine.version = d.engine.version
  hangs : d'.engine.hangs = d.engine.hangs
  fault : d'.engine.fault = d.engine.fault

namespace Kept

variable {d'' : Device}

theorem refl (d : Device) : d.Kept d := ⟨rfl, rfl, rfl, rfl, rfl, rfl, rfl⟩

theorem trans (h : d.Kept d') (h' : d'.Kept d'') : d.Kept d'' where
  compiler := h'.compiler.trans h.compiler
  mode := h'.mode.trans h.mode
  pool := h'.pool.trans h.pool
  timeout := h'.timeout.trans h.timeout
  version := h'.version.trans h.version
  hangs := h'.hangs.trans h.hangs
  fault := h'.fault.trans h.fault

/-- Recovery keeps it, after whatever was reported. -/
theorem recover {tried : Device} (h : d.Kept { tried with pool := tried.pool.emptied })
    (events : List Event) : d.Kept (tried.report events).recover := by
  rw [recover_eq]
  exact ⟨h.compiler, h.mode, h.pool, h.timeout, (Engine.version_readied _).trans h.version,
    (Engine.hangs_readied _).trans h.hangs, (Engine.fault_readied _).trans h.fault⟩

end Kept

theorem Worked.kept {starts frames : Nat} {ws : List RegisterWrite}
    (h : d.Worked d' starts frames ws) : d.Kept d' :=
  ⟨h.compiler, h.mode, h.pool, h.timeout, h.engine.version, h.engine.hangs, h.engine.fault⟩

/-- Once the pool is emptied, an attempt has changed **nothing that stays**. -/
theorem Attempted.kept {tried : Device} {result : Outcome Unit}
    (h : d.Attempted o tried result) (hpool : d.pool.Ready) :
    d.Kept { tried with pool := tried.pool.emptied } := by
  have huntouched : d.Untouched tried → d.Kept { tried with pool := tried.pool.emptied } :=
    fun h => ⟨h.compiler, h.mode, h.pool, h.timeout, by rw [h.engine], by rw [h.engine],
      by rw [h.engine]⟩
  have hworked : ∀ {starts frames ws}, d.Worked tried starts frames ws →
      d.Kept { tried with pool := tried.pool.emptied } := by
    intro starts frames ws h
    have hkept := h.kept
    exact { hkept with pool := by rw [h.pool, hpool.emptied_eq] }
  cases h with
  | notCompiled _ h => exact huntouched h
  | notLaid _ _ _ h => exact huntouched h
  | direct _ _ h => exact hworked h
  | chained _ _ _ h => exact hworked h
  | directFailed _ _ _ _ h => exact hworked h
  | chainFailed _ _ _ _ h => exact hworked h

/-- So does a request. -/
theorem kept_serve (hpool : d.pool.Ready) (o : Order) : d.Kept (d.serve o).1 := by
  have hattempted := attempted hpool o
  have hkept := hattempted.kept hpool
  rcases hattempt : d.attempt o with ⟨tried, (why | _) | ⟨⟨⟩⟩⟩
  · obtain ⟨after, events, -, hafter, hserve⟩ := exists_serve_of_rejected hattempt
    rw [hattempt] at hkept
    have hrecovered := hkept.recover events
    rw [hserve, hafter]
    exact ⟨hrecovered.compiler, hrecovered.mode, hrecovered.pool, hrecovered.timeout,
      hrecovered.version, hrecovered.hangs, hrecovered.fault⟩
  · rw [serve_of_overflow hattempt]
    exact .refl d
  · rw [hattempt] at hattempted
    rw [serve_of_ok hattempt]
    cases hattempted with
    | direct _ _ h =>
      exact ⟨h.compiler, h.mode, h.pool, h.timeout, h.engine.version, h.engine.hangs,
        h.engine.fault⟩
    | chained _ _ _ h =>
      exact ⟨h.compiler, h.mode, h.pool, h.timeout, h.engine.version, h.engine.hangs,
        h.engine.fault⟩

/-! ### Many requests -/

/-- What a device **goes through**: a request, or an interrupt that arrives between two. -/
inductive Turn where
  | request (order : Order)
  | interrupt (status : UInt32)

/-- The device after some turns, and **how the requests among them ended**. -/
def live (d : Device) : List Turn → Device × List (Outcome Unit)
  | [] => (d, [])
  | .request o :: turns =>
    let (d, result) := d.serve o
    let (d, results) := d.live turns
    (d, result :: results)
  | .interrupt status :: turns => (d.interrupt status).live turns

@[simp] theorem live_request (d : Device) (o : Order) (turns : List Turn) :
    d.live (.request o :: turns) =
      (((d.serve o).1.live turns).1, (d.serve o).2 :: ((d.serve o).1.live turns).2) := rfl

@[simp] theorem live_interrupt (d : Device) (status : UInt32) (turns : List Turn) :
    d.live (.interrupt status :: turns) = (d.interrupt status).live turns := rfl

/-- **No history changes what a device was bound to.** -/
theorem kept_live (hpool : d.pool.Ready) (turns : List Turn) : d.Kept (d.live turns).1 := by
  induction turns generalizing d with
  | nil => exact .refl d
  | cons turn turns ih =>
    cases turn with
    | request o =>
      have hserve := kept_serve hpool o
      have hready : (d.serve o).1.pool.Ready := hserve.pool ▸ hpool
      rw [live_request]
      exact hserve.trans (ih hready)
    | interrupt status =>
      have hkept := ih (d := d.interrupt status) hpool
      rw [live_interrupt]
      exact ⟨hkept.compiler, hkept.mode, hkept.pool, hkept.timeout, hkept.version, hkept.hangs,
        hkept.fault⟩

/-- A copy of no lines, which does not compile, and an interrupt after it. -/
def troubledTurns : List Turn :=
  [ .request ⟨.copy { src := 0, width := 4, height := 0, srcStride := 0, dst := 0
                      dstStride := 0 }, []⟩,
    .interrupt Status.frameDone ]

/-- A mirrored layer of video, which takes several passes. The end of the first one is reported from
outside. -/
def watchedVideo : Order :=
  ⟨.compose (Compiler.wideVideo .hFlip ⟨0, 0, 512, 256⟩), [(1, Status.frameDone)]⟩

end Device

end Blitter
