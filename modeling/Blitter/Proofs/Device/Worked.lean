import Blitter.Proofs.Device
import Blitter.Proofs.Engine.Worked

/-!
# What a device makes its engine do

A program may fail on an engine that hangs or reports errors. Register by register it is run pass
after pass until one fails (`Device.FailsAt`); the engine was then started once for every pass up to
that one, and no write of a later pass has reached it (`Device.exists_failsAt`). A chain of command
buffers is started once, and all of its passes reach the engine however the wait for it ends
(`Device.worked_runChained`).
-/

namespace Blitter

/-- Why a wait of so many milliseconds **fails**. -/
def WaitFails (timeout : UInt64) (why : Rejection) : Prop :=
  why = .timeout timeout ∨ ∃ status, why = .engineFault status

namespace Device

variable {d d' d'' : Device} {starts frames starts' frames' : Nat} {ws vs : List RegisterWrite}
  {passes : List Pass} {pass : Pass}

/-- The engine of the device **has worked**, and the device is otherwise as it was. -/
structure Worked (d d' : Device) (starts frames : Nat) (ws : List RegisterWrite) : Prop where
  compiler : d'.compiler = d.compiler
  mode : d'.mode = d.mode
  pool : d'.pool = d.pool
  timeout : d'.timeout = d.timeout
  engine : d.engine.Worked d'.engine starts frames ws

theorem Worked.refl (d : Device) : d.Worked d 0 0 [] := ⟨rfl, rfl, rfl, rfl, .refl d.engine⟩

theorem Worked.trans (h : d.Worked d' starts frames ws) (h' : d'.Worked d'' starts' frames' vs) :
    d.Worked d'' (starts + starts') (frames + frames') (ws ++ vs) where
  compiler := h'.compiler.trans h.compiler
  mode := h'.mode.trans h.mode
  pool := h'.pool.trans h.pool
  timeout := h'.timeout.trans h.timeout
  engine := h.engine.trans h'.engine

/-- An access, and what is reported after it, changes nothing but what the engine, the line and the
events are. -/
theorem Worked.of_access {k : Device} {a : Access} (hcompiler : k.compiler = d.compiler)
    (hmode : k.mode = d.mode) (hpool : k.pool = d.pool) (htimeout : k.timeout = d.timeout)
    (hengine : d.engine.Worked (k.engine.access a).1 starts frames ws) (events : List Event) :
    d.Worked ((k.access a).report events) starts frames ws :=
  ⟨hcompiler, hmode, hpool, htimeout, hengine⟩

theorem timeout_access (d : Device) (a : Access) : (d.access a).timeout = d.timeout := rfl

theorem timeout_report (d : Device) (events : List Event) : (d.report events).timeout = d.timeout :=
  rfl

/-! ### Waiting -/

theorem worked_acknowledge (d : Device) (awaited : UInt32) (seen : List UInt32) :
    d.Worked (d.acknowledge awaited seen) 0 0 [] := by
  induction seen generalizing d with
  | nil => exact .refl d
  | cons status seen ih =>
    have haccess : ∀ events, d.Worked
        ((d.access (.set Register.interruptStatus status)).report events) 0 0 [] :=
      .of_access rfl rfl rfl rfl (.of_write_status d.engine status)
    simp only [acknowledge]
    split
    · have hquietly := haccess []
      rw [report_nil] at hquietly
      exact hquietly.trans (ih _)
    · exact (haccess [passedOverEvent awaited status]).trans (ih _)

/-- Waiting makes the engine **do nothing**. -/
theorem worked_await (d : Device) (awaited : UInt32) : d.Worked (d.await awaited).1 0 0 [] := by
  obtain ⟨waited, hwaited⟩ :
      ∃ waited, d.line.await awaited (d.line.now + d.timeout.toNat) = waited := ⟨_, rfl⟩
  have hacknowledged := worked_acknowledge { d with line := waited.line } awaited waited.seen
  have hkept : d.Worked (({ d with line := waited.line }).acknowledge awaited waited.seen) 0 0 [] :=
    ⟨hacknowledged.compiler, hacknowledged.mode, hacknowledged.pool, hacknowledged.timeout,
      hacknowledged.engine⟩
  simp only [await, hwaited]
  split <;> exact hkept

/-- A wait fails **at its deadline or on an error**, and in no other way. -/
theorem waitFails_of_await {awaited : UInt32} {e : Failure}
    (h : (d.await awaited).2 = .error e) : ∃ why, e = .rejected why ∧ WaitFails d.timeout why := by
  obtain ⟨waited, hwaited⟩ :
      ∃ waited, d.line.await awaited (d.line.now + d.timeout.toNat) = waited := ⟨_, rfl⟩
  have htimeout := (worked_acknowledge { d with line := waited.line } awaited waited.seen).timeout
  simp only [await, hwaited] at h
  split at h
  case h_1 => cases h
  case h_2 status _ =>
    cases h
    exact ⟨_, rfl, .inr ⟨status, rfl⟩⟩
  case h_3 =>
    cases h
    exact ⟨_, rfl, .inl (congrArg Rejection.timeout htimeout)⟩

/-! ### Register by register -/

/-- Runs one pass, register by register. -/
def runPass (d : Device) (pass : Pass) : Device × Outcome Unit :=
  ((d.clearLine.accessAll pass.accesses).access startDirect).await Status.frameDone

theorem runDirect_cons_of_ok (h : d.runPass pass = (d', .ok ())) (passes : List Pass) :
    d.runDirect (pass :: passes) = d'.runDirect passes := by
  unfold runPass at h
  simp only [runDirect, h]

theorem runDirect_cons_of_error {e : Failure} (h : d.runPass pass = (d', .error e))
    (passes : List Pass) : d.runDirect (pass :: passes) = (d', .error e) := by
  unfold runPass at h
  simp only [runDirect, h]

/-- One pass **starts the engine once**, whether or not the wait for it ends well. -/
theorem worked_runPass (d : Device) (hpass : pass.IsPlain) :
    d.Worked (d.runPass pass).1 1 1 pass.writes := by
  have hwritten := accessAll_clearLine d hpass
  have hwrites := Engine.Worked.of_replayAll d.engine pass.writes
  rw [programWrites, List.filter_eq_self.mpr fun w hw => decide_eq_true (hpass.program w hw)]
    at hwrites
  have hstarted : d.Worked ((d.clearLine.accessAll pass.accesses).access startDirect) 1 1
      pass.writes := by
    have hengine := hwrites.trans (.of_write_startDirect _)
    rw [Nat.zero_add, List.append_nil] at hengine
    have haccess := Worked.of_access (d := d) (a := startDirect)
      (k := { d.clearLine with engine := d.engine.replayAll pass.writes }) rfl rfl rfl rfl hengine
      []
    rwa [report_nil, ← hwritten] at haccess
  have hawaited := hstarted.trans (worked_await _ Status.frameDone)
  rwa [List.append_nil] at hawaited

/-- The first `k` passes are run to their ends, and **the one after them fails**. -/
def FailsAt (d : Device) (passes : List Pass) (k : Nat) (why : Rejection) : Prop :=
  ∃ d' pass, d.runDirect (passes.take k) = (d', .ok ()) ∧ passes[k]? = some pass ∧
    (d'.runPass pass).2 = .error (.rejected why)

variable (hplain : ∀ pass ∈ passes, pass.IsPlain)
include hplain

/-- A program that was run to its end started the engine **once for every pass**. -/
theorem worked_of_runDirect (h : d.runDirect passes = (d', .ok ())) :
    d.Worked d' passes.length passes.length (passes.flatMap Pass.writes) := by
  induction passes generalizing d with
  | nil =>
    cases h
    exact .refl _
  | cons pass passes ih =>
    obtain ⟨hpass, hpasses⟩ := List.forall_mem_cons.mp hplain
    have hfirst := worked_runPass d hpass
    rcases hrun : d.runPass pass with ⟨d₁, e | ⟨⟨⟩⟩⟩
    · rw [runDirect_cons_of_error hrun] at h
      cases h
    · rw [runDirect_cons_of_ok hrun] at h
      rw [hrun] at hfirst
      have hall := hfirst.trans (ih hpasses h)
      rwa [Nat.add_comm] at hall

/-- A program that failed did so **at one of its passes**. The engine was started for that pass and
for those before it, and no write of a later one reached it. -/
theorem exists_failsAt {e : Failure} (h : d.runDirect passes = (d', .error e)) :
    ∃ k why, e = .rejected why ∧ WaitFails d.timeout why ∧ d.FailsAt passes k why ∧
      d.Worked d' (k + 1) (k + 1) ((passes.take (k + 1)).flatMap Pass.writes) := by
  -- the number of a later pass counts from the pass after the first
  induction passes generalizing d with
  | nil => cases h
  | cons pass passes ih =>
    obtain ⟨hpass, hpasses⟩ := List.forall_mem_cons.mp hplain
    have hfirst := worked_runPass d hpass
    rcases hrun : d.runPass pass with ⟨d₁, e₁ | ⟨⟨⟩⟩⟩
    · rw [runDirect_cons_of_error hrun] at h
      cases h
      rw [hrun] at hfirst
      have hend : ((d.clearLine.accessAll pass.accesses).access startDirect).timeout = d.timeout :=
        accessAll_clearLine d hpass ▸ rfl
      obtain ⟨why, rfl, hwhy⟩ := waitFails_of_await (congrArg Prod.snd hrun)
      rw [hend] at hwhy
      refine ⟨0, why, rfl, hwhy, ⟨d, pass, rfl, rfl, congrArg Prod.snd hrun⟩, ?_⟩
      rwa [List.take_succ_cons, List.take_zero, List.flatMap_singleton]
    · rw [runDirect_cons_of_ok hrun] at h
      rw [hrun] at hfirst
      obtain ⟨k, why, rfl, hwhy, ⟨d₂, failed, hbefore, hfailed, hfails⟩, hworked⟩ := ih hpasses h
      have hall := hfirst.trans hworked
      rw [hfirst.timeout] at hwhy
      refine ⟨k + 1, why, rfl, hwhy, ⟨d₂, failed, ?_, hfailed, hfails⟩, ?_⟩
      · rw [List.take_succ_cons, runDirect_cons_of_ok hrun, hbefore]
      · rwa [Nat.add_comm 1] at hall

/-! ### By command buffers -/

section Chained

variable {pool : BufferPool} (hpool : d.pool.Ready) (hload : d.pool.load passes = (pool, .ok ()))
  (hne : passes ≠ [])
include hpool hload hne

/-- A chain **starts the engine once** and carries out every pass, however the wait for it ends. -/
theorem worked_runChained :
    d.Worked (d.runChained passes).1 1 passes.length (passes.flatMap Pass.writes) := by
  obtain ⟨first, rest, hchain⟩ := exists_isChain_of_load hpool hload hplain hne
  have hworked := Engine.Worked.of_write_startChain hchain d.engine
  rw [← List.flatMap_def, ← hchain.laid.length_eq, List.length_map, ← Engine.access_set,
    ← engine_withChain] at hworked
  have hstarted := Worked.of_access (d := d) (k := d.withChain first rest) rfl rfl rfl rfl hworked
    [BufferPool.launchEvent (BufferPool.headOf first rest)]
  have hawaited := hstarted.trans (worked_await _ Status.chainDone)
  rw [runChained_eq hpool hload hchain.linked]
  rwa [List.append_nil] at hawaited

/-- A chain that was started fails in the wait for it. -/
theorem waitFails_of_runChained {e : Failure} (h : (d.runChained passes).2 = .error e) :
    ∃ why, e = .rejected why ∧ WaitFails d.timeout why := by
  obtain ⟨first, rest, hchain⟩ := exists_isChain_of_load hpool hload hplain hne
  rw [runChained_eq hpool hload hchain.linked] at h
  have hfails := waitFails_of_await h
  rwa [timeout_report, timeout_access] at hfails

end Chained

omit hplain in
/-- Passes that were not laid down **do not reach the engine**. -/
theorem runChained_of_load_eq_error {pool : BufferPool} {e : Failure}
    (hload : d.pool.load passes = (pool, .error e)) :
    d.runChained passes =
      ({ d with pool }.report (failureEvents BufferPool.loadEvents e), .error e) := by
  rw [runChained, hload]

end Device

end Blitter
