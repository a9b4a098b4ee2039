import Blitter.Proofs.Compiler.Passes
import Blitter.Proofs.Device
import Blitter.Replay

/-!
# What a device does with a request

A device that was bound to an engine without faults is `Settled`, and a request that succeeds
leaves it so: the device has `Ran` the program that the request compiles to
(`Device.ran_of_serve`). A settled device carries out whatever it can do
(`Device.exists_carryOut_of_canDo`): any requests that compile if it writes register by register,
and if it chains command buffers, those whose programs can be laid down.
-/

namespace Blitter

/-! ### Passes of programs -/

/-- Registers that the engine consults are registers of programs. -/
theorem Register.inProgram_of_mem_all {g : Generation} {r : Nat} (hr : r ∈ Register.all g) :
    Register.InProgram (UInt32.ofNat r) := by
  obtain ⟨hlow, hhigh⟩ := (Register.lieIn_all g).bounds r hr
  have hwindow : Register.windowSize < 2 ^ 32 := by decide
  have hnat : (UInt32.ofNat r).toNat = r := UInt32.toNat_ofNat_of_lt' (hhigh.trans hwindow)
  have hchain := Register.not_chain_of_mem_all hr
  rw [Register.InProgram, Register.InChain, hnat]
  omega

namespace Pass.IsComplete

variable {g : Generation} {pass : Pass} (h : pass.IsComplete g)
include h

theorem exists_length_eq :
    ∃ registers, registers.Sublist (Register.all g) ∧ registers ≠ [] ∧
      pass.writes.length = registers.length := by
  obtain ⟨registers, hreaches, hsublist, hconsulted⟩ := h
  have hlengths := congrArg List.length hreaches
  rw [List.length_map, List.length_map] at hlengths
  refine ⟨registers, hsublist, ?_, hlengths⟩
  -- the number of the pass is always consulted
  rw [← hconsulted RegisterFile.zero]
  exact List.cons_ne_nil _ _

/-- A pass writes **every register once at most**. -/
theorem length_le : pass.writes.length ≤ (Register.all g).length := by
  obtain ⟨registers, hsublist, -, hlength⟩ := h.exists_length_eq
  exact hlength ▸ hsublist.length_le

/-- A pass that writes what the engine consults is **plain**. -/
theorem isPlain : pass.IsPlain where
  program := by
    intro w hw
    obtain ⟨registers, hreaches, hsublist, -⟩ := h
    have hoffset : w.offset ∈ registers.map UInt32.ofNat := hreaches ▸ List.mem_map_of_mem hw
    obtain ⟨r, hr, hwr⟩ := List.mem_map.mp hoffset
    exact hwr ▸ Register.inProgram_of_mem_all (hsublist.subset hr)
  nonempty := by
    obtain ⟨registers, -, hne, hlength⟩ := h.exists_length_eq
    exact List.ne_nil_of_length_pos (hlength ▸ List.length_pos_of_ne_nil hne)
  short := by
    have hall : (Register.all g).length + 3 < 2 ^ 32 := by
      cases g <;> decide +kernel
    have hle := h.length_le
    omega

end Pass.IsComplete

namespace Compiler

/-- Compiles a job. -/
def compile (c : Compiler) : Job → Outcome Program
  | .compose r => c.compose r
  | .fill f output => c.fill f output
  | .copy k => c.copy k

/-- What the compilation of a job is reported as. -/
def events (c : Compiler) : Job → List Event
  | .compose r => c.composeEvents r
  | .fill f output => c.fillEvents f output
  | .copy k => c.copyEvents k

variable {c : Compiler} {job : Job} {p : Program}

theorem produces_of_compile (h : c.compile job = .ok p) : c.Produces p := by
  cases job with
  | compose r => exact .compose r h
  | fill f output => exact .fill f output h
  | copy k => exact .copy k h

theorem isPlain_of_compile (h : c.compile job = .ok p) : ∀ pass ∈ p.passes, pass.IsPlain :=
  fun _ hpass => ((produces_of_compile h).isComplete hpass).isPlain

end Compiler

/-! ### Binding -/

namespace Engine

/-- The engine after a reset, with **every interrupt let through**. -/
def readied (e : Engine) : Engine :=
  ((e.write (put Register.control Register.controlReset)).1.write
    (put Register.interruptMask Status.known)).1

theorem write_controlReset (e : Engine) :
    e.write (put Register.control Register.controlReset) =
      (Engine.reset { e with journal := put Register.control Register.controlReset :: e.journal },
        none) := by
  unfold write
  exact if_pos (by decide)

theorem starts_reset (e : Engine) : e.reset.starts = e.starts := by simp only [reset]

/-- The interrupt mask is a register like another. -/
theorem write_interruptMask (e : Engine) (value : UInt32) :
    e.write (put Register.interruptMask value) =
      ({ e with
          journal := put Register.interruptMask value :: e.journal
          registers := e.registers.write Register.interruptMask value }, none) := by
  have hcontrol : (UInt32.ofNat Register.interruptMask).toNat ≠ Register.control := by decide
  have hstatus : (UInt32.ofNat Register.interruptMask).toNat ≠ Register.interruptStatus := by decide
  have hversion : (UInt32.ofNat Register.interruptMask).toNat ≠ Register.version := by decide
  simp only [write, put, hcontrol, hstatus, hversion, false_and, if_false, RegisterFile.write]

theorem readied_eq (e : Engine) :
    e.readied =
      { e with
        registers := (RegisterFile.zero.write Register.version e.version).write
          Register.interruptMask Status.known
        journal := put Register.interruptMask Status.known ::
          put Register.control Register.controlReset :: e.journal
        resets := e.resets + 1 } := by
  simp only [readied, write_controlReset, write_interruptMask, reset]

@[simp] theorem version_readied (e : Engine) : e.readied.version = e.version := by
  simp only [readied_eq]

@[simp] theorem hangs_readied (e : Engine) : e.readied.hangs = e.hangs := by
  simp only [readied_eq]

@[simp] theorem fault_readied (e : Engine) : e.readied.fault = e.fault := by
  simp only [readied_eq]

@[simp] theorem starts_readied (e : Engine) : e.readied.starts = e.starts := by
  simp only [readied_eq]

@[simp] theorem resets_readied (e : Engine) : e.readied.resets = e.resets + 1 := by
  simp only [readied_eq]

/-- The writes that a reset takes. -/
def resetWrites : List RegisterWrite :=
  [put Register.control Register.controlReset, put Register.interruptMask Status.known]

theorem log_readied (e : Engine) : e.readied.log = e.log ++ resetWrites := by
  rw [log, readied_eq, List.reverse_cons, List.reverse_cons, List.append_assoc]
  rfl

/-- An engine without faults is quiet after a reset. -/
theorem quiet_readied {e : Engine} (hhangs : e.hangs = false) (hfault : e.fault = none) :
    e.readied.Quiet where
  hangs := (hangs_readied e).trans hhangs
  fault := (fault_readied e).trans hfault
  mask := by
    rw [read, readied_eq]
    exact RegisterFile.get_set_self _ _ (by decide)
  status := by
    have hmask : RegisterFile.slot (UInt32.ofNat Register.interruptMask) ≠
        RegisterFile.slot (UInt32.ofNat Register.interruptStatus) := by decide
    have hversion : RegisterFile.slot (UInt32.ofNat Register.version) ≠
        RegisterFile.slot (UInt32.ofNat Register.interruptStatus) := by decide
    rw [read, readied_eq, RegisterFile.read, RegisterFile.write,
      RegisterFile.get_set_of_slot_ne _ _ hmask, RegisterFile.write,
      RegisterFile.get_set_of_slot_ne _ _ hversion, RegisterFile.get_zero]

end Engine

theorem BufferPool.Ready.emptied_eq {p : BufferPool} (h : p.Ready) : p.emptied = p := by
  rw [emptied, map_emptied_eq h.blank rfl]

namespace Device

variable {d d' : Device} {config : Config} {engine : Engine}

/-- What a device is **bound to**. -/
theorem probe_eq_ok (h : probe config engine = .ok d) :
    ∃ g pool, Generation.ofCompatible? config.compatible = some g ∧
      BufferPool.create config.bufferCount.toNat config.bufferWords.toNat config.commandBase =
        .ok pool ∧
      d.compiler =
        { generation := g, limits := config.stripLimits g
          replays := config.modeFor g == .chained } ∧
      d.mode = config.modeFor g ∧ d.pool = pool.emptied ∧ d.engine = engine.readied := by
  unfold probe at h
  split at h
  case h_1 g hg =>
    obtain ⟨pool, hpool, h⟩ := Outcome.bind_eq_ok_iff.mp h
    cases h
    exact ⟨g, pool, hg, hpool, rfl, rfl, rfl, rfl⟩
  case h_2 => cases h

/-- The buffers of a device that was bound are empty. -/
theorem ready_of_probe (h : probe config engine = .ok d) : d.pool.Ready := by
  obtain ⟨g, pool, -, hcreate, -, -, hpool, -⟩ := probe_eq_ok h
  have hready := BufferPool.ready_of_create hcreate
  rw [hpool, hready.emptied_eq]
  exact hready

/-- There are as many as configured, each of the size configured. -/
theorem size_of_probe (h : probe config engine = .ok d) :
    d.pool.count = config.bufferCount.toNat ∧ d.pool.capacity = config.bufferWords.toNat := by
  obtain ⟨g, pool, -, hcreate, -, -, hpool, -⟩ := probe_eq_ok h
  rw [hpool, (BufferPool.ready_of_create hcreate).emptied_eq]
  exact BufferPool.size_of_create hcreate

/-- A device that was bound to an engine without faults **can be used**. -/
theorem settled_of_probe (h : probe config engine = .ok d) (hhangs : engine.hangs = false)
    (hfault : engine.fault = none) : d.Settled := by
  obtain ⟨g, pool, -, -, -, -, -, hengine⟩ := probe_eq_ok h
  refine ⟨?_, ready_of_probe h⟩
  rw [hengine]
  exact Engine.quiet_readied hhangs hfault

/-! ### Requests -/

/-- A request succeeds exactly when it compiles and **its program is run to its end**. -/
theorem perform_eq_ok_iff {what : String} {compiling : List Event} {program : Outcome Program} :
    d.perform what compiling program = (d', .ok ()) ↔
      ∃ p, program = .ok p ∧ (d.report compiling).submit p = (d', .ok ()) := by
  cases program with
  | error e => cases e <;> exact iff_of_false nofun nofun
  | ok p =>
    rcases hsubmit : (d.report compiling).submit p with ⟨d'', (why | _) | ⟨⟨⟩⟩⟩
    all_goals simp [perform, hsubmit]

/-- A step succeeds exactly when its action does. -/
theorem step_eq_ok_iff (d d' : Device) (arrivals : List (Nat × UInt32))
    (action : Device → Device × Outcome Unit) :
    d.step arrivals action = (d', .ok ()) ↔
      ∃ after, action { d with line := .start d.line.pending arrivals } = (after, .ok ()) ∧
        d' = { after with line := .start after.line.finish [] } := by
  rcases haction : action { d with line := .start d.line.pending arrivals } with
    ⟨after, (why | _) | ⟨⟨⟩⟩⟩
  all_goals simp [step, haction, eq_comm]

/-- A request, and the interrupts that **arrive from outside** while it is carried out. -/
structure Order where
  job : Job
  arrivals : List (Nat × UInt32)

/-- Carries out an order. -/
def serve (d : Device) (o : Order) : Device × Outcome Unit :=
  d.step o.arrivals (Replay.perform o.job)

/-- The device that has taken an order in and reported what there was to say while it compiled. -/
def taken (d : Device) (o : Order) : Device :=
  { d with line := .start d.line.pending o.arrivals }.report (d.compiler.events o.job)

variable {o : Order}

/-- Whatever the job, it is compiled and then **carried out under some name**. -/
theorem exists_perform_eq (d : Device) (job : Job) :
    ∃ what, Replay.perform job d =
      d.perform what (d.compiler.events job) (d.compiler.compile job) := by
  cases job with
  | compose r => exact ⟨_, rfl⟩
  | fill f output => exact ⟨_, rfl⟩
  | copy k => exact ⟨_, rfl⟩

/-- A request succeeds exactly when it is **compiled, submitted and waited for**. -/
theorem serve_eq_ok_iff_submit :
    d.serve o = (d', .ok ()) ↔
      ∃ p after, d.compiler.compile o.job = .ok p ∧ (d.taken o).submit p = (after, .ok ()) ∧
        d' = { after with line := .start after.line.finish [] } := by
  have hserve := step_eq_ok_iff d d' o.arrivals (Replay.perform o.job)
  obtain ⟨what, hperform⟩ :=
    exists_perform_eq { d with line := .start d.line.pending o.arrivals } o.job
  rw [hperform] at hserve
  refine hserve.trans ?_
  constructor
  · rintro ⟨after, hafter, hd'⟩
    obtain ⟨p, hp, hsubmit⟩ := perform_eq_ok_iff.mp hafter
    exact ⟨p, after, hp, hsubmit, hd'⟩
  · rintro ⟨p, after, hp, hsubmit, hd'⟩
    exact ⟨after, perform_eq_ok_iff.mpr ⟨p, hp, hsubmit⟩, hd'⟩

/-- A request that succeeded has done **what the writes of its program do**. -/
theorem ran_of_serve (hd : d.Settled) (h : d.serve o = (d', .ok ())) :
    ∃ p, d.compiler.compile o.job = .ok p ∧ d.Ran d' (p.passes.flatMap Pass.writes) := by
  obtain ⟨p, after, hp, hsubmit, rfl⟩ := serve_eq_ok_iff_submit.mp h
  have hran := ran_of_submit (d := d.taken o) ⟨hd.engine, hd.pool⟩
    (Compiler.isPlain_of_compile hp) hsubmit
  exact ⟨p, hp, hran.compiler, hran.mode, hran.pool, hran.engine⟩

/-- The device **can do the job**: it compiles, and its program can be laid down if that is how
programs are brought to the engine. -/
def CanDo (d : Device) (job : Job) : Prop :=
  ∃ p, d.compiler.compile job = .ok p ∧
    (d.mode = .chained → p.passes ≠ [] ∧ ∃ pool, d.pool.load p.passes = (pool, .ok ()))

/-- A device whose buffers have room for a write to every register can do whatever compiles to
**no more passes than it has buffers**. -/
theorem canDo_of_compile (hd : d.Settled) {job : Job} {p : Program}
    (hp : d.compiler.compile job = .ok p) (hne : p.passes ≠ [])
    (hcount : p.passes.length ≤ d.pool.count)
    (hroom : (Register.all d.compiler.generation).length * 2 + CommandBuffer.trailerWords ≤
      d.pool.capacity) : d.CanDo job := by
  refine ⟨p, hp, fun _ => ⟨hne, hd.pool.exists_load hcount fun pass hpass => ?_⟩⟩
  have hle := ((Compiler.produces_of_compile hp).isComplete hpass).length_le
  omega

/-- What a device can do, it does, **whatever interrupts arrive**. -/
theorem exists_serve_of_canDo (hd : d.Settled) (h : d.CanDo o.job) :
    ∃ d', d.serve o = (d', .ok ()) := by
  obtain ⟨p, hp, hchained⟩ := h
  have hplain := Compiler.isPlain_of_compile hp
  have htaken : (d.taken o).Settled := ⟨hd.engine, hd.pool⟩
  obtain ⟨after, hsubmit⟩ : ∃ after, (d.taken o).submit p = (after, .ok ()) := by
    cases hmode : d.mode with
    | direct =>
      obtain ⟨after, hafter, -⟩ := exists_submit_of_direct htaken hplain hmode
      exact ⟨after, hafter⟩
    | chained =>
      obtain ⟨hne, pool, hload⟩ := hchained hmode
      obtain ⟨after, hafter, -⟩ := exists_submit_of_chained htaken hplain hmode hload hne
      exact ⟨after, hafter⟩
  exact ⟨_, serve_eq_ok_iff_submit.mpr ⟨p, after, hp, hsubmit, rfl⟩⟩

/-! ### Sequences of requests -/

/-- **Carries out orders** one after the other as long as they succeed. The result is the device
after each of them. -/
def carryOut (d : Device) : List Order → Outcome (List Device)
  | [] => .ok []
  | o :: os =>
    match d.serve o with
    | (d, .ok ()) => do
      let ds ← d.carryOut os
      return d :: ds
    | (_, .error e) => .error e

variable {os : List Order} {ds : List Device}

theorem carryOut_cons_eq_ok_iff :
    d.carryOut (o :: os) = .ok ds ↔
      ∃ d' ds', d.serve o = (d', .ok ()) ∧ d'.carryOut os = .ok ds' ∧ ds = d' :: ds' := by
  rcases hserve : d.serve o with ⟨d', e | ⟨⟨⟩⟩⟩
  · simp [carryOut, hserve]
  · simp only [carryOut, hserve, Outcome.bind_eq_ok_iff]
    constructor
    · rintro ⟨ds', hds', ⟨⟩⟩
      exact ⟨d', ds', rfl, hds', rfl⟩
    · rintro ⟨_, ds', ⟨⟩, hds', rfl⟩
      exact ⟨ds', hds', rfl⟩

/-- A device that can do each of some jobs **carries all of them out**. -/
theorem exists_carryOut_of_canDo (hd : d.Settled) (h : ∀ o ∈ os, d.CanDo o.job) :
    ∃ ds, d.carryOut os = .ok ds := by
  induction os generalizing d with
  | nil => exact ⟨[], rfl⟩
  | cons o os ih =>
    obtain ⟨ho, hos⟩ := List.forall_mem_cons.mp h
    obtain ⟨d', hserve⟩ := exists_serve_of_canDo hd ho
    obtain ⟨_, _, hran⟩ := ran_of_serve hd hserve
    -- what a device can do depends on nothing that a request changes
    have hkept : ∀ o ∈ os, d'.CanDo o.job := by
      intro o ho
      unfold CanDo
      rw [hran.compiler, hran.mode, hran.pool]
      exact hos o ho
    obtain ⟨ds, hds⟩ := ih (hran.settled hd) hkept
    exact ⟨d' :: ds, carryOut_cons_eq_ok_iff.mpr ⟨d', ds, hserve, hds, rfl⟩⟩

end Device

end Blitter
