import Blitter.Device
import Blitter.Proofs.Engine.Start

/-!
# What a device does with a program

A device whose engine is quiet runs every program to its end. Register by register that is so
without further condition (`exists_runDirect`); by command buffers it is so if the program can be
laid down (`exists_runChained`). Either way the device has `Ran` the program: its engine is in the
state in which the program's writes leave it, and the device is as it was before.

Interrupts that arrive from outside do not come into it. A device forgets what has arrived before
it starts its engine, and finds the engine's own report when it looks.
-/

namespace Blitter

namespace InterruptLine

/-- The bits of a status **end a wait well**. -/
structure Ends (awaited bits : UInt32) : Prop where
  ne_zero : bits ≠ 0
  known : bits &&& Status.known = bits
  errors : bits &&& Status.errors = 0
  awaited : bits &&& awaited = awaited

theorem Ends.judge {awaited bits : UInt32} (h : Ends awaited bits) :
    judge awaited bits = some .done := by
  rw [InterruptLine.judge, h.errors, if_neg fun hne => hne rfl, if_pos h.awaited]

/-- What has arrived is taken at once. -/
theorem await_of_pending {l : InterruptLine} {awaited bits : UInt32} (h : Ends awaited bits)
    (hl : l.pending = bits) (deadline : Nat) :
    l.await awaited deadline = ⟨[bits], .done, l.clear⟩ := by
  simp only [await, hl, h.ne_zero, ne_eq, not_false_eq_true, if_true, h.known, h.judge]

end InterruptLine

/-- The pass writes registers of programs only, writes some, and is **short enough for a command
buffer** to count its pairs. -/
structure Pass.IsPlain (pass : Pass) : Prop where
  program : ∀ w ∈ pass.writes, Register.InProgram w.offset
  nonempty : pass.writes ≠ []
  short : pass.writes.length + 3 < 2 ^ 32

namespace Device

variable {d d' d'' : Device} {ws vs : List RegisterWrite} {passes : List Pass}

/-! ### Accesses -/

@[simp] theorem engine_access (d : Device) (a : Access) :
    (d.access a).engine = (d.engine.access a).1 := rfl

theorem report_nil (d : Device) : d.report [] = d := by
  rw [report, List.append_nil]

theorem accessAll_append (d : Device) (as bs : List Access) :
    d.accessAll (as ++ bs) = (d.accessAll as).accessAll bs := List.foldl_append

/-- An access that raises no interrupt and starts nothing changes the engine alone. -/
theorem access_eq {a : Access} {engine : Engine} (h : d.engine.access a = (engine, none))
    (hstarts : engine.starts = d.engine.starts) : d.access a = { d with engine } := by
  have hevents : Engine.accessEvents d.engine engine = [] := by
    rw [Engine.accessEvents, hstarts, if_neg (Nat.lt_irrefl _)]
  simp only [access, h, hevents, List.append_nil]

/-- Writes above the registers of the interface **set registers** and do nothing else. -/
theorem accessAll_writes (d : Device) (hws : ∀ w ∈ ws, Register.commandId ≤ w.offset.toNat) :
    d.accessAll (ws.map Access.write) = { d with engine := d.engine.replayAll ws } := by
  induction ws generalizing d with
  | nil => rfl
  | cons w ws ih =>
    obtain ⟨hw, hws⟩ := List.forall_mem_cons.mp hws
    have haccess : d.access (.write w) = { d with engine := d.engine.replayWrite w } :=
      access_eq (d.engine.write_eq_replayWrite hw) rfl
    have hcons : d.accessAll ((w :: ws).map Access.write) =
        (d.access (.write w)).accessAll (ws.map Access.write) := rfl
    rw [hcons, haccess, ih _ hws]
    rfl

/-- So do those of a pass, before which the line is cleared. -/
theorem accessAll_clearLine (d : Device) {pass : Pass} (hpass : pass.IsPlain) :
    d.clearLine.accessAll pass.accesses =
      { d.clearLine with engine := d.engine.replayAll pass.writes } :=
  accessAll_writes d.clearLine fun w hw => (hpass.program w hw).1

theorem accessAll_uploads (d : Device) (bs : List CommandBuffer) :
    d.accessAll (bs.map fun b => Access.upload b.address b.words) =
      { d with engine := d.engine.uploadAll bs } := by
  induction bs generalizing d with
  | nil => rfl
  | cons b bs ih =>
    have haccess : d.access (.upload b.address b.words) =
        { d with engine := d.engine.upload b.address b.words } := access_eq rfl rfl
    have hcons : d.accessAll ((b :: bs).map fun b => Access.upload b.address b.words) =
        (d.access (.upload b.address b.words)).accessAll
          (bs.map fun b => Access.upload b.address b.words) := rfl
    rw [hcons, haccess, ih]
    rfl

/-! ### Waiting -/

/-- What has been reported is **acknowledged at once**. -/
theorem await_of_pending {awaited bits : UInt32} (h : InterruptLine.Ends awaited bits)
    (hline : d.line.pending = bits) :
    d.await awaited =
      (({ d with line := d.line.clear }).access (.set Register.interruptStatus bits), .ok ()) := by
  have hwaited := InterruptLine.await_of_pending h hline (d.line.now + d.timeout.toNat)
  simp only [await, hwaited, acknowledge, h.judge]

/-! ### Runs -/

/-- The device has run **a program that writes `ws`**, and is otherwise as it was. -/
structure Ran (d d' : Device) (ws : List RegisterWrite) : Prop where
  compiler : d'.compiler = d.compiler
  mode : d'.mode = d.mode
  pool : d'.pool = d.pool
  engine : d.engine.Ran d'.engine ws

theorem Ran.trans (h : d.Ran d' ws) (h' : d'.Ran d'' vs) : d.Ran d'' (ws ++ vs) where
  compiler := h'.compiler.trans h.compiler
  mode := h'.mode.trans h.mode
  pool := h'.pool.trans h.pool
  engine := h.engine.trans h'.engine

/-- A start that is waited for **comes to its end**. What is waited for is the report that the
start raised, since nothing else had arrived. -/
theorem exists_await_of_start {k : Device} {value awaited bits : UInt32} {engine : Engine}
    (h : InterruptLine.Ends awaited bits) (hline : k.line.pending = 0)
    (hwrite : k.engine.write (put Register.control value) =
      (engine.store Register.interruptStatus bits, some bits))
    (hran : d.engine.Ran engine ws) (hcompiler : k.compiler = d.compiler)
    (hmode : k.mode = d.mode) (hpool : k.pool = d.pool) (events : List Event) :
    ∃ d', ((k.access (.set Register.control value)).report events).await awaited = (d', .ok ()) ∧
      d.Ran d' ws := by
  have haccess : k.engine.access (.set Register.control value) =
      (engine.store Register.interruptStatus bits, some bits) := hwrite
  have hstarted : (k.access (.set Register.control value)).line = k.line.signal bits := by
    simp only [access, haccess]
  have hpending : ((k.access (.set Register.control value)).report events).line.pending =
      bits := by
    show (k.access (.set Register.control value)).line.pending = bits
    rw [hstarted, InterruptLine.signal, hline, UInt32.zero_or]
  have hengine : (k.access (.set Register.control value)).engine =
      engine.store Register.interruptStatus bits := by
    rw [engine_access, haccess]
  refine ⟨_, await_of_pending h hpending, hcompiler, hmode, hpool, ?_⟩
  rw [engine_access]
  show d.engine.Ran (((k.access (.set Register.control value)).engine).access _).1 ws
  rw [hengine]
  exact hran.acknowledged bits

theorem ends_frameDone : InterruptLine.Ends Status.frameDone Status.frameDone :=
  ⟨by decide, by decide, by decide, by decide⟩

theorem ends_chainDone :
    InterruptLine.Ends Status.chainDone (Status.frameDone ||| Status.chainDone) :=
  ⟨by decide, by decide, by decide, by decide⟩

/-- **Register by register** every program is run to its end. -/
theorem exists_runDirect (hquiet : d.engine.Quiet) (hplain : ∀ pass ∈ passes, pass.IsPlain) :
    ∃ d', d.runDirect passes = (d', .ok ()) ∧ d.Ran d' (passes.flatMap Pass.writes) := by
  -- each pass is run by itself, from the state in which the one before left the device
  induction passes generalizing d with
  | nil => exact ⟨d, rfl, rfl, rfl, rfl, .refl hquiet⟩
  | cons pass passes ih =>
    obtain ⟨hpass, hpasses⟩ := List.forall_mem_cons.mp hplain
    have hwritten := accessAll_clearLine d hpass
    have hwrites := Engine.Ran.of_replayAll hquiet hpass.program
    obtain ⟨engine, hstart, hran⟩ := Engine.exists_write_startDirect hwrites.quiet
    have hall := hwrites.trans hran
    rw [List.append_nil] at hall
    obtain ⟨d₁, hd₁, hran₁⟩ := exists_await_of_start (d := d)
      (k := { d.clearLine with engine := d.engine.replayAll pass.writes }) ends_frameDone rfl hstart
      hall rfl rfl rfl []
    rw [report_nil] at hd₁
    obtain ⟨d', hd', hran'⟩ := ih hran₁.engine.quiet hpasses
    refine ⟨d', ?_, hran₁.trans hran'⟩
    simp only [runDirect, hwritten, startDirect, hd₁, hd']

/-- The accesses that bring a chain to the engine leave it with **the chain in its memory** and
the start of the chain in its registers; the last one starts it. -/
theorem accessAll_start (d : Device) (first : CommandBuffer) (rest : List CommandBuffer) :
    d.accessAll ((first :: rest).map (fun b => Access.upload b.address b.words) ++
        [ Access.set Register.chainBaseLow (lowWord first.address),
          .set Register.chainBaseHigh (highWord first.address),
          .set Register.chainLength (UInt32.ofNat first.entries),
          .set Register.control (Register.controlChain ||| Register.controlStart) ]) =
      ({ d with engine := d.engine.based first rest }).access
        (.set Register.control (Register.controlChain ||| Register.controlStart)) := by
  have hbase : ∀ w ∈ Engine.baseWrites first.address first.entries,
      Register.commandId ≤ w.offset.toNat := fun w hw =>
    Nat.le_trans (by decide) (Engine.inChain_baseWrites first.address first.entries w hw).1
  have hsplit : [ Access.set Register.chainBaseLow (lowWord first.address),
      .set Register.chainBaseHigh (highWord first.address),
      .set Register.chainLength (UInt32.ofNat first.entries),
      .set Register.control (Register.controlChain ||| Register.controlStart) ] =
        (Engine.baseWrites first.address first.entries).map Access.write ++
          [.set Register.control (Register.controlChain ||| Register.controlStart)] := rfl
  rw [hsplit, accessAll_append, accessAll_uploads, accessAll_append, accessAll_writes _ hbase]
  rfl

section Chained

variable {pool : BufferPool} {first : CommandBuffer} {rest : List CommandBuffer}

/-- The device with a chain uploaded to its engine, **ready to be started** on it. -/
def withChain (d : Device) (first : CommandBuffer) (rest : List CommandBuffer) : Device :=
  { d.clearLine.report [BufferPool.chainEvent (BufferPool.headOf first rest)] with
    engine := d.engine.based first rest }

theorem engine_withChain (d : Device) (first : CommandBuffer) (rest : List CommandBuffer) :
    (d.withChain first rest).engine = d.engine.based first rest := rfl

variable (hpool : d.pool.Ready) (hload : d.pool.load passes = (pool, .ok ()))
include hpool hload

/-- Passes that were laid down are **run by one start**. The pool is empty again by then. -/
theorem runChained_eq (hlink : BufferPool.link pool.usedBuffers = first :: rest) :
    d.runChained passes =
      (((d.withChain first rest).access (.set Register.control Engine.startChain)).report
        [BufferPool.launchEvent (BufferPool.headOf first rest)]).await Status.chainDone := by
  have haccesses := accessAll_start
    (d.clearLine.report [BufferPool.chainEvent (BufferPool.headOf first rest)]) first rest
  have hemptied := hpool.emptied_load passes
  rw [hload] at hemptied
  rw [runChained, hload]
  simp only [BufferPool.launch_eq hlink, hemptied]
  exact congrArg (fun k : Device => (k.report
    [BufferPool.launchEvent (BufferPool.headOf first rest)]).await Status.chainDone) haccesses

variable (hplain : ∀ pass ∈ passes, pass.IsPlain) (hne : passes ≠ [])
include hplain hne

/-- Passes that were laid down **are a chain**, if there are any. -/
theorem exists_isChain_of_load :
    ∃ first rest, Engine.IsChain (passes.map Pass.writes) pool.usedBuffers first rest := by
  have hnonempty : ∀ pass ∈ passes, pass.writes ≠ [] := fun pass hpass =>
    (hplain pass hpass).nonempty
  have hlaid := hpool.laid_of_load hload
  rw [BufferPool.worked_eq_of_ne_nil hnonempty] at hlaid
  have hshort : ∀ ws ∈ passes.map Pass.writes, ws.length + 3 < 2 ^ 32 :=
    List.forall_mem_map.mpr fun pass hpass => (hplain pass hpass).short
  have hprogram : ∀ ws ∈ passes.map Pass.writes, ∀ w ∈ ws, Register.InProgram w.offset :=
    List.forall_mem_map.mpr fun pass hpass => (hplain pass hpass).program
  obtain ⟨first, rest, hlinked⟩ :
      ∃ first rest, BufferPool.link pool.usedBuffers = first :: rest := by
    refine List.exists_cons_of_length_pos ?_
    rw [BufferPool.length_link, ← hlaid.length_eq, List.length_map]
    exact List.length_pos_of_ne_nil hne
  exact ⟨first, rest,
    { laid := hlaid
      linked := hlinked
      outside := fun ws hws w hw => (hprogram ws hws w hw).2
      counted := hlinked ▸ Engine.entries_lt_of_mem_link hlaid hshort
      nodup := hpool.nodup_of_load hload
      program := hprogram }⟩

/-- **By command buffers** a program that can be laid down is run to its end. -/
theorem exists_runChained (hquiet : d.engine.Quiet) :
    ∃ d', d.runChained passes = (d', .ok ()) ∧ d.Ran d' (passes.flatMap Pass.writes) := by
  obtain ⟨first, rest, hchain⟩ := exists_isChain_of_load hpool hload hplain hne
  obtain ⟨engine, hstart, hran⟩ := Engine.exists_write_startChain hchain hquiet
  rw [← List.flatMap_def] at hran
  rw [runChained_eq hpool hload hchain.linked]
  exact exists_await_of_start (k := d.withChain first rest) ends_chainDone rfl hstart hran rfl rfl
    rfl _

end Chained

/-- No chain can be started without a pass. -/
theorem ne_nil_of_runChained {pool : BufferPool} (hpool : d.pool.Ready)
    (hload : d.pool.load passes = (pool, .ok ())) (h : d.runChained passes = (d', .ok ())) :
    passes ≠ [] := by
  rintro rfl
  have hlaid := hpool.laid_of_load hload
  have hnone : pool.usedBuffers = [] := List.forall₂_nil_left_iff.mp hlaid
  have hlaunch := BufferPool.launch_eq_of_usedBuffers_eq_nil hnone
  rw [runChained, hload] at h
  simp only [hlaunch] at h
  exact absurd (congrArg Prod.snd h) reject_ne_ok

/-! ### Submitting programs -/

/-- The engine is quiet and nothing is laid down: the device is **between two requests**. -/
structure Settled (d : Device) : Prop where
  engine : d.engine.Quiet
  pool : d.pool.Ready

theorem Ran.settled (h : d.Ran d' ws) (hd : d.Settled) : d'.Settled where
  engine := h.engine.quiet
  pool := h.pool ▸ hd.pool

/-- A chain that ran was laid down. -/
theorem exists_load_of_runChained (h : d.runChained passes = (d', .ok ())) :
    ∃ pool, d.pool.load passes = (pool, .ok ()) := by
  rcases hload : d.pool.load passes with ⟨pool, e | ⟨⟨⟩⟩⟩
  · rw [runChained, hload] at h
    exact absurd (congrArg Prod.snd h) nofun
  · exact ⟨pool, rfl⟩

/-- The device when the submission of a program has been reported. -/
def accepted (d : Device) (p : Program) : Device :=
  let d := { d with submitted := d.submitted + 1 }
  d.report [d.submittedEvent p]

theorem submit_of_direct (hmode : d.mode = .direct) (p : Program) :
    d.submit p = (d.accepted p).runDirect p.passes := by
  obtain ⟨compiler, mode, pool, engine, line, timeout, submitted, events⟩ := d
  cases hmode
  rfl

theorem submit_of_chained (hmode : d.mode = .chained) (p : Program) :
    d.submit p = (d.accepted p).runChained p.passes := by
  obtain ⟨compiler, mode, pool, engine, line, timeout, submitted, events⟩ := d
  cases hmode
  rfl

section Submit

variable {p : Program} (hd : d.Settled) (hplain : ∀ pass ∈ p.passes, pass.IsPlain)
include hd hplain

/-- A device that runs programs register by register **runs every program**. -/
theorem exists_submit_of_direct (hmode : d.mode = .direct) :
    ∃ d', d.submit p = (d', .ok ()) ∧ d.Ran d' (p.passes.flatMap Pass.writes) := by
  obtain ⟨d', hd', hran⟩ := exists_runDirect (d := d.accepted p) hd.engine hplain
  rw [← submit_of_direct hmode] at hd'
  exact ⟨d', hd', hran.compiler, hran.mode, hran.pool, hran.engine⟩

/-- One that chains command buffers runs every program that **it can lay down**. -/
theorem exists_submit_of_chained (hmode : d.mode = .chained) {pool : BufferPool}
    (hload : d.pool.load p.passes = (pool, .ok ())) (hne : p.passes ≠ []) :
    ∃ d', d.submit p = (d', .ok ()) ∧ d.Ran d' (p.passes.flatMap Pass.writes) := by
  obtain ⟨d', hd', hran⟩ :=
    exists_runChained (d := d.accepted p) hd.pool hload hplain hne hd.engine
  rw [← submit_of_chained hmode] at hd'
  exact ⟨d', hd', hran.compiler, hran.mode, hran.pool, hran.engine⟩

/-- A program that was run to its end has done to the device **what its writes do**, however it was
brought to the engine. -/
theorem ran_of_submit (h : d.submit p = (d', .ok ())) :
    d.Ran d' (p.passes.flatMap Pass.writes) := by
  have hsame : ∀ {d''}, d.submit p = (d'', .ok ()) → d'' = d' := by
    intro d'' hd''
    rw [h] at hd''
    exact (congrArg Prod.fst hd'').symm
  cases hmode : d.mode with
  | direct =>
    obtain ⟨d'', hd'', hran⟩ := exists_submit_of_direct hd hplain hmode
    exact hsame hd'' ▸ hran
  | chained =>
    rw [submit_of_chained hmode] at h
    obtain ⟨pool, hload⟩ := exists_load_of_runChained h
    have hne := ne_nil_of_runChained (d := d.accepted p) hd.pool hload h
    rw [← submit_of_chained hmode] at h
    obtain ⟨d'', hd'', hran⟩ := exists_submit_of_chained hd hplain hmode hload hne
    exact hsame hd'' ▸ hran

end Submit

end Device

end Blitter
