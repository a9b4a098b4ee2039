import Blitter.Proofs.Device.History
import Blitter.Proofs.Device.Modes

/-!
# Outcomes on an engine without faults

On an engine that neither hangs nor reports errors, how a request ends depends on nothing but the
request: it succeeds if it compiles and, where programs are chained, if there is room for its
program (`Device.verdict`). No history of requests makes a difference, whether they succeeded or
failed, because each of them leaves the device settled (`Device.settled_live`). The same holds of
what a request that succeeded leaves behind (`Device.Finished`).
-/

namespace Blitter

/-- The configured command buffers **have room** for a program: there are enough of them, and each
is long enough for a pass and a trailer. -/
def Config.HasRoom (config : Config) (p : Program) : Prop :=
  p.passes.length ≤ config.bufferCount.toNat ∧
    ∀ pass ∈ p.passes, 2 * pass.writes.length + 6 ≤ config.bufferWords.toNat

instance (config : Config) (p : Program) : Decidable (config.HasRoom p) :=
  inferInstanceAs (Decidable (_ ∧ _))

/-- Why a program **does not find room** in the configured command buffers. -/
def Config.LacksRoom (config : Config) (p : Program) (e : Failure) : Prop :=
  (config.bufferCount.toNat < p.passes.length ∧
      e = .rejected (.tooManyPasses p.passes.length config.bufferCount.toNat)) ∨
    ∃ i pass, p.passes[i]? = some pass ∧
      config.bufferWords.toNat < 2 * pass.writes.length + 6 ∧
      e = .rejected (.bufferFull i (2 * pass.writes.length) (config.bufferWords.toNat - 6))

namespace Device

variable {config : Config} {engine : Engine} {d d' d₀ : Device} {o : Order} {p : Program}

/-! ### Between requests -/

/-- A request leaves a settled device settled, **whether it succeeds or fails**. -/
theorem settled_serve (hd : d.Settled) (o : Order) : (d.serve o).1.Settled := by
  have hkept := kept_serve hd.pool o
  have hpool : (d.serve o).1.pool.Ready := hkept.pool ▸ hd.pool
  rcases hserve : d.serve o with ⟨d', (why | _) | ⟨⟨⟩⟩⟩
  · rw [hserve] at hkept hpool
    refine ⟨?_, hpool⟩
    obtain ⟨tried, hattempt⟩ := exists_attempt_of_serve hserve
    obtain ⟨after, events, -, hafter, hserved⟩ := exists_serve_of_rejected hattempt
    have hd' : d' = { after with line := .start after.line.finish [] } :=
      congrArg Prod.fst (hserve.symm.trans hserved)
    have hengine : d'.engine = tried.engine.readied := by
      rw [hd', hafter, recover_eq]
      rfl
    have hhangs : tried.engine.hangs = false := by
      rw [← Engine.hangs_readied, ← hengine]
      exact hkept.hangs.trans hd.engine.hangs
    have hfault : tried.engine.fault = none := by
      rw [← Engine.fault_readied, ← hengine]
      exact hkept.fault.trans hd.engine.fault
    rw [hengine]
    exact Engine.quiet_readied hhangs hfault
  · obtain ⟨_, hattempt⟩ := exists_attempt_of_serve hserve
    rw [serve_of_overflow hattempt] at hserve
    cases hserve
    exact hd
  · obtain ⟨p, -, hran⟩ := ran_of_serve hd hserve
    exact hran.settled hd

/-- **No history unsettles a device.** -/
theorem settled_live (hd : d.Settled) (turns : List Turn) : (d.live turns).1.Settled := by
  induction turns generalizing d with
  | nil => exact hd
  | cons turn turns ih =>
    cases turn with
    | request o =>
      rw [live_request]
      exact ih (settled_serve hd o)
    | interrupt status =>
      rw [live_interrupt]
      exact ih ⟨hd.engine, hd.pool⟩

/-! ### How requests end -/

/-- How a job ends on an engine without faults: it has to compile, and its program **has to find
room** where programs are chained. -/
def verdict (d : Device) (job : Job) : Outcome Unit := do
  let p ← d.compiler.compile job
  match d.mode with
  | .direct => .ok ()
  | .chained => (d.pool.load p.passes).2

theorem verdict_of_compile_eq_error {e : Failure} (h : d.compiler.compile o.job = .error e) :
    d.verdict o.job = .error e := by
  rw [verdict, h]
  rfl

theorem verdict_of_direct (hcompile : d.compiler.compile o.job = .ok p)
    (hmode : d.mode = .direct) : d.verdict o.job = .ok () := by
  rw [verdict, hcompile, Outcome.ok_bind, hmode]

theorem verdict_of_chained (hcompile : d.compiler.compile o.job = .ok p)
    (hmode : d.mode = .chained) : d.verdict o.job = (d.pool.load p.passes).2 := by
  rw [verdict, hcompile, Outcome.ok_bind, hmode]

/-- **A request ends as its job says.** Neither the interrupts that arrive nor what the engine did
before come into it. -/
theorem snd_serve_eq_verdict (hd : d.Settled) (o : Order) : (d.serve o).2 = d.verdict o.job := by
  have htaken : (d.taken o).Settled := ⟨hd.engine, hd.pool⟩
  have hattempted := attempted hd.pool o
  rw [snd_serve]
  rcases hattempt : d.attempt o with ⟨tried, result⟩
  rw [hattempt] at hattempted
  cases hattempted with
  | notCompiled hcompile _ => rw [verdict_of_compile_eq_error hcompile]
  | notLaid hcompile hmode hload _ => rw [verdict_of_chained hcompile hmode, hload]
  | direct hcompile hmode _ => rw [verdict_of_direct hcompile hmode]
  | chained hcompile hmode hload _ => rw [verdict_of_chained hcompile hmode, hload]
  | directFailed hcompile hmode _ _ _ =>
    -- a quiet engine runs every pass to its end
    obtain ⟨d', hsubmit, -⟩ :=
      exists_submit_of_direct htaken (Compiler.isPlain_of_compile hcompile) hmode
    rw [attempt_of_compile hcompile, hsubmit] at hattempt
    cases hattempt
  | chainFailed hcompile hmode hload _ _ =>
    obtain ⟨d', hsubmit, -⟩ :=
      exists_submit_of_chained htaken (Compiler.isPlain_of_compile hcompile) hmode
        (Prod.ext rfl hload) (Compiler.produces_of_compile hcompile).passes_ne_nil
    rw [attempt_of_compile hcompile, hsubmit] at hattempt
    cases hattempt

section Room

variable (hprobe : probe config engine = .ok d₀)
include hprobe

/-- A program can be laid down exactly when the **configured buffers have room** for it. -/
theorem snd_load_eq_ok_iff (hcompile : d₀.compiler.compile o.job = .ok p) :
    (d₀.pool.load p.passes).2 = .ok () ↔ config.HasRoom p := by
  have hplain := Compiler.isPlain_of_compile hcompile
  obtain ⟨hcount, hcapacity⟩ := size_of_probe hprobe
  have hload : (d₀.pool.load p.passes).2 = .ok () ↔
      ∃ pool', d₀.pool.load p.passes = (pool', .ok ()) :=
    ⟨fun h => ⟨_, Prod.ext rfl h⟩, fun ⟨_, h⟩ => congrArg Prod.snd h⟩
  rw [hload, (ready_of_probe hprobe).exists_load_iff, hcount, hcapacity, Config.HasRoom]
  refine and_congr_right fun _ => forall₂_congr fun pass hpass => ?_
  -- a pass writes something, so that the room for the trailer is not cut off at zero
  have hpos := List.length_pos_of_ne_nil (hplain pass hpass).nonempty
  have htrailer : CommandBuffer.trailerWords = 6 := rfl
  omega

/-- Otherwise the load says **what there is no room for**. -/
theorem lacksRoom_of_load {e : Failure} (h : (d₀.pool.load p.passes).2 = .error e) :
    config.LacksRoom p e := by
  obtain ⟨hcount, hcapacity⟩ := size_of_probe hprobe
  have htrailer : CommandBuffer.trailerWords = 6 := rfl
  rcases (ready_of_probe hprobe).load_eq_error (Prod.ext rfl h) with
    ⟨hmany, he⟩ | ⟨-, i, pass, hpass, hfull, he⟩
  · rw [hcount] at hmany he
    exact .inl ⟨hmany, he⟩
  · rw [hcapacity, htrailer] at hfull he
    rw [Nat.mul_comm] at hfull he
    refine .inr ⟨i, pass, hpass, ?_, he⟩
    omega

/-- A request **succeeds** if it compiles and there is room for its program. -/
theorem verdict_eq_ok_iff (o : Order) :
    d₀.verdict o.job = .ok () ↔
      ∃ p, d₀.compiler.compile o.job = .ok p ∧ (d₀.mode = .chained → config.HasRoom p) := by
  cases hcompile : d₀.compiler.compile o.job with
  | error e => simp [verdict_of_compile_eq_error hcompile]
  | ok p =>
    cases hmode : d₀.mode with
    | direct => simp [verdict_of_direct hcompile hmode]
    | chained => simp [verdict_of_chained hcompile hmode, snd_load_eq_ok_iff hprobe hcompile]

/-- It **fails** because it does not compile, or for want of room. -/
theorem eq_error_or_lacksRoom_of_verdict {e : Failure} (h : d₀.verdict o.job = .error e) :
    d₀.compiler.compile o.job = .error e ∨
      ∃ p, d₀.compiler.compile o.job = .ok p ∧ d₀.mode = .chained ∧ config.LacksRoom p e := by
  cases hcompile : d₀.compiler.compile o.job with
  | error e' =>
    rw [verdict_of_compile_eq_error hcompile] at h
    obtain rfl := Except.error.inj h
    exact .inl rfl
  | ok p =>
    cases hmode : d₀.mode with
    | direct =>
      rw [verdict_of_direct hcompile hmode] at h
      cases h
    | chained =>
      rw [verdict_of_chained hcompile hmode] at h
      exact .inr ⟨p, rfl, rfl, lacksRoom_of_load hprobe h⟩

end Room

/-! ### What requests leave behind -/

/-- What a program **leaves behind**: the engine was started once for every pass, or once for the
chain of them, and carried out all of them; its register for the number of the pass holds that of
the last one; and neither an interrupt status nor anything laid down is left. -/
structure Finished (mode : WriteMode) (d : Device) (p : Program) (d' : Device) : Prop where
  starts : d'.engine.starts = d.engine.starts +
    match mode with
    | .direct => p.passes.length
    | .chained => 1
  frames : d'.engine.frames = d.engine.frames + p.passes.length
  commandId : (d'.engine.read Register.commandId).toNat + 1 = p.passes.length
  status : d'.engine.read Register.interruptStatus = 0
  blank : ∀ b ∈ d'.pool.buffers, b.IsBlank

/-- The last pass of a program leaves **its number**. -/
theorem toNat_read_commandId {c : Compiler} (h : c.Produces p) (f : RegisterFile) :
    ((f.apply (p.passes.flatMap Pass.writes)).read Register.commandId).toNat + 1 =
      p.passes.length := by
  obtain ⟨init, last, hpasses⟩ := (List.eq_nil_or_concat' p.passes).resolve_left h.passes_ne_nil
  have hlast : p.passes[init.length]? = some last := by
    rw [hpasses, List.getElem?_concat_length]
  have hwell : last.WellFormed c.generation init.length := by
    cases h with
    | compose r h => exact Compiler.wellFormed_of_compose h hlast
    | fill fill output h => exact Compiler.wellFormed_of_fill h hlast
    | copy k h => exact Compiler.wellFormed_of_copy h hlast
  obtain ⟨mode, rest, hwrites⟩ := hwell.header
  have hfirst : put Register.commandId last.commandId ∈ last.writes := by
    rw [hwrites]
    exact List.mem_cons_self
  have hread := (h.isComplete (List.mem_of_getElem? hlast)).read_apply_put
    (f.apply (init.flatMap Pass.writes)) hfirst
  rw [hpasses, List.flatMap_append, RegisterFile.apply_append, List.flatMap_singleton, hread,
    hwell.number, List.length_append, List.length_singleton]

/-- An attempt that succeeded started the engine **for every pass, or once for all of them**. -/
theorem Attempted.counted {tried : Device} (h : d.Attempted o tried (.ok ()))
    (hcompile : d.compiler.compile o.job = .ok p) :
    tried.engine.starts = d.engine.starts +
        (match d.mode with
          | .direct => p.passes.length
          | .chained => 1) ∧
      tried.engine.frames = d.engine.frames + p.passes.length := by
  cases h with
  | direct hcompile' hmode hworked =>
    obtain rfl := Outcome.eq_of_eq_ok hcompile hcompile'
    rw [hmode]
    exact ⟨hworked.engine.starts, hworked.engine.frames⟩
  | chained hcompile' hmode _ hworked =>
    obtain rfl := Outcome.eq_of_eq_ok hcompile hcompile'
    rw [hmode]
    exact ⟨hworked.engine.starts, hworked.engine.frames⟩

/-- A request that succeeded **finished its program**. -/
theorem finished_of_serve (hd : d.Settled) (h : d.serve o = (d', .ok ())) :
    ∃ p, d.compiler.compile o.job = .ok p ∧ d.Finished d.mode p d' := by
  obtain ⟨p, hcompile, hran⟩ := ran_of_serve hd h
  refine ⟨p, hcompile, ?_⟩
  have hfree : Register.FreeOfMode (UInt32.ofNat Register.commandId) :=
    ⟨by decide, by decide, by decide⟩
  have hcommand : d'.engine.read Register.commandId =
      (d.engine.registers.apply (p.passes.flatMap Pass.writes)).read Register.commandId :=
    hran.engine.registers _ hfree
  obtain ⟨tried, hattempt⟩ := exists_attempt_of_serve h
  have hattempted := attempted hd.pool o
  rw [hattempt] at hattempted
  rw [serve_of_ok hattempt] at h
  obtain rfl : _ = d' := congrArg Prod.fst h
  obtain ⟨hstarts, hframes⟩ := hattempted.counted hcompile
  exact
    { starts := hstarts
      frames := hframes
      commandId := by
        rw [hcommand]
        exact toNat_read_commandId (Compiler.produces_of_compile hcompile) d.engine.registers
      status := hran.engine.quiet.status
      blank := (hran.settled hd).pool.blank }

/-! ### The outcome of a request -/

/-- **The outcome of a request depends on the request alone**, on an engine that neither hangs nor
reports errors, and after any history of requests that succeeded or failed. It succeeds if and only
if it compiles and, where programs are chained, the configured command buffers have room for its
program. If it succeeds, the program was finished, and nothing is left of it. Otherwise it ends with
the error of the compiler, or with what there is no room for, and the same request would end so on
the device that was just bound, whatever interrupts arrive. -/
theorem outcome_of_live {turns : List Turn} (hprobe : probe config engine = .ok d₀)
    (hhangs : engine.hangs = false) (hfault : engine.fault = none) (hd : (d₀.live turns).1 = d)
    (o : Order) :
    ((d.serve o).2 = .ok () ↔
        ∃ p, d₀.compiler.compile o.job = .ok p ∧ (d₀.mode = .chained → config.HasRoom p)) ∧
      (∀ d', d.serve o = (d', .ok ()) →
        ∃ p, d₀.compiler.compile o.job = .ok p ∧ d.Finished d₀.mode p d') ∧
      ∀ e, (d.serve o).2 = .error e →
        (d₀.compiler.compile o.job = .error e ∨
          ∃ p, d₀.compiler.compile o.job = .ok p ∧ d₀.mode = .chained ∧ config.LacksRoom p e) ∧
        ∀ o' : Order, o'.job = o.job → (d₀.serve o').2 = .error e := by
  have hkept : d₀.Kept d := hd ▸ kept_live (ready_of_probe hprobe) turns
  have hfresh := settled_of_probe hprobe hhangs hfault
  have hsettled : d.Settled := hd ▸ settled_live hfresh turns
  have hends : (d.serve o).2 = d₀.verdict o.job := by
    rw [snd_serve_eq_verdict hsettled, verdict, verdict, hkept.compiler, hkept.mode, hkept.pool]
  rw [hends]
  refine ⟨verdict_eq_ok_iff hprobe o, fun d' h => ?_, fun e he => ⟨?_, fun o' hjob => ?_⟩⟩
  · rw [← hkept.compiler, ← hkept.mode]
    exact finished_of_serve hsettled h
  · exact eq_error_or_lacksRoom_of_verdict hprobe he
  · rw [snd_serve_eq_verdict hfresh, hjob, he]

/-- After a request that failed, a mirrored layer of video is still carried out as one chain of two
passes, for which there is room. -/
theorem outcome_watchedVideo :
    ∃ d₀ d d' p, probe { Config.default with mode := .chained } (.create .normal false none) =
        .ok d₀ ∧
      (d₀.live troubledTurns).1 = d ∧
      (d₀.live troubledTurns).2 = [.error (.rejected (.geometry (.copyHeight 0)))] ∧
      d₀.compiler.compile watchedVideo.job = .ok p ∧ p.passes.length = 2 ∧
      d.serve watchedVideo = (d', .ok ()) ∧ d.Finished .chained p d' := by
  obtain ⟨d₀, hprobe⟩ : ∃ d₀, probe { Config.default with mode := .chained }
      (.create .normal false none) = .ok d₀ := ⟨_, rfl⟩
  obtain ⟨d, hd⟩ : ∃ d, (d₀.live troubledTurns).1 = d := ⟨_, rfl⟩
  have hrun : (probe { Config.default with mode := .chained } (.create .normal false none)).map
      (fun d₀ =>
        ((d₀.live troubledTurns).2, d₀.mode, (d₀.compiler.compile watchedVideo.job).map fun p =>
          (p.passes.length, decide (Config.HasRoom { Config.default with mode := .chained } p)))) =
        .ok ([.error (.rejected (.geometry (.copyHeight 0)))], .chained, .ok (2, true)) := by
    decide +kernel
  rw [hprobe] at hrun
  simp only [Except.map, Except.ok.injEq, Prod.mk.injEq] at hrun
  obtain ⟨hresults, hmode, hcompiles⟩ := hrun
  obtain ⟨p, hcompile, hp⟩ := Outcome.map_eq_ok_iff.mp hcompiles
  obtain ⟨hlength, hroom⟩ := Prod.mk.inj hp
  obtain ⟨hends, hfinished, -⟩ := outcome_of_live hprobe rfl rfl hd watchedVideo
  have hserved : d.serve watchedVideo = ((d.serve watchedVideo).1, .ok ()) :=
    Prod.ext rfl (hends.mpr ⟨p, hcompile, fun _ => of_decide_eq_true hroom⟩)
  obtain ⟨p', hcompile', hfinished⟩ := hfinished _ hserved
  obtain rfl := Outcome.eq_of_eq_ok hcompile hcompile'
  exact ⟨d₀, d, _, p, hprobe, hd, hresults, hcompile, hlength, hserved, hmode ▸ hfinished⟩

end Device

end Blitter
