import Blitter.Proofs.Device.InStep

/-!
# After a failed request

A failed request leaves a device as it was when it was bound (`Device.cleanedUp_of_request`): the
engine was reset once, its registers are at zero but for the version and the interrupt mask, the
command buffers are empty and no interrupt is pending. A request that failed before its program was
started never touched the engine otherwise; one that failed at a pass started the engine up to that
pass and not beyond. From then on the device goes on like one that was freshly bound, so that
nothing of the failed request can reach the engine any more.

This holds for every engine, whether it hangs or reports errors, and after every history.
-/

namespace Blitter

/-! ### What a reset leaves in the registers -/

namespace Engine

/-- After a reset a register is at zero, if it is not that of the version or the interrupt mask. -/
theorem get_readied_of_slot_ne (e : Engine) {o : UInt32}
    (hversion : RegisterFile.slot (UInt32.ofNat Register.version) ≠ RegisterFile.slot o)
    (hmask : RegisterFile.slot (UInt32.ofNat Register.interruptMask) ≠ RegisterFile.slot o) :
    e.readied.get o = 0 := by
  rw [get, readied_eq, RegisterFile.write, RegisterFile.get_set_of_slot_ne _ _ hmask,
    RegisterFile.write, RegisterFile.get_set_of_slot_ne _ _ hversion, RegisterFile.get_zero]

theorem read_version_readied (e : Engine) : e.readied.read Register.version = e.version := by
  have hslot : RegisterFile.slot (UInt32.ofNat Register.interruptMask) ≠
      RegisterFile.slot (UInt32.ofNat Register.version) := by decide
  rw [read, readied_eq, RegisterFile.read, RegisterFile.write,
    RegisterFile.get_set_of_slot_ne _ _ hslot]
  exact RegisterFile.get_set_self _ _ (by decide)

theorem read_interruptMask_readied (e : Engine) :
    e.readied.read Register.interruptMask = Status.known := by
  rw [read, readied_eq]
  exact RegisterFile.get_set_self _ _ (by decide)

end Engine

namespace Device

variable {config : Config} {engine : Engine} {d₀ d after : Device} {o : Order} {why : Rejection}

/-- The device is **as it was bound**: all of its registers are at zero, except for the version and
the interrupt mask, no command buffer holds anything, and no interrupt is pending. -/
structure AsBound (d₀ d : Device) : Prop where
  kept : d₀.Kept d
  registers : d.engine.registers = d₀.engine.registers
  version : d.engine.read Register.version = d.engine.version
  mask : d.engine.read Register.interruptMask = Status.known
  zero : ∀ o, RegisterFile.slot (UInt32.ofNat Register.version) ≠ RegisterFile.slot o →
    RegisterFile.slot (UInt32.ofNat Register.interruptMask) ≠ RegisterFile.slot o →
      d.engine.get o = 0
  blank : ∀ b ∈ d.pool.buffers, b.IsBlank
  line : d.line.pending = 0

/-- **How a request failed**, and what it made the engine do before the reset. -/
inductive FailedBy (d : Device) (o : Order) (why : Rejection) (after : Device) : Prop
  | compiling (hcompile : d.compiler.compile o.job = .error (.rejected why))
      (hstarts : after.engine.starts = d.engine.starts)
      (hlog : after.engine.log = d.engine.log ++ Engine.resetWrites)
  | loading {p : Program} (hcompile : d.compiler.compile o.job = .ok p) (hmode : d.mode = .chained)
      (hload : (d.pool.load p.passes).2 = .error (.rejected why))
      (hstarts : after.engine.starts = d.engine.starts)
      (hlog : after.engine.log = d.engine.log ++ Engine.resetWrites)
  | pass {p : Program} {k : Nat} (hcompile : d.compiler.compile o.job = .ok p)
      (hmode : d.mode = .direct) (hwait : WaitFails d.timeout why)
      (hfails : ((d.taken o).accepted p).FailsAt p.passes k why)
      (hstarts : after.engine.starts = d.engine.starts + (k + 1))
      (hlog : programWrites after.engine.log =
        programWrites d.engine.log ++ (p.passes.take (k + 1)).flatMap Pass.writes)
  | chain {p : Program} (hcompile : d.compiler.compile o.job = .ok p) (hmode : d.mode = .chained)
      (hwait : WaitFails d.timeout why) (hstarts : after.engine.starts = d.engine.starts + 1)
      (hlog : programWrites after.engine.log =
        programWrites d.engine.log ++ p.passes.flatMap Pass.writes)

/-- The reset at the end changes none of what the attempt did but **adds its own two writes**. -/
theorem Attempted.failedBy {tried : Device} (h : d.Attempted o tried (.error (.rejected why)))
    (hafter : after.engine = tried.engine.readied) :
    d.FailedBy o why after ∧ after.engine.resets = d.engine.resets + 1 := by
  have hstarts : after.engine.starts = tried.engine.starts := by
    rw [hafter, Engine.starts_readied]
  have hresets : after.engine.resets = tried.engine.resets + 1 := by
    rw [hafter, Engine.resets_readied]
  have hlog : after.engine.log = tried.engine.log ++ Engine.resetWrites := by
    rw [hafter, Engine.log_readied]
  have hprograms : programWrites after.engine.log = programWrites tried.engine.log := by
    have hnone : programWrites Engine.resetWrites = [] := by decide
    rw [hlog, programWrites_append, hnone, List.append_nil]
  cases h with
  | notCompiled hcompile h =>
    rw [h.engine] at hstarts hresets hlog
    exact ⟨.compiling hcompile hstarts hlog, hresets⟩
  | notLaid hcompile hmode hload h =>
    rw [h.engine] at hstarts hresets hlog
    exact ⟨.loading hcompile hmode hload hstarts hlog, hresets⟩
  | directFailed hcompile hmode hwait hfails h =>
    rw [h.engine.starts] at hstarts
    rw [h.engine.resets] at hresets
    rw [h.engine.log] at hprograms
    exact ⟨.pass hcompile hmode hwait hfails hstarts hprograms, hresets⟩
  | chainFailed hcompile hmode _ hwait h =>
    rw [h.engine.starts] at hstarts
    rw [h.engine.resets] at hresets
    rw [h.engine.log] at hprograms
    exact ⟨.chain hcompile hmode hwait hstarts hprograms, hresets⟩

/-- Nothing has arrived when a device is bound, and nothing is to come. -/
theorem line_of_probe (h : probe config engine = .ok d₀) : d₀.line = .start 0 [] := by
  unfold probe at h
  split at h
  case h_1 g hg =>
    obtain ⟨pool, -, h⟩ := Outcome.bind_eq_ok_iff.mp h
    cases h
    rw [reset_eq]
    rfl
  case h_2 => cases h

/-- Recovery brings back **what the device was bound as**. -/
theorem asBound_recover (hprobe : probe config engine = .ok d₀) {tried : Device}
    (hkept : d₀.Kept { tried with pool := tried.pool.emptied }) (events : List Event) :
    d₀.AsBound (tried.report events).recover := by
  obtain ⟨-, -, -, -, -, -, -, hengine⟩ := probe_eq_ok hprobe
  have hsame : tried.engine.version = engine.version := by
    rw [← Engine.version_readied engine, ← hengine]
    exact hkept.version
  have hrecovered := hkept.recover events
  have hreadied : (tried.report events).recover.engine = tried.engine.readied := by
    rw [recover_eq]
    rfl
  refine ⟨hrecovered, ?_, ?_, ?_, ?_, ?_, ?_⟩
  · rw [hreadied, hengine, Engine.readied_eq, Engine.readied_eq, hsame]
  · rw [hreadied, Engine.read_version_readied, Engine.version_readied]
  · rw [hreadied, Engine.read_interruptMask_readied]
  · intro o hversion hmask
    rw [hreadied, Engine.get_readied_of_slot_ne _ hversion hmask]
  · rw [hrecovered.pool]
    exact (ready_of_probe hprobe).blank
  · rw [recover_eq]
    rfl

/-- **Nothing is left** of a request that was brought to `d` and failed, which leaves `after`. The
device is as it was bound, the engine was reset once, and it did no more than `FailedBy` says.
Whatever the device goes through later, its requests end as they would on the device `d₀` that was
just bound, with the same registers and the same writes, so that none of the failed request's writes
is among them. -/
structure CleanedUp (d₀ d : Device) (o : Order) (why : Rejection) (after : Device) : Prop where
  bound : d₀.AsBound after
  resets : after.engine.resets = d.engine.resets + 1
  failed : d.FailedBy o why after
  later : ∀ turns, ((d.serve o).1.live turns).2 = (d₀.live turns).2 ∧
    ((d.serve o).1.live turns).1.engine.registers = (d₀.live turns).1.engine.registers ∧
    ∃ new, ((d.serve o).1.live turns).1.engine.log = after.engine.log ++ new ∧
      (d₀.live turns).1.engine.log = d₀.engine.log ++ new

/-- **A failed request leaves the device as it was bound**, on every engine, after every history and
however it failed. If it did not compile, or could not be laid down, the engine was not started, and
nothing was written to it but the reset and the mask. If it failed at pass `k`, register by
register, the engine was started `k + 1` times, and no write of a later pass reached it. -/
theorem cleanedUp_of_request {turns : List Turn} (hprobe : probe config engine = .ok d₀)
    (hd : (d₀.live turns).1 = d) (h : d.request o = (after, .error (.rejected why))) :
    d₀.CleanedUp d o why after := by
  have hready := ready_of_probe hprobe
  have hlived : d₀.Kept d := hd ▸ kept_live hready turns
  have hpool : d.pool.Ready := hlived.pool ▸ hready
  -- the request failed because the attempt did
  obtain ⟨tried, hattempt⟩ : ∃ tried, d.attempt o = (tried, .error (.rejected why)) := by
    refine ⟨(d.attempt o).1, Prod.ext rfl ?_⟩
    rw [← snd_request, h]
  obtain ⟨_, events, hrequest, hafter, hserve⟩ := exists_serve_of_rejected hattempt
  obtain rfl : after = _ := congrArg Prod.fst (h.symm.trans hrequest)
  have hattempted := attempted hpool o
  rw [hattempt] at hattempted
  have hkept := hlived.trans (hattempted.kept hpool)
  have hbound : d₀.AsBound after := hafter ▸ asBound_recover hprobe hkept events
  have hreadied : after.engine = tried.engine.readied := by
    rw [hafter, recover_eq]
    rfl
  obtain ⟨hfailed, hresets⟩ := hattempted.failedBy hreadied
  refine ⟨hbound, hresets, hfailed, fun later => ?_⟩
  have hstep : InStep after.engine.log d₀.engine.log (d.serve o).1 d₀ := by
    rw [hserve]
    exact
      { compiler := hbound.kept.compiler
        mode := hbound.kept.mode
        pool := hbound.kept.pool
        timeout := hbound.kept.timeout
        due := by
          rw [line_of_probe hprobe]
          rfl
        engine :=
          { registers := hbound.registers
            version := hbound.kept.version
            hangs := hbound.kept.hangs
            fault := hbound.kept.fault
            log := ⟨[], (List.append_nil _).symm, (List.append_nil _).symm⟩ } }
  have hpool' : (d.serve o).1.pool.Ready := hstep.pool ▸ hready
  obtain ⟨hlater, hends⟩ := hstep.live hpool' later
  exact ⟨hends, hlater.engine.registers, hlater.engine.log⟩

/-- On an engine that hangs the request fails at its second pass. Before it there was a request that
did not compile, and an interrupt. -/
theorem cleanedUp_watchedVideo :
    ∃ d₀ d after, probe Config.default (.create .normal true none) = .ok d₀ ∧
      (d₀.live troubledTurns).1 = d ∧
      d.request watchedVideo = (after, .error (.rejected (.timeout 1000))) ∧
      after.engine.starts = 2 ∧ after.engine.resets = 3 ∧
      d₀.CleanedUp d watchedVideo (.timeout 1000) after := by
  obtain ⟨d₀, hprobe⟩ : ∃ d₀, probe Config.default (.create .normal true none) = .ok d₀ :=
    ⟨_, rfl⟩
  obtain ⟨d, hd⟩ : ∃ d, (d₀.live troubledTurns).1 = d := ⟨_, rfl⟩
  have hrun : (probe Config.default (.create .normal true none)).map (fun d₀ =>
      let returned := (d₀.live troubledTurns).1.request watchedVideo
      (returned.2, returned.1.engine.starts, returned.1.engine.resets)) =
        .ok (.error (.rejected (.timeout 1000)), 2, 3) := by decide +kernel
  rw [hprobe] at hrun
  simp only [Except.map, Except.ok.injEq, Prod.mk.injEq, hd] at hrun
  obtain ⟨hfails, hstarts, hresets⟩ := hrun
  have hreturned : d.request watchedVideo =
      ((d.request watchedVideo).1, .error (.rejected (.timeout 1000))) := Prod.ext rfl hfails
  exact ⟨d₀, d, _, hprobe, hd, hreturned, hstarts, hresets,
    cleanedUp_of_request hprobe hd hreturned⟩

end Device

end Blitter
