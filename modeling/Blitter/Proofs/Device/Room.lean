import Blitter.Proofs.Compiler.TurnedDown
import Blitter.Proofs.Device.Outcomes

/-!
# Room in the command buffers

A pass writes no register twice, and the engine has few enough of them that **every pass of every
program fits a command buffer of the default size** (`Compiler.Produces.fits_default`). A device
whose buffers are at least that long can therefore run out of buffers, but not out of room in one:
whatever it went through and whatever its engine does, a request never ends with a full buffer, and
a program can be laid down exactly when it has no more passes than there are buffers
(`Device.fits_and_loads_of_defaultWords`).

A rejection comes from compiling, from laying the passes down or from waiting. The first blames the
request (`Compiler.kind_of_compile`) and the last the engine (`WaitFails.kind`), so that a full
buffer could be found only between them.
-/

namespace Blitter

open CommandBuffer

/-- The engine has **fewer registers than a buffer has pairs**, the trailer left aside. -/
theorem Register.length_all_fits (g : Generation) :
    2 * (Register.all g).length + trailerWords ≤ Config.default.bufferWords.toNat := by
  cases g <;> decide +kernel

namespace Compiler

variable {c : Compiler} {p : Program} {job : Job} {why : Rejection}

/-- Every pass **fits a buffer of the default size**, with its trailer. -/
theorem Produces.fits_default (h : c.Produces p) {pass : Pass} (hpass : pass ∈ p.passes) :
    2 * pass.writes.length + trailerWords ≤ Config.default.bufferWords.toNat := by
  have hle := (h.isComplete hpass).length_le
  have hall := Register.length_all_fits c.generation
  omega

/-- A job that does not compile **cannot be expressed**. -/
theorem kind_of_compile (h : c.compile job = .error (.rejected why)) :
    why.kind = .invalidConfiguration := by
  cases job with
  | compose r => exact kind_of_compose h
  | fill f output => exact kind_of_fill h
  | copy k => exact kind_of_copy h

end Compiler

/-- A wait that fails is a matter of the engine and **of its time**. -/
theorem WaitFails.kind {timeout : UInt64} {why : Rejection} (h : WaitFails timeout why) :
    why.kind = .hardwareTimeout := by
  rcases h with rfl | ⟨_, rfl⟩
  · rfl
  · rfl

namespace Device

variable {config : Config} {engine : Engine} {d₀ d : Device} {p : Program}

section Probe

variable (hprobe : probe config engine = .ok d₀)
  (hwords : Config.default.bufferWords ≤ config.bufferWords)
include hprobe hwords

/-- A program can be laid down in buffers of at least the default size exactly when **there are
enough of them**. -/
theorem exists_load_iff_of_defaultWords {c : Compiler} (h : c.Produces p) :
    (∃ pool, d₀.pool.load p.passes = (pool, .ok ())) ↔
      p.passes.length ≤ config.bufferCount.toNat := by
  obtain ⟨hcount, hcapacity⟩ := size_of_probe hprobe
  have hwords : Config.default.bufferWords.toNat ≤ config.bufferWords.toNat := hwords
  rw [(ready_of_probe hprobe).exists_load_iff, hcount, hcapacity]
  refine and_iff_left fun pass hpass => ?_
  have hfits := h.fits_default hpass
  omega

/-- Where a program finds no room, the buffers were **too few**. -/
theorem tooManyPasses_of_load {c : Compiler} (h : c.Produces p) {e : Failure}
    (hload : (d₀.pool.load p.passes).2 = .error e) :
    e = .rejected (.tooManyPasses p.passes.length config.bufferCount.toNat) := by
  have hwords : Config.default.bufferWords.toNat ≤ config.bufferWords.toNat := hwords
  rcases lacksRoom_of_load hprobe hload with ⟨-, he⟩ | ⟨i, pass, hpass, hfull, -⟩
  · exact he
  · have hfits := h.fits_default (List.mem_of_getElem? hpass)
    have htrailer : trailerWords = 6 := rfl
    omega

/-- **No request ends with a full buffer**, whatever the device went through before. -/
theorem serve_ne_bufferFull {turns : List Turn} (hd : (d₀.live turns).1 = d) (o : Order)
    (id needed remaining : Nat) :
    (d.serve o).2 ≠ .error (.rejected (.bufferFull id needed remaining)) := by
  have hready := ready_of_probe hprobe
  have hkept : d₀.Kept d := hd ▸ kept_live hready turns
  have hpool : d.pool.Ready := hkept.pool ▸ hready
  intro hfull
  have hattempted := attempted hpool o
  rw [snd_serve] at hfull
  rw [hfull] at hattempted
  cases hattempted with
  | notCompiled hcompile _ => exact absurd (Compiler.kind_of_compile hcompile) nofun
  | notLaid hcompile _ hload _ =>
    rw [hkept.pool] at hload
    have he := tooManyPasses_of_load hprobe hwords (Compiler.produces_of_compile hcompile) hload
    cases he
  | directFailed _ _ hwait _ _ => exact absurd hwait.kind nofun
  | chainFailed _ _ _ hwait _ => exact absurd hwait.kind nofun

end Probe

/-- **A command buffer of the default size takes every pass.** The passes of every program that a
compiler of any generation, with any limits and in either mode, produces for a composition, a fill
or a copy leave room for the trailer in a buffer of the default size. So on a device whose buffers
are at least that long, bound to any engine and after any history of requests and interrupts, no
request ends with a full buffer, and the program of every request that compiles can be laid down if
and only if there are as many buffers as it has passes. -/
theorem fits_and_loads_of_defaultWords :
    (∀ (c : Compiler) (p : Program), c.Produces p → ∀ pass ∈ p.passes,
      2 * pass.writes.length + trailerWords ≤ Config.default.bufferWords.toNat) ∧
    ∀ (config : Config) (engine : Engine) (d₀ : Device), probe config engine = .ok d₀ →
      Config.default.bufferWords ≤ config.bufferWords → ∀ (turns : List Turn) (o : Order),
        (∀ id needed remaining, ((d₀.live turns).1.serve o).2 ≠
          .error (.rejected (.bufferFull id needed remaining))) ∧
        ∀ p, (d₀.live turns).1.compiler.compile o.job = .ok p →
          ((∃ pool, (d₀.live turns).1.pool.load p.passes = (pool, .ok ())) ↔
            p.passes.length ≤ config.bufferCount.toNat) := by
  refine ⟨fun c p h pass hpass => h.fits_default hpass, ?_⟩
  intro config engine d₀ hprobe hwords turns o
  refine ⟨serve_ne_bufferFull hprobe hwords rfl o, fun p hcompile => ?_⟩
  have hkept : d₀.Kept (d₀.live turns).1 := kept_live (ready_of_probe hprobe) turns
  rw [hkept.pool]
  exact exists_load_iff_of_defaultWords hprobe hwords (Compiler.produces_of_compile hcompile)

/-- After a request that failed, both passes of a mirrored layer of video can be laid down, and
neither finds its buffer full. -/
theorem fits_and_loads_of_defaultWords_watchedVideo :
    ∃ d₀ p pool, probe { Config.default with mode := .chained } (.create .normal false none) =
        .ok d₀ ∧
      d₀.mode = .chained ∧
      (d₀.live troubledTurns).1.compiler.compile watchedVideo.job = .ok p ∧ p.passes.length = 2 ∧
      (∀ pass ∈ p.passes, 2 * pass.writes.length + trailerWords ≤ 4096) ∧
      (d₀.live troubledTurns).1.pool.load p.passes = (pool, .ok ()) ∧
      ∀ id needed remaining, ((d₀.live troubledTurns).1.serve watchedVideo).2 ≠
        .error (.rejected (.bufferFull id needed remaining)) := by
  obtain ⟨d₀, hprobe⟩ : ∃ d₀, probe { Config.default with mode := .chained }
      (.create .normal false none) = .ok d₀ := ⟨_, rfl⟩
  have hrun : (probe { Config.default with mode := .chained } (.create .normal false none)).map
      (fun d₀ => (d₀.mode, ((d₀.live troubledTurns).1.compiler.compile watchedVideo.job).map
        fun p => p.passes.length)) = .ok (.chained, .ok 2) := by
    decide +kernel
  rw [hprobe] at hrun
  simp only [Except.map, Except.ok.injEq, Prod.mk.injEq] at hrun
  obtain ⟨hmode, hcompiles⟩ := hrun
  obtain ⟨p, hcompile, hlength⟩ := Outcome.map_eq_ok_iff.mp hcompiles
  obtain ⟨hfits, hdevice⟩ := fits_and_loads_of_defaultWords
  obtain ⟨hfull, hloads⟩ := hdevice _ _ d₀ hprobe (by decide) troubledTurns watchedVideo
  obtain ⟨pool, hpool⟩ := (hloads p hcompile).mpr (by rw [hlength]; decide)
  exact ⟨d₀, p, pool, hprobe, hmode, hcompile, hlength,
    hfits _ p (Compiler.produces_of_compile hcompile), hpool, hfull⟩

end Device

end Blitter
