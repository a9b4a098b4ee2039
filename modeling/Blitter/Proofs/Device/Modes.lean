import Blitter.Proofs.Compiler.Modes
import Blitter.Proofs.Device.Requests

/-!
# Both ways of writing drive the engine alike

Two devices that are bound to the same engine, one to write register by register and one to chain
command buffers, are given the same requests. As long as the requests succeed, the engines stay
`Alike`: they hold the same, and programs reach them with the same writes in the same order, but
for what has to do with the way of writing itself (`Device.alike_of_carryOut`).

A request keeps devices `Paired` because it compiles to programs that are alike, and because a
device that succeeds has run its program, no matter how (`Device.ran_of_serve`).
-/

namespace Blitter

/-- Compilers for the same engine compile a job to programs that are **alike**. -/
theorem Compiler.SameEngine.alike_of_compile {c c' : Compiler} (h : c.SameEngine c') {job : Job}
    {p p' : Program} (hp : c.compile job = .ok p) (hp' : c'.compile job = .ok p') :
    p.Alike p' := by
  cases job with
  | compose r => exact h.alike_of_compose hp hp'
  | fill f output =>
    have hsame : c'.fill f output = .ok p := (h.fill f output).symm.trans hp
    obtain rfl : p = p' := Outcome.eq_of_eq_ok hsame hp'
    exact .refl p
  | copy k =>
    have hsame : c'.copy k = .ok p := (h.copy k).symm.trans hp
    obtain rfl : p = p' := Outcome.eq_of_eq_ok hsame hp'
    exact .refl p

namespace Device

/-- Devices that may differ in **how they write**: both can be used, they compile for the same
engine, and their engines are alike. -/
structure Paired (d k : Device) : Prop where
  compilers : d.compiler.SameEngine k.compiler
  left : d.Settled
  right : k.Settled
  engines : d.engine.Alike k.engine

variable {d d' k k' : Device}

/-- A request that succeeds on both devices **keeps them paired**. -/
theorem Paired.serve (h : d.Paired k) {o o' : Order} (hjob : o.job = o'.job)
    (hd : d.serve o = (d', .ok ())) (hk : k.serve o' = (k', .ok ())) : d'.Paired k' := by
  obtain ⟨p, hp, hran⟩ := ran_of_serve h.left hd
  obtain ⟨p', hp', hran'⟩ := ran_of_serve h.right hk
  rw [← hjob] at hp'
  have hwrites := map_masked_flatMap_writes (h.compilers.alike_of_compile hp hp')
  exact
    { compilers := by
        rw [hran.compiler, hran'.compiler]
        exact h.compilers
      left := hran.settled h.left
      right := hran'.settled h.right
      engines := hran.engine.alike hran'.engine hwrites h.engines }

/-- So do all requests of a sequence, **one after the other**. -/
theorem Paired.carryOut (h : d.Paired k) {os os' : List Order} {ds ks : List Device}
    (hjobs : os.map Order.job = os'.map Order.job) (hd : d.carryOut os = .ok ds)
    (hk : k.carryOut os' = .ok ks) : List.Forall₂ Paired ds ks := by
  induction os generalizing d k os' ds ks with
  | nil =>
    obtain rfl := List.map_eq_nil_iff.mp hjobs.symm
    cases hd
    cases hk
    exact .nil
  | cons o os ih =>
    obtain ⟨o', os', rfl, hjob, hjobs⟩ := List.map_eq_cons_iff.mp hjobs.symm
    obtain ⟨d', ds, hserve, hds, rfl⟩ := carryOut_cons_eq_ok_iff.mp hd
    obtain ⟨k', ks, hserve', hks, rfl⟩ := carryOut_cons_eq_ok_iff.mp hk
    have hnext := h.serve hjob.symm hserve hserve'
    exact .cons hnext (ih hnext hjobs.symm hds hks)

section Probe

variable {config : Config} {engine : Engine} (hhangs : engine.hangs = false)
  (hfault : engine.fault = none)
include hhangs hfault

/-- Devices whose configurations differ in nothing but the way of writing **start out paired**. -/
theorem paired_of_probe {mode mode' : WriteMode}
    (hd : probe { config with mode } engine = .ok d)
    (hk : probe { config with mode := mode' } engine = .ok k) : d.Paired k := by
  obtain ⟨g, -, hg, -, hcompiler, -, -, hengine⟩ := probe_eq_ok hd
  obtain ⟨g', -, hg', -, hcompiler', -, -, hengine'⟩ := probe_eq_ok hk
  obtain rfl : g = g' := Option.some.inj (hg.symm.trans hg')
  exact
    { compilers := by
        rw [hcompiler, hcompiler']
        exact ⟨rfl, rfl⟩
      left := settled_of_probe hd hhangs hfault
      right := settled_of_probe hk hhangs hfault
      engines := by
        rw [hengine, hengine']
        exact ⟨.refl _, rfl⟩ }

/-- **Both ways of writing drive an engine alike.** An engine that neither hangs nor faults is
given requests by a device that writes register by register; an engine like it is given the same
requests by one that chains command buffers. If all of them succeed on both, then after each the
registers of the two agree, except the control register, those of the command chain and those of
the read channels; and above the registers of the interface and outside the command chain, the
same writes have been made in the same order, but for the values written to the read channels.
Which interrupts arrive from outside, and when, does not matter. On an engine that cannot replay
commands both devices write register by register, and the same holds. -/
theorem alike_of_carryOut (hd : probe { config with mode := .direct } engine = .ok d)
    (hk : probe { config with mode := .chained } engine = .ok k) {os os' : List Order}
    (hjobs : os.map Order.job = os'.map Order.job) {ds ks : List Device}
    (hds : d.carryOut os = .ok ds) (hks : k.carryOut os' = .ok ks) :
    List.Forall₂ (fun d' k' => d'.engine.Alike k'.engine) ds ks :=
  ((paired_of_probe hhangs hfault hd hk).carryOut hjobs hds hks).imp fun _ _ h => h.engines

end Probe

/-- A mirrored layer of video, which takes several passes, and then a copy. -/
def videoAndCopy : List Order :=
  [ ⟨.compose (Compiler.wideVideo .hFlip ⟨0, 0, 512, 256⟩), []⟩,
    ⟨.copy { src := 0x1000, width := 64, height := 4, srcStride := 64, dst := 0x2000
             dstStride := 128 }, [(0, Status.frameDone)]⟩ ]

/-- As configured by default, a device carries out both requests either way. -/
theorem exists_carryOut_videoAndCopy {mode : WriteMode}
    (hd : probe { Config.default with mode } (.create .normal false none) = .ok d) :
    d.mode = mode ∧ ∃ ds, d.carryOut videoAndCopy = .ok ds := by
  obtain ⟨g, -, hg, -, hcompiler, hmode, -, -⟩ := probe_eq_ok hd
  have hnormal : Generation.ofCompatible? Config.default.compatible = some .normal := by decide
  obtain rfl : g = .normal := Option.some.inj (hg.symm.trans hnormal)
  have hsettled := settled_of_probe hd rfl rfl
  obtain ⟨hcount, hcapacity⟩ := size_of_probe hd
  have hroom : (Register.all d.compiler.generation).length * 2 + CommandBuffer.trailerWords ≤
      d.pool.capacity := by
    have hdefault : (Register.all .normal).length * 2 + CommandBuffer.trailerWords ≤
        Config.default.bufferWords.toNat := by decide +kernel
    rw [hcompiler, hcapacity]
    exact hdefault
  have hcompiles : ∀ o ∈ videoAndCopy, ∃ p, d.compiler.compile o.job = .ok p ∧
      p.passes ≠ [] ∧ p.passes.length ≤ 16 := by
    rw [hcompiler]
    unfold videoAndCopy
    rw [List.forall_mem_cons, List.forall_mem_singleton]
    cases mode
    all_goals
      exact ⟨⟨_, rfl, List.cons_ne_nil _ _, by decide⟩, ⟨_, rfl, List.cons_ne_nil _ _, by decide⟩⟩
  refine ⟨hmode, exists_carryOut_of_canDo hsettled fun o ho => ?_⟩
  obtain ⟨p, hp, hne, hlength⟩ := hcompiles o ho
  refine canDo_of_compile hsettled hp hne ?_ hroom
  rw [hcount]
  exact hlength

/-- Both requests, the second with an interrupt that arrives too early, leave the engines of the
two devices alike. -/
theorem alike_of_carryOut_videoAndCopy :
    ∃ d k ds ks,
      probe { Config.default with mode := .direct } (.create .normal false none) = .ok d ∧
      probe { Config.default with mode := .chained } (.create .normal false none) = .ok k ∧
      d.mode = .direct ∧ k.mode = .chained ∧
      d.carryOut videoAndCopy = .ok ds ∧ k.carryOut videoAndCopy = .ok ks ∧
      List.Forall₂ (fun d' k' => d'.engine.Alike k'.engine) ds ks := by
  obtain ⟨d, hd⟩ : ∃ d, probe { Config.default with mode := .direct }
      (.create .normal false none) = .ok d := ⟨_, rfl⟩
  obtain ⟨k, hk⟩ : ∃ k, probe { Config.default with mode := .chained }
      (.create .normal false none) = .ok k := ⟨_, rfl⟩
  obtain ⟨hdirect, ds, hds⟩ := exists_carryOut_videoAndCopy hd
  obtain ⟨hchained, ks, hks⟩ := exists_carryOut_videoAndCopy hk
  exact ⟨d, k, ds, ks, hd, hk, hdirect, hchained, hds, hks,
    alike_of_carryOut rfl rfl hd hk rfl hds hks⟩

end Device

end Blitter
