import Blitter.Proofs.Compiler.Frames
import Blitter.Proofs.Wiring

/-!
# Checks that strips pass

Two checks are made of a frame: that some channel has something to fetch, and that both layers of
the operator are there. A strip that no layer reaches keeps a channel all the same, and where a
layer of the operator does not reach, the strip does without the operator. Both are right for a
strip. But a composition that is cut is checked by its strips alone, so that it passes both checks
even where the request as a whole should not: **an operator whose layers are missing is dropped**
(`compose_eq_ok_iff_of_not_hasOperands`), and **a picture of nothing is composed**
(`compose_of_isEmpty`). A composition in one piece is turned down in either case.
-/

namespace Blitter

/-- Both layers of the request's operator are among its enabled layers. -/
def Request.HasOperands (r : Request) : Prop :=
  ∀ pd ∈ r.porterDuff,
    (∃ l ∈ r.enabledLayers, l.pipe = pd.srcPipe) ∧ ∃ l ∈ r.enabledLayers, l.pipe = pd.dstPipe

/-- The request **without its operator**. -/
def Request.withoutOperator (r : Request) : Request := { r with porterDuff := none }

/-- Nothing is to be seen: there is no enabled layer and no background. -/
structure Request.IsEmpty (r : Request) : Prop where
  layers : r.enabledLayers = []
  background : r.background = none

namespace Compiler

variable {c : Compiler} {r : Request} {target : Target} {sources : List Source}

/-! ### Operators -/

/-- An operator is kept where both of its layers are. -/
theorem mem_operatorFor_iff {o : Option PorterDuff} {pd : PorterDuff} :
    pd ∈ operatorFor o sources ↔
      pd ∈ o ∧ (∃ s ∈ sources, s.layer.pipe = pd.srcPipe) ∧
        ∃ s ∈ sources, s.layer.pipe = pd.dstPipe := by
  simp only [operatorFor, Option.mem_filter_iff, List.all_cons, List.all_nil, Bool.and_true,
    Bool.and_eq_true, List.any_eq_true, beq_iff_eq]

/-- A composition in one piece has **the layers of its operator**. -/
theorem hasOperands_of_composeFrame (hs : sources.map Source.layer = r.enabledLayers)
    {commandId : UInt32} {isStrip : Bool} {reserved : Bool} {f : Frame}
    (h : c.composeFrame commandId isStrip sources target r.background r.porterDuff reserved =
      .ok f) : r.HasOperands := by
  obtain ⟨_, _, wiring, -, -, hw, -⟩ := composeFrame_eq_ok_iff.mp h
  rw [hs] at hw
  intro pd hpd
  exact ⟨Wiring.exists_pipe_of_ofLayers hw hpd (.inl rfl),
    Wiring.exists_pipe_of_ofLayers hw hpd (.inr rfl)⟩

/-- A layer of a job is on the pipe of an enabled layer. -/
theorem exists_pipe_of_mem_plan {jobs : List StripJob} (ht : Target.ofOutput r.output = .ok target)
    (hs : c.resolveLayers r = .ok sources) (hp : plan sources target c.limits = .ok jobs)
    {job : StripJob} (hj : job ∈ jobs) {l : Layer} (hl : l ∈ job.layers) :
    ∃ k ∈ r.enabledLayers, k.pipe = l.pipe := by
  obtain ⟨hlayers, -, hadmitted⟩ := admitted_of_resolveLayers ht hs
  obtain ⟨source, hm, hclip⟩ := (Strip.mem_layers_iff (job_of_mem_plan hp hj).2).mp hl
  have hto := Source.clipsTo_of_clip (within_of_mem_plan hp hj) (hadmitted source hm).columnsFit
    hclip
  refine ⟨source.layer, hlayers ▸ List.mem_map_of_mem hm, ?_⟩
  rw [hto.rest]

/-- A strip of a request that **lacks a layer of its operator** does without it. -/
theorem stripFrame_eq_withoutOperator {jobs : List StripJob}
    (ht : Target.ofOutput r.output = .ok target) (hs : c.resolveLayers r = .ok sources)
    (hp : plan sources target c.limits = .ok jobs) (h : ¬ r.HasOperands) {job : StripJob}
    (hj : job ∈ jobs) :
    c.stripFrame r target job = c.stripFrame r.withoutOperator target job := by
  cases hfound : job.layers.mapM Source.ofLayer with
  | error e => simp only [stripFrame, hfound, bind, Except.bind]
  | ok found =>
    have hnone : operatorFor r.porterDuff found = none := by
      rw [Option.eq_none_iff_forall_not_mem]
      intro pd hpd
      obtain ⟨hpd, hsrc, hdst⟩ := mem_operatorFor_iff.mp hpd
      -- what is found in the strip comes from enabled layers
      have henabled : ∀ pipe, (∃ s ∈ found, s.layer.pipe = pipe) →
          ∃ l ∈ r.enabledLayers, l.pipe = pipe := by
        rintro pipe ⟨s, hm, rfl⟩
        obtain ⟨l, hl, hof⟩ := (Outcome.mem_mapM_iff hfound).mp hm
        obtain ⟨rfl, -⟩ := Source.ofLayer_eq_ok_iff.mp hof
        exact exists_pipe_of_mem_plan ht hs hp hj hl
      refine h fun pd' hpd' => ?_
      obtain rfl := Option.mem_unique hpd hpd'
      exact ⟨henabled _ hsrc, henabled _ hdst⟩
    simp only [stripFrame, hfound, bind, Except.bind, hnone]
    rfl

/-- Without a layer of its operator a request is cut as it would be **without the operator**. -/
theorem split_cut_iff_withoutOperator (h : ¬ r.HasOperands) {s : Split} :
    c.split r = .ok s ∧ s.isCut = true ↔ c.split r.withoutOperator = .ok s ∧ s.isCut = true := by
  rw [split_cut_iff, split_cut_iff]
  refine exists_congr fun target => exists_congr fun sources => exists_congr fun jobs => ?_
  refine and_congr_right fun ht => and_congr_right fun hs => and_congr_right fun _ =>
    and_congr_right fun hp => ?_
  rw [List.map_congr_left fun job hj => stripFrame_eq_withoutOperator ht hs hp h hj]
  rfl

/-- **What becomes of an operator whose layers are missing**: in one piece the composition is
turned down, and in strips the operator is dropped. -/
theorem compose_eq_ok_iff_of_not_hasOperands (h : ¬ r.HasOperands) {program : Program} :
    c.compose r = .ok program ↔
      program.inStrips = true ∧ c.compose r.withoutOperator = .ok program := by
  have hcut : ∀ {s frames}, c.split r = .ok s → s.frames = .ok frames → s.isCut = true := by
    intro s frames hs hframes
    by_contra hwhole
    obtain ⟨target, sources, ht, hsources, -, rfl⟩ :=
      split_whole_iff.mp ⟨hs, Bool.eq_false_iff.mpr hwhole⟩
    obtain ⟨f, hf, -⟩ := Outcome.bind_eq_ok_iff.mp hframes
    exact h (hasOperands_of_composeFrame (admitted_of_resolveLayers ht hsources).1 hf)
  rw [compose_eq_ok_iff, compose_eq_ok_iff]
  constructor
  · rintro ⟨s, frames, hs, hframes, rfl⟩
    obtain ⟨hs', -⟩ := (split_cut_iff_withoutOperator h).mp ⟨hs, hcut hs hframes⟩
    exact ⟨hcut hs hframes, s, frames, hs', hframes, rfl⟩
  · rintro ⟨hstrips, s, frames, hs', hframes, rfl⟩
    obtain ⟨hs, -⟩ := (split_cut_iff_withoutOperator h).mpr ⟨hs', hstrips⟩
    exact ⟨s, frames, hs, hframes, rfl⟩

/-- A picture of 64 by 64 pixels with a layer on pipe 0, and an operator that asks for another
layer on pipe 1. -/
def loneOperand (rotation : Rotation) : Request :=
  { layers := [
      { format := .ofLetters 'A' 'R' '2' '4', src := ⟨0, 0, 64, 64⟩, dst := ⟨0, 0, 64, 64⟩
        pipe := 0, address := forPlanes 0x1000 0 0, stride := forPlanes 256 0 0 }]
    output :=
      { format := .ofLetters 'A' 'R' '2' '4', width := 64, height := 64, rotation
        address := forPlanes 0x80000 0 0, stride := forPlanes 256 0 0 }
    porterDuff := some ⟨0, 1, .srcOver⟩ }

/-- A layer that nothing names is missing. -/
theorem not_hasOperands_loneOperand (rotation : Rotation) :
    ¬ (loneOperand rotation).HasOperands := by
  intro h
  obtain ⟨-, l, hl, hpipe⟩ := h _ rfl
  obtain rfl := List.mem_singleton.mp hl
  cases hpipe

/-- Turned, it is composed **as if no operator had been asked for**. -/
theorem compose_loneOperand_rot90 :
    ∃ program, ¬ (loneOperand .rot90).HasOperands ∧
      (Compiler.ofGeneration .normal).compose (loneOperand .rot90) = .ok program ∧
      program.inStrips = true ∧
      (Compiler.ofGeneration .normal).compose (loneOperand .rot90).withoutOperator =
        .ok program := by
  have hc : (Compiler.ofGeneration .normal).compose (loneOperand .rot90) = .ok _ := rfl
  obtain ⟨hstrips, hwithout⟩ :=
    (compose_eq_ok_iff_of_not_hasOperands (not_hasOperands_loneOperand .rot90)).mp hc
  exact ⟨_, not_hasOperands_loneOperand .rot90, hc, hstrips, hwithout⟩

/-- **An operator can lack a layer**: whether that is turned down depends on the rotation of the
output. -/
theorem exists_compose_of_not_hasOperands :
    ∃ program, ¬ (loneOperand .rot90).HasOperands ∧
      (Compiler.ofGeneration .normal).compose (loneOperand .rot90) = .ok program ∧
      (Compiler.ofGeneration .normal).compose (loneOperand .none) =
        rejectGeometry (.operandNotEnabled 1) :=
  ⟨_, not_hasOperands_loneOperand .rot90, rfl, rfl⟩

/-! ### Empty pictures -/

/-- A read channel that is kept for the background or the commands is **enough to work with**. -/
theorem exists_allocate_reserved (g : Generation) :
    ∃ read, allocate (g.readWeights [] true) g.readPools false = .ok read := by
  cases g <;> exact ⟨_, rfl⟩

/-- Without layers, and with no channel kept, there is nothing to fetch through. -/
theorem allocate_readWeights_nil (g : Generation) :
    allocate (g.readWeights [] false) g.readPools false = reject .noActiveChannel := by
  cases g <;> rfl

/-- Every output has a channel to be written through. -/
theorem exists_writeAllocation (c : Compiler) (target : Target) :
    ∃ write, c.writeAllocation target = .ok write := by
  unfold writeAllocation Generation.writeWeights PixelLayout.planes
  cases c.generation <;> cases target.layout.planarity <;> exact ⟨_, rfl⟩

/-- A frame without layers comes about **if a channel is kept**. -/
theorem exists_composeFrame_reserved (commandId : UInt32) (isStrip : Bool) (target : Target)
    (background : Option UInt32) :
    ∃ f, c.composeFrame commandId isStrip [] target background none true = .ok f := by
  obtain ⟨read, hread⟩ := exists_allocate_reserved c.generation
  obtain ⟨write, hwrite⟩ := exists_writeAllocation c target
  exact ⟨_, composeFrame_eq_ok_iff.mpr ⟨read, write, _, hread, hwrite, rfl, rfl⟩⟩

/-- A strip that no layer reaches comes about all the same. -/
theorem exists_stripFrame_of_layers_eq_nil {job : StripJob} (hjob : job.layers = []) :
    ∃ f, c.stripFrame r target job = .ok f := by
  have hfound : job.layers.mapM Source.ofLayer = .ok [] := by
    rw [hjob]
    rfl
  have hnone : operatorFor r.porterDuff [] = none := by
    rw [Option.eq_none_iff_forall_not_mem]
    intro pd hpd
    obtain ⟨-, ⟨s, hs, -⟩, -⟩ := mem_operatorFor_iff.mp hpd
    cases hs
  have hreserved : (c.reserves r || ([] : List Source).isEmpty) = true := Bool.or_true _
  obtain ⟨f, hf⟩ := exists_composeFrame_reserved (c := c) (UInt32.ofNat job.strip.index) true
    { target with output := job.output } r.background
  refine ⟨f, Outcome.bind_eq_ok_iff.mpr ⟨[], hfound, ?_⟩⟩
  rw [hnone, hreserved]
  exact hf

/-- What fetches nothing is cut if **its output is rotated**. -/
theorem needsStrips_nil_iff (ht : Target.ofOutput r.output = .ok target) :
    needsStrips [] target c.limits = .ok true ↔
      r.output.rotation ≠ .none ∧ target.layout.isPackedHalfChroma = false := by
  obtain ⟨-, -, houtput, -⟩ := Target.ofOutput_eq_ok_iff.mp ht
  rw [needsStrips_eq_ok_iff, houtput]
  simp only [List.any_nil, Bool.or_false, List.not_mem_nil, false_implies, implies_true, and_true,
    eq_comm (a := true), bne_iff_ne]
  constructor
  · rintro ⟨hpacked, hrotation⟩
    exact ⟨hrotation, hpacked.resolve_left hrotation⟩
  · rintro ⟨hrotation, hpacked⟩
    exact ⟨.inr hpacked, hrotation⟩

/-- What fetches nothing and is not turned is **in one piece**. -/
theorem needsStrips_nil_of_rotation_eq_none {limits : StripLimits}
    (hrotation : target.output.rotation = .none) : needsStrips [] target limits = .ok false := by
  rw [needsStrips_eq_ok_iff, hrotation]
  exact ⟨.inl rfl, rfl, fun _ h => absurd h List.not_mem_nil⟩

section Empty

variable (hr : r.IsEmpty)
include hr

theorem resolveLayers_of_isEmpty : c.resolveLayers r = .ok [] := by
  rw [resolveLayers, hr.layers]
  rfl

/-- An empty composition in one piece **has no channel to work through**. -/
theorem compose_of_isEmpty_of_rotation_eq_none (hc : c.replays = false)
    (ht : Target.ofOutput r.output = .ok target) (hrotation : r.output.rotation = .none) :
    c.compose r = reject .noActiveChannel := by
  have hidle : c.reserves r = false := by
    rw [reserves, hc, hr.background]
    rfl
  have hn : needsStrips [] target c.limits = .ok false := by
    obtain ⟨-, -, houtput, -⟩ := Target.ofOutput_eq_ok_iff.mp ht
    exact needsStrips_nil_of_rotation_eq_none (houtput ▸ hrotation)
  have hframe : c.composeFrame 0 false [] target r.background r.porterDuff (c.reserves r) =
      reject .noActiveChannel := by
    rw [composeFrame, hidle, allocate_readWeights_nil]
    rfl
  obtain ⟨hs, -⟩ :=
    split_whole_iff.mpr ⟨target, [], ht, resolveLayers_of_isEmpty hr, hn, rfl⟩
  rw [compose, hs, hframe]
  rfl

/-- A turned picture of nothing **is composed** if its strips can be cut. -/
theorem exists_compose_of_plan_nil (ht : Target.ofOutput r.output = .ok target)
    (hrotation : r.output.rotation ≠ .none) (hpacked : target.layout.isPackedHalfChroma = false)
    {jobs : List StripJob} (hp : plan [] target c.limits = .ok jobs) :
    ∃ program, c.compose r = .ok program := by
  have hn := (needsStrips_nil_iff (c := c) ht).mpr ⟨hrotation, hpacked⟩
  obtain ⟨hs, -⟩ :=
    split_cut_iff.mpr ⟨target, [], jobs, ht, resolveLayers_of_isEmpty hr, hn, hp, rfl⟩
  -- no layer reaches any strip
  have hlayers : ∀ job ∈ jobs, job.layers = [] := by
    intro job hj
    rw [List.eq_nil_iff_forall_not_mem]
    intro l hl
    obtain ⟨source, hm, -⟩ := (Strip.mem_layers_iff (job_of_mem_plan hp hj).2).mp hl
    cases hm
  have hstrips : ∀ job ∈ jobs, ∃ f, c.stripFrame r target job = .ok f := fun job hj =>
    exists_stripFrame_of_layers_eq_nil (hlayers job hj)
  obtain ⟨frames, hframes⟩ := Outcome.exists_mapM_eq_ok hstrips
  refine ⟨_, compose_eq_ok_iff.mpr ⟨_, frames, hs, ?_, rfl⟩⟩
  rw [Split.frames, List.mapM_map]
  exact hframes

/-- **What becomes of a picture of nothing.** In one piece it is turned down, since no channel has
anything to do. With a rotated output it is composed, if only the strips can be cut: each strip
keeps a channel for commands or a background that are not there. -/
theorem compose_of_isEmpty (hc : c.replays = false) :
    (∀ target, Target.ofOutput r.output = .ok target → r.output.rotation = .none →
      c.compose r = reject .noActiveChannel) ∧
    ((∃ program, c.compose r = .ok program) ↔ r.output.rotation ≠ .none ∧ ∃ target jobs,
      Target.ofOutput r.output = .ok target ∧ target.layout.isPackedHalfChroma = false ∧
        plan [] target c.limits = .ok jobs) := by
  refine ⟨fun target ht => compose_of_isEmpty_of_rotation_eq_none hr hc ht, ?_⟩
  constructor
  · rintro ⟨program, h⟩
    obtain ⟨s, frames, hs, hframes, -⟩ := compose_eq_ok_iff.mp h
    cases hcut : s.isCut with
    | false =>
      -- in one piece it would have been turned down
      obtain ⟨target, sources, ht, hsources, hn, -⟩ := split_whole_iff.mp ⟨hs, hcut⟩
      rw [resolveLayers_of_isEmpty hr] at hsources
      cases hsources
      obtain ⟨-, hrotation, -⟩ := needsStrips_eq_ok_iff.mp hn
      obtain ⟨-, -, houtput, -⟩ := Target.ofOutput_eq_ok_iff.mp ht
      have hnone : r.output.rotation = .none := by
        rw [houtput, List.any_nil, Bool.or_false, eq_comm, bne_eq_false_iff_eq] at hrotation
        exact hrotation
      rw [compose_of_isEmpty_of_rotation_eq_none hr hc ht hnone] at h
      exact absurd h reject_ne_ok
    | true =>
      obtain ⟨target, sources, jobs, ht, hsources, hn, hp, -⟩ := split_cut_iff.mp ⟨hs, hcut⟩
      rw [resolveLayers_of_isEmpty hr] at hsources
      cases hsources
      obtain ⟨hrotation, hpacked⟩ := (needsStrips_nil_iff ht).mp hn
      exact ⟨hrotation, target, jobs, ht, hpacked, hp⟩
  · rintro ⟨hrotation, target, jobs, ht, hpacked, hp⟩
    exact exists_compose_of_plan_nil hr ht hrotation hpacked hp

end Empty

/-- Nothing on a picture of 64 by 64 pixels. -/
def nothing (rotation : Rotation) : Request :=
  { output :=
      { format := .ofLetters 'A' 'R' '2' '4', width := 64, height := 64, rotation
        address := forPlanes 0x80000 0 0, stride := forPlanes 256 0 0 } }

theorem isEmpty_nothing (rotation : Rotation) : (nothing rotation).IsEmpty := ⟨rfl, rfl⟩

/-- Nothing is **composed where it is turned** and turned down where it is not. -/
theorem compose_nothing :
    (Compiler.ofGeneration .normal).replays = false ∧ (nothing .rot90).IsEmpty ∧
      (∃ program, (Compiler.ofGeneration .normal).compose (nothing .rot90) = .ok program) ∧
      (Compiler.ofGeneration .normal).compose (nothing .none) = reject .noActiveChannel := by
  refine ⟨rfl, isEmpty_nothing .rot90, ?_, ?_⟩
  · exact (compose_of_isEmpty (isEmpty_nothing .rot90) rfl).2.mpr
      ⟨by decide, _, _, rfl, rfl, rfl⟩
  · exact (compose_of_isEmpty (isEmpty_nothing .none) rfl).1 _ rfl rfl

/-- **An empty picture can be composed**: this one in a single strip. -/
theorem exists_compose_of_isEmpty :
    ∃ program, (nothing .rot90).IsEmpty ∧
      (Compiler.ofGeneration .normal).replays = false ∧
      (Compiler.ofGeneration .normal).compose (nothing .rot90) = .ok program ∧
      program.passes.length = 1 :=
  ⟨_, isEmpty_nothing .rot90, rfl, rfl, rfl⟩

end Compiler

end Blitter
