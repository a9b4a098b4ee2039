import Blitter.Proofs.Compiler.Composed
import Blitter.Proofs.Compiler.Lines
import Blitter.Proofs.Compiler.StripChecks
import Blitter.Proofs.Strip.Overrun

/-!
# Strips of an accepted request

Once the layers of a request have been admitted, and it is found that the composition has to be cut
and can be, nothing of the request is checked again. Every strip is a request that would be
accepted all the same: what clipping leaves of a layer is a `PartOf` the layer, which its pipe can
fetch for the strip. So there is little left for which a composition in strips is turned down.
A strip may start inside a color sample, and a layer may be at a depth that the compositor does not
have, which is not found out before (`compose_of_needsStrips`).
-/

namespace Blitter

namespace Compiler

/-- The layer is **a part of the source** that can be composed in the strip: it can be looked up and
fetched, it is stretched as the source is, it lies in the strip's canvas, and what it fetches lies
inside what the source fetches, with the columns counted in that the addresses were moved by. -/
structure PartOf (c : Compiler) (s : Strip) (height : UInt32) (source : Source) (l : Layer) :
    Prop where
  fetched : ∃ part pipe, Source.ofLayer l = .ok part ∧ c.pipes[l.pipe.toNat]? = some pipe ∧
    pipe.check part = .ok ()
  across : l.scalesX = false
  down : l.turnedSize.2 = source.layer.turnedSize.2 ∧ l.dst.h = source.layer.dst.h
  nonempty : l.src.isEmpty = false ∧ l.dst.isEmpty = false
  canvas : l.dst.x.toNat + l.dst.w.toNat ≤ s.width.toNat ∧
    l.dst.y.toNat + l.dst.h.toNat ≤ height.toNat
  inside : ∃ n, source.Skips l n ∧ source.layer.src.x.toNat ≤ n + l.src.x.toNat ∧
    n + l.src.x.toNat + l.src.w.toNat ≤ source.layer.src.x.toNat + source.layer.src.w.toNat ∧
    source.layer.src.y.toNat ≤ l.src.y.toNat ∧
    l.src.y.toNat + l.src.h.toNat ≤ source.layer.src.y.toNat + source.layer.src.h.toNat

variable {c : Compiler} {r : Request} {target : Target} {sources : List Source}

section Clipped

variable {width height : UInt32} {source : Source} {s : Strip} {l : Layer}
  (h : c.Admitted width height source) (hscale : source.layer.scalesX = false)
  (hl : source.ClipsTo s l)
include h hscale hl

/-- What clipping leaves of an admitted layer **can be looked up**, and is admitted to the strip. -/
theorem Admitted.exists_clipped :
    ∃ clipped, Source.ofLayer l = .ok clipped ∧ c.Admitted s.width height clipped := by
  obtain ⟨-, hlayout, hfetch⟩ := Source.ofLayer_eq_ok_iff.mp h.found
  have hfits := h.fits.clipped hscale hl
  rw [← hl.format_eq] at hlayout hfetch
  rw [← hl.arrangement_eq] at hfetch
  obtain ⟨fetch, hfetch'⟩ :=
    TileFetch.exists_resolve_of_resolve hfetch hfits.src_right hfits.src_bottom
  have hfound : Source.ofLayer l = .ok { layer := l, layout := source.layout, fetch } :=
    Source.ofLayer_eq_ok_iff.mpr ⟨rfl, hlayout, hfetch'⟩
  exact ⟨_, hfound, h.clipped hscale hl hfound⟩

/-- **A clipped layer is a part of its source.** -/
theorem Admitted.partOf : c.PartOf s height source l := by
  obtain ⟨clipped, hfound, hadmitted⟩ := h.exists_clipped hscale hl
  obtain ⟨rfl, -⟩ := Source.ofLayer_eq_ok_iff.mp hfound
  obtain ⟨pipe, hpipe, hcheck⟩ := hadmitted.fetched
  have hfits := hadmitted.fits
  have hsrc := Bool.or_eq_false_iff.mp (Bool.or_eq_false_iff.mp (Rect.sized_iff.mp hfits.src)).1
  have hdst := Bool.or_eq_false_iff.mp (Bool.or_eq_false_iff.mp (Rect.sized_iff.mp hfits.dst)).1
  exact
    { fetched := ⟨clipped, pipe, hfound, hpipe, hcheck⟩
      across := hl.scalesX_eq
      down := ⟨by rw [hl.turnedSize_eq], hl.h_dst_eq⟩
      nonempty := ⟨hsrc.1, hdst.1⟩
      canvas := ⟨hfits.dst_right, hfits.dst_bottom⟩
      inside := hl.inside hscale }

end Clipped

/-! ### Frames of strips -/

/-- Weights that add up to something **can be shared**. -/
theorem exists_allocate {weights : List UInt8} (pools : Pools)
    (h : 0 < Allocation.totalWeight weights) :
    ∃ a, allocate weights pools false = .ok a :=
  ⟨_, allocate_eq_ok_iff.mpr ⟨Nat.ne_of_gt h, rfl⟩⟩

/-- Every pipe of an engine has a sub-frame. -/
theorem toNat_lt_subframeCount {n : Nat} {pipe : Pipe} (h : c.pipes[n]? = some pipe) :
    n < subframeCount := by
  obtain ⟨hlt, -⟩ := List.getElem?_eq_some_iff.mp h
  have hpipes : c.pipes.length ≤ subframeCount := by
    unfold pipes
    cases c.generation <;> decide
  exact hlt.trans_le hpipes

section Plan

variable {jobs : List StripJob} (ht : Target.ofOutput r.output = .ok target)
  (hs : c.resolveLayers r = .ok sources)
  (hn : needsStrips sources target c.limits = .ok true)
  (hp : plan sources target c.limits = .ok jobs) {job : StripJob} (hj : job ∈ jobs)
include ht hs hn hp hj

/-- The layers of a job **can be looked up**, and are admitted to the strip. -/
theorem exists_admitted_of_mem_plan : ∃ found, job.layers.mapM Source.ofLayer = .ok found ∧
    ∀ s ∈ found, c.Admitted job.strip.width r.output.height s := by
  obtain ⟨-, -, hadmitted⟩ := admitted_of_resolveLayers ht hs
  have hclipped : ∀ l ∈ job.layers, ∃ s, Source.ofLayer l = .ok s ∧
      c.Admitted job.strip.width r.output.height s := by
    intro l hl
    obtain ⟨source, hm, hto⟩ := clipsTo_of_mem_layers ht hs hp hj hl
    exact (hadmitted source hm).exists_clipped (scalesX_of_needsStrips hn hm) hto
  obtain ⟨found, hfound⟩ :=
    Outcome.exists_mapM_eq_ok fun l hl => (hclipped l hl).imp fun _ => And.left
  refine ⟨found, hfound, fun s hm => ?_⟩
  obtain ⟨l, hl, hof⟩ := (Outcome.mem_mapM_iff hfound).mp hm
  obtain ⟨s', hof', hs'⟩ := hclipped l hl
  exact Outcome.eq_of_eq_ok hof' hof ▸ hs'

/-- **Why the frame of a strip does not come about**: the compositor lacks the depth of a layer. -/
theorem exists_of_stripFrame_eq_error {e : Failure} (h : c.stripFrame r target job = .error e) :
    ∃ l ∈ job.layers, slotCount ≤ l.depth.toNat ∧
      e = .rejected (.layerIndex l.pipe.toNat l.depth.toNat) := by
  obtain ⟨found, hfound, hadmitted⟩ := exists_admitted_of_mem_plan ht hs hn hp hj
  have hlayers := Source.map_layer_of_mapM hfound
  -- some channel works, be it one that is kept
  have hread : 0 < Allocation.totalWeight
      (c.generation.readWeights found (c.reserves r || found.isEmpty)) := by
    cases found with
    | nil =>
      rw [List.isEmpty_nil, Bool.or_true]
      exact c.generation.totalWeight_readWeights_pos_of_reserved []
    | cons s found =>
      obtain ⟨pipe, hpipe, -⟩ := (hadmitted s List.mem_cons_self).fetched
      exact c.generation.totalWeight_readWeights_pos List.mem_cons_self hpipe _
  obtain ⟨read, hread⟩ := exists_allocate c.generation.readPools hread
  obtain ⟨write, hwrite⟩ := exists_writeAllocation c { target with output := job.output }
  simp only [stripFrame, hfound, composeFrame, hread, hwrite, Outcome.ok_bind] at h
  rcases Outcome.bind_eq_error_iff.mp h with hwiring | ⟨_, -, ⟨⟩⟩
  -- the operator is there only if its layers are
  have hoperands : ∀ pd ∈ operatorFor r.porterDuff found,
      (∃ l ∈ found.map Source.layer, l.pipe = pd.srcPipe) ∧
        ∃ l ∈ found.map Source.layer, l.pipe = pd.dstPipe := by
    intro pd hpd
    obtain ⟨-, hsrc, hdst⟩ := mem_operatorFor_iff.mp hpd
    simp only [List.mem_map, exists_exists_and_eq_and]
    exact ⟨hsrc, hdst⟩
  obtain ⟨l, hl, hplace, rfl⟩ := Wiring.exists_of_ofLayers_eq_error hwiring
    (hlayers ▸ fun _ hl => enabled_of_mem_layers ht hs hp hj hl) hoperands
  obtain ⟨s, hm, rfl⟩ := List.mem_map.mp hl
  obtain ⟨pipe, hpipe, -⟩ := (hadmitted s hm).fetched
  refine ⟨s.layer, hlayers ▸ hl, ?_, rfl⟩
  exact Nat.le_of_not_lt fun hlt => hplace ⟨toNat_lt_subframeCount hpipe, hlt⟩

/-- In a frame of a strip every layer **has its depth**. -/
theorem toNat_depth_lt_of_stripFrame {f : Frame} (h : c.stripFrame r target job = .ok f) {l : Layer}
    (hl : l ∈ job.layers) : l.depth.toNat < slotCount := by
  obtain ⟨hcomposed, hlayers, -⟩ := composed_of_stripFrame ht hs hp hj hn h
  obtain ⟨_, _, hwiring⟩ := hcomposed.wiring
  obtain ⟨hplaces, -⟩ :=
    (Wiring.ofLayers_eq_ok_iff_of_apart hcomposed.apart hcomposed.enabled).mp hwiring
  exact (hplaces l (hlayers ▸ hl)).2

end Plan

/-! ### Compositions in strips -/

/-- What is known of a composition **that has to be cut and can be**. -/
structure CutsSoundly (c : Compiler) (r : Request) (target : Target) (sources : List Source) :
    Prop where
  /-- Every layer of every strip's job is part of a layer of the request. -/
  parts : ∀ s ∈ stripsOf target.output.width c.limits.width, ∀ job,
    s.job sources target = .ok job →
      ∀ l ∈ job.layers, ∃ source ∈ sources, c.PartOf s target.output.height source l
  /-- It is turned down for a strip that starts inside a color sample of a subsampled output, or
  for a layer at a depth of six or more. -/
  rejected : ∀ why, c.compose r = .error (.rejected why) →
    (∃ s ∈ stripsOf target.output.width c.limits.width,
      target.SplitsSample s ∧ why = .geometry (target.splitFault s)) ∨
    ∃ l ∈ r.enabledLayers, slotCount ≤ l.depth.toNat ∧
      why = .layerIndex l.pipe.toNat l.depth.toNat
  /-- It is left without an answer where an address leaves its word. -/
  overflow : c.compose r = .error .overflow →
    ∃ s ∈ stripsOf target.output.width c.limits.width,
      target.Overruns s ∨ ∃ source ∈ sources, source.Overruns s
  /-- It is composed where nothing of this is the case. -/
  composed : (∃ program, c.compose r = .ok program) ↔
    (∀ s ∈ stripsOf target.output.width c.limits.width,
      ¬ target.SplitsSample s ∧ ¬ target.Overruns s ∧ ∀ source ∈ sources, ¬ source.Overruns s) ∧
    ∀ l ∈ r.enabledLayers, l.depth.toNat < slotCount

section NeedsStrips

variable (ht : Target.ofOutput r.output = .ok target) (hs : c.resolveLayers r = .ok sources)
  (hn : needsStrips sources target c.limits = .ok true)
include ht hs hn

theorem compose_of_needsStrips : c.compose r = do
    let jobs ← plan sources target c.limits
    let frames ← jobs.mapM (c.stripFrame r target)
    return { operation := .compose, inStrips := true, passes := frames.map Frame.pass } := by
  simp only [compose, split, ht, hs, hn, Outcome.ok_bind, if_true, bind_assoc, pure_bind,
    Split.program, List.mapM_map]
  rfl

/-- **Why a composition in strips does not come about.** -/
theorem compose_eq_error {e : Failure} (h : c.compose r = .error e) :
    (∃ s ∈ stripsOf target.output.width c.limits.width,
      target.SplitsSample s ∧ e = .rejected (.geometry (target.splitFault s)) ∨
        (target.Overruns s ∨ ∃ source ∈ sources, source.Overruns s) ∧ e = .overflow) ∨
    ∃ l ∈ r.enabledLayers, slotCount ≤ l.depth.toNat ∧
      e = .rejected (.layerIndex l.pipe.toNat l.depth.toNat) := by
  obtain ⟨hlayers, -, -⟩ := admitted_of_resolveLayers ht hs
  rw [compose_of_needsStrips ht hs hn] at h
  rcases Outcome.bind_eq_error_iff.mp h with hplan | ⟨jobs, hp, h⟩
  · exact .inl (plan_eq_error (Target.ofOutput_self ht)
      (fun _ hm => fits_of_resolveLayers ht hs hm) (fun _ hm => scalesX_of_needsStrips hn hm) hplan)
  · rcases Outcome.bind_eq_error_iff.mp h with hframes | ⟨_, -, ⟨⟩⟩
    obtain ⟨job, hj, hframe⟩ := Outcome.exists_of_mapM_eq_error hframes
    obtain ⟨l, hl, hdepth, rfl⟩ := exists_of_stripFrame_eq_error ht hs hn hp hj hframe
    -- the layer has its pipe and its depth from a layer of the request
    obtain ⟨source, hm, hto⟩ := clipsTo_of_mem_layers ht hs hp hj hl
    rw [hto.pipe_eq, hto.depth_eq]
    rw [hto.depth_eq] at hdepth
    exact .inr ⟨source.layer, hlayers ▸ List.mem_map_of_mem hm, hdepth, rfl⟩

/-- What composes in strips **has a depth for every layer**: each is in some strip. -/
theorem toNat_depth_lt_of_compose {program : Program} (h : c.compose r = .ok program) {l : Layer}
    (hl : l ∈ r.enabledLayers) : l.depth.toNat < slotCount := by
  obtain ⟨hlayers, -, hadmitted⟩ := admitted_of_resolveLayers ht hs
  rw [compose_of_needsStrips ht hs hn] at h
  obtain ⟨jobs, hp, h⟩ := Outcome.bind_eq_ok_iff.mp h
  obtain ⟨frames, hframes, -⟩ := Outcome.bind_eq_ok_iff.mp h
  rw [← hlayers] at hl
  obtain ⟨source, hm, rfl⟩ := List.mem_map.mp hl
  have hfits := fits_of_resolveLayers ht hs hm
  have hx : source.layer.dst.HoldsColumn source.layer.dst.x.toNat :=
    ⟨Nat.le_refl _, Nat.lt_add_of_pos_right hfits.dst.w_pos⟩
  obtain ⟨job, hj, k, hk, hclip⟩ := exists_mem_layers_of_plan hp hm (hadmitted source hm).columnsFit
    hx (Nat.lt_of_lt_of_le hx.2 hfits.dst_right)
  have hto := Source.clipsTo_of_clip (within_of_mem_plan hp hj) (hadmitted source hm).columnsFit
    hclip
  obtain ⟨f, -, hframe⟩ := Outcome.exists_mem_of_mapM hframes hj
  rw [← hto.depth_eq]
  exact toNat_depth_lt_of_stripFrame ht hs hn hp hj hframe hk

/-- **Strips of an accepted request are accepted.** Cutting adds one reason to turn a composition
down, a strip that starts inside a color sample; the other one, a layer at a depth that the
compositor does not have, is there without cutting too. -/
theorem cutsSoundly_of_needsStrips : c.CutsSoundly r target sources := by
  obtain ⟨-, -, hadmitted⟩ := admitted_of_resolveLayers ht hs
  have hfits : ∀ source ∈ sources,
      RectsFit target.output.width target.output.height source.layer := fun _ hm =>
    fits_of_resolveLayers ht hs hm
  have hscale : ∀ source ∈ sources, source.layer.scalesX = false := fun _ hm =>
    scalesX_of_needsStrips hn hm
  constructor
  case parts =>
    intro s hstrip job hjob l hl
    obtain ⟨source, hm, hclip⟩ := (Strip.mem_layers_iff hjob).mp hl
    have hto := Source.clipsTo_of_clip (within_of_mem_stripsOf hstrip)
      (hadmitted source hm).columnsFit hclip
    obtain ⟨-, -, houtput, -⟩ := Target.ofOutput_eq_ok_iff.mp ht
    rw [houtput]
    exact ⟨source, hm, (hadmitted source hm).partOf (hscale source hm) hto⟩
  case rejected =>
    intro why h
    rcases compose_eq_error ht hs hn h with
      ⟨s, hstrip, ⟨hsplit, ⟨⟩⟩ | ⟨-, ⟨⟩⟩⟩ | ⟨l, hl, hdepth, ⟨⟩⟩
    · exact .inl ⟨s, hstrip, hsplit, rfl⟩
    · exact .inr ⟨l, hl, hdepth, rfl⟩
  case overflow =>
    intro h
    rcases compose_eq_error ht hs hn h with ⟨s, hstrip, ⟨-, ⟨⟩⟩ | ⟨hover, -⟩⟩ | ⟨_, -, -, ⟨⟩⟩
    exact ⟨s, hstrip, hover⟩
  case composed =>
    constructor
    · rintro ⟨program, h⟩
      refine ⟨fun s hstrip => ?_, fun l hl => toNat_depth_lt_of_compose ht hs hn h hl⟩
      rw [compose_of_needsStrips ht hs hn] at h
      obtain ⟨jobs, hp, -⟩ := Outcome.bind_eq_ok_iff.mp h
      exact not_splitsSample_of_plan (Target.ofOutput_self ht) hfits hscale hp hstrip
    · rintro ⟨hstrips, hdepths⟩
      cases h : c.compose r with
      | ok program => exact ⟨program, rfl⟩
      | error e =>
        rcases compose_eq_error ht hs hn h with
          ⟨s, hstrip, ⟨hsplit, -⟩ | ⟨hover | ⟨source, hm, hover⟩, -⟩⟩ | ⟨l, hl, hdepth, -⟩
        · exact absurd hsplit (hstrips s hstrip).1
        · exact absurd hover (hstrips s hstrip).2.1
        · exact absurd hover ((hstrips s hstrip).2.2 source hm)
        · exact absurd hdepth (Nat.not_le_of_lt (hdepths l hl))

end NeedsStrips

/-- A mirrored layer of video, cut for the sake of its long lines. -/
theorem cutsSoundly_wideVideo :
    ∃ target sources, Target.ofOutput (wideVideo .hFlip ⟨0, 0, 512, 256⟩).output = .ok target ∧
      (ofGeneration .normal).resolveLayers (wideVideo .hFlip ⟨0, 0, 512, 256⟩) = .ok sources ∧
      needsStrips sources target (.ofGeneration .normal) = .ok true ∧
      (ofGeneration .normal).CutsSoundly (wideVideo .hFlip ⟨0, 0, 512, 256⟩) target sources := by
  refine ⟨_, _, rfl, rfl, rfl, ?_⟩
  exact cutsSoundly_of_needsStrips rfl rfl rfl

end Compiler

end Blitter
