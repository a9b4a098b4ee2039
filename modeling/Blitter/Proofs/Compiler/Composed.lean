import Blitter.Proofs.Compiler.Clipped
import Blitter.Proofs.Compiler.Passes
import Blitter.Proofs.Strip.Landing
import Blitter.Proofs.Wiring.Stack

/-!
# Composed frames

A compiler checks the layers of a request once, against the whole picture. A frame of one strip is
made of clipped layers, which it does not check again. `Composed` is what is known of a frame all
the same: its layers are admitted to the picture that the frame composes, no two of them share a
pipe or a depth, and the compositor is wired up for them. Every frame of an accepted composition
is `Composed` (`forall₂_composed_of_frames`), so that what is proved of composed frames holds for
compositions in one piece and in strips alike.

`handed` lists the layers and the output that the frames are made for.
-/

namespace Blitter

/-- The part of an output that a strip writes **can be an output of its own**. -/
theorem Target.Lands.ofOutput_eq_ok {t : Target} {s : Strip} {part : Output} (h : t.Lands s part)
    (ht : Target.ofOutput t.output = .ok t) (hs : s.Within t.output.width) :
    Target.ofOutput part = .ok { t with output := part } := by
  obtain ⟨⟨-, hw⟩, hh, -, hlayout⟩ := Target.ofOutput_eq_ok_iff.mp ht
  have hpos := hs.nonempty
  have hle := hs.le_width
  rw [h.rest, Target.ofOutput_eq_ok_iff]
  exact ⟨⟨hpos, by show s.width.toNat ≤ 8192; omega⟩, hh, rfl, hlayout⟩

namespace Compiler

/-- What is known of a frame of an **accepted composition**. -/
structure Composed (c : Compiler) (f : Frame) : Prop where
  sound : f.Sound c.generation
  target : Target.ofOutput f.target.output = .ok f.target
  admitted : ∀ s ∈ f.sources, c.Admitted f.target.output.width f.target.output.height s
  apart : (f.sources.map Source.layer).Pairwise Apart
  enabled : ∀ l ∈ f.sources.map Source.layer, l.enabled = true
  wiring : ∃ background porterDuff, Wiring.ofLayers (f.sources.map Source.layer) background
    porterDuff f.target.output.width f.target.output.height = .ok f.wiring

variable {c : Compiler} {r : Request} {target : Target} {sources : List Source}
  {jobs : List StripJob}

theorem composed_of_composeFrame {commandId : UInt32} {isStrip : Bool} {background : Option UInt32}
    {porterDuff : Option PorterDuff} {reserved : Bool} {f : Frame}
    (h : c.composeFrame commandId isStrip sources target background porterDuff reserved = .ok f)
    (htarget : Target.ofOutput target.output = .ok target)
    (hadmitted : ∀ s ∈ sources, c.Admitted target.output.width target.output.height s)
    (hapart : (sources.map Source.layer).Pairwise Apart)
    (henabled : ∀ l ∈ sources.map Source.layer, l.enabled = true) :
    c.Composed f ∧ f.sources = sources ∧ f.target = target := by
  have hsound := sound_of_composeFrame h
  obtain ⟨_, _, wiring, -, -, hwiring, rfl⟩ := composeFrame_eq_ok_iff.mp h
  exact ⟨⟨hsound, htarget, hadmitted, hapart, henabled, background, porterDuff, hwiring⟩, rfl, rfl⟩

section Strips

variable (ht : Target.ofOutput r.output = .ok target) (hs : c.resolveLayers r = .ok sources)
  (hp : plan sources target c.limits = .ok jobs) {job : StripJob} (hj : job ∈ jobs)
include ht hs hp hj

/-- A layer of a job is clipped from a source. -/
theorem clipsTo_of_mem_layers {l : Layer} (hl : l ∈ job.layers) :
    ∃ source ∈ sources, source.ClipsTo job.strip l := by
  obtain ⟨-, -, hadmitted⟩ := admitted_of_resolveLayers ht hs
  obtain ⟨source, hm, hclip⟩ := (Strip.mem_layers_iff (job_of_mem_plan hp hj).2).mp hl
  exact ⟨source, hm, Source.clipsTo_of_clip (within_of_mem_plan hp hj)
    (hadmitted source hm).columnsFit hclip⟩

/-- A layer of a job is enabled, as the layers that take part all are. -/
theorem enabled_of_mem_layers {l : Layer} (hl : l ∈ job.layers) : l.enabled = true := by
  obtain ⟨hlayers, -, -⟩ := admitted_of_resolveLayers ht hs
  obtain ⟨source, hsource, hto⟩ := clipsTo_of_mem_layers ht hs hp hj hl
  have hmem : source.layer ∈ r.enabledLayers := hlayers ▸ List.mem_map_of_mem hsource
  rw [hto.enabled_eq]
  exact List.of_mem_filter hmem

/-- The layers of a job share **neither pipes nor depths**, as little as what they are clipped
from. -/
theorem apart_of_mem_plan : job.layers.Pairwise Apart := by
  obtain ⟨hlayers, hapart, hadmitted⟩ := admitted_of_resolveLayers ht hs
  obtain ⟨-, -, clipped, hclipped, hjob⟩ := Strip.job_eq_ok_iff.mp (job_of_mem_plan hp hj).2
  rw [← hlayers, List.pairwise_map] at hapart
  rw [hjob, List.pairwise_filterMap]
  refine Outcome.pairwise_of_mapM hclipped hapart ?_
  rintro a ha a' ha' _ _ hb hb' h l rfl l' rfl
  have hto := Source.clipsTo_of_clip (within_of_mem_plan hp hj) (hadmitted a ha).columnsFit hb
  have hto' := Source.clipsTo_of_clip (within_of_mem_plan hp hj) (hadmitted a' ha').columnsFit hb'
  unfold Apart
  rw [hto.pipe_eq, hto'.pipe_eq, hto.depth_eq, hto'.depth_eq]
  exact h

/-- What is looked up for a strip is **admitted to the strip**. -/
theorem admitted_of_mapM_layers (hn : needsStrips sources target c.limits = .ok true)
    {found : List Source} (hfound : job.layers.mapM Source.ofLayer = .ok found) :
    ∀ s ∈ found, c.Admitted job.output.width job.output.height s := by
  obtain ⟨-, -, hadmitted⟩ := admitted_of_resolveLayers ht hs
  have hlands := lands_of_mem_plan hp hj
  have houtput := (Target.ofOutput_eq_ok_iff.mp ht).2.2.1
  have hheight : job.output.height = r.output.height := by rw [hlands.rest, houtput]
  have hwidth : job.output.width = job.strip.width := by rw [hlands.rest]
  intro s hm
  obtain ⟨l, hl, hof⟩ := (Outcome.mem_mapM_iff hfound).mp hm
  obtain ⟨source, hsource, hto⟩ := clipsTo_of_mem_layers ht hs hp hj hl
  rw [hwidth, hheight]
  exact (hadmitted source hsource).clipped (scalesX_of_needsStrips hn hsource) hto hof

/-- The frame of **a strip** is composed of the layers of its job. -/
theorem composed_of_stripFrame (hn : needsStrips sources target c.limits = .ok true) {f : Frame}
    (h : c.stripFrame r target job = .ok f) :
    c.Composed f ∧ f.sources.map Source.layer = job.layers ∧
      f.target = { target with output := job.output } := by
  obtain ⟨found, hfound, hf⟩ := Outcome.bind_eq_ok_iff.mp h
  have hlands := lands_of_mem_plan hp hj
  have hkept := Source.map_layer_of_mapM hfound
  have henabled : ∀ l ∈ job.layers, l.enabled = true := fun _ hl =>
    enabled_of_mem_layers ht hs hp hj hl
  obtain ⟨hcomposed, rfl, htarget⟩ := composed_of_composeFrame hf
    (hlands.ofOutput_eq_ok (Target.ofOutput_self ht) (within_of_mem_plan hp hj))
    (admitted_of_mapM_layers ht hs hp hj hn hfound)
    (hkept ▸ apart_of_mem_plan ht hs hp hj) (hkept ▸ henabled)
  exact ⟨hcomposed, hkept, htarget⟩

end Strips

/-- The frame of a composition **in one piece** is composed of the layers of the request. -/
theorem composed_of_whole (ht : Target.ofOutput r.output = .ok target)
    (hs : c.resolveLayers r = .ok sources) {f : Frame}
    (h : c.composeFrame 0 false sources target r.background r.porterDuff (c.reserves r) = .ok f) :
    c.Composed f ∧ f.sources.map Source.layer = r.enabledLayers ∧ f.target = target := by
  obtain ⟨hlayers, hapart, hadmitted⟩ := admitted_of_resolveLayers ht hs
  have houtput := (Target.ofOutput_eq_ok_iff.mp ht).2.2.1
  obtain ⟨hcomposed, rfl, htarget⟩ := composed_of_composeFrame h (Target.ofOutput_self ht)
    (houtput ▸ hadmitted) (hlayers ▸ hapart)
    (hlayers ▸ fun _ hl => List.of_mem_filter hl)
  exact ⟨hcomposed, hlayers, htarget⟩

/-- Where no two layers share a pipe, a pipe fetches **the source that names it**. -/
theorem sourceOf?_eq_some_iff {f : Frame} (h : (f.sources.map Source.layer).Pairwise Apart)
    {p : Pipe} {s : Source} :
    f.sourceOf? p = some s ↔ s ∈ f.sources ∧ s.layer.pipe.toNat = p.index :=
  find?_key_eq_some_iff ((List.pairwise_map.mp h).imp fun hapart heq =>
    hapart.1 (UInt8.toNat_inj.mp heq))

/-! ### What frames are made for -/

/-- The layers and the output that each frame of a composition is **made for**: all that the
request has, or what is in one strip. -/
def handed (c : Compiler) (r : Request) : Outcome (List (List Layer × Output)) := do
  let target ← Target.ofOutput r.output
  let sources ← c.resolveLayers r
  if ← needsStrips sources target c.limits then
    let jobs ← plan sources target c.limits
    return jobs.map fun job => (job.layers, job.output)
  else
    return [(r.enabledLayers, r.output)]

/-- The frames of an accepted composition are composed, **each of what it is handed**. -/
theorem forall₂_composed_of_frames {frames : List Frame} (h : c.frames r = .ok frames) :
    ∃ handed, c.handed r = .ok handed ∧
      List.Forall₂ (fun f given => c.Composed f ∧ f.sources.map Source.layer = given.1 ∧
        f.target.output = given.2) frames handed := by
  obtain ⟨s, hsplit, hframes⟩ := Outcome.bind_eq_ok_iff.mp h
  cases hcut : s.isCut with
  | false =>
    obtain ⟨target, sources, ht, hs, hn, rfl⟩ := split_whole_iff.mp ⟨hsplit, hcut⟩
    obtain ⟨f, hf, hframes⟩ := Outcome.bind_eq_ok_iff.mp hframes
    cases hframes
    obtain ⟨hcomposed, hlayers, htarget⟩ := composed_of_whole ht hs hf
    refine ⟨[(r.enabledLayers, r.output)], ?_, .cons ⟨hcomposed, hlayers, ?_⟩ .nil⟩
    · simp only [handed, Outcome.bind_eq_ok_iff]
      exact ⟨target, ht, sources, hs, false, hn, rfl⟩
    · rw [htarget]
      exact (Target.ofOutput_eq_ok_iff.mp ht).2.2.1
  | true =>
    obtain ⟨target, sources, jobs, ht, hs, hn, hp, rfl⟩ := split_cut_iff.mp ⟨hsplit, hcut⟩
    rw [Split.frames, List.mapM_map] at hframes
    refine ⟨jobs.map fun job => (job.layers, job.output), ?_, ?_⟩
    · simp only [handed, Outcome.bind_eq_ok_iff]
      exact ⟨target, ht, sources, hs, true, hn, Outcome.bind_eq_ok_iff.mpr ⟨jobs, hp, rfl⟩⟩
    · have hgiven : jobs.mapM (fun job => (.ok (job.layers, job.output) : Outcome _)) =
          .ok (jobs.map fun job => (job.layers, job.output)) :=
        Outcome.mapM_eq_ok_iff.mpr
          (List.forall₂_map_right_iff.mpr (List.forall₂_same.mpr fun _ _ => rfl))
      refine Outcome.forall₂_of_mapM hframes hgiven ?_
      rintro job hj f _ hf ⟨⟩
      obtain ⟨hcomposed, hlayers, htarget⟩ := composed_of_stripFrame ht hs hp hj hn hf
      exact ⟨hcomposed, hlayers, congrArg Target.output htarget⟩

end Compiler

end Blitter
