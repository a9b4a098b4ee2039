import Blitter.Proofs.Compiler.Frames

/-!
# Lines that fit their buffers

A composition is cut into strips because some source has lines too long for its pipe. Cutting
shortens the lines of a layer that keeps its axes to the width of a strip. After a quarter turn a
strip holds whole lines of the source, only fewer of them, so that such a layer's lines are as
long in every strip as they were before, and a source that was too wide for its pipe still is.
`fitLines_iff` gives the exact condition under which every line fits.
-/

namespace Blitter

/-- Every source that the frames fetch through a pipe of ordinary depth, and whose colors have
quarter resolution, has lines that **fit the pipe's buffer**. -/
def FitLines (limits : StripLimits) (frames : List Frame) : Prop :=
  ∀ f ∈ frames, ∀ s ∈ f.sources, s.layout.isQuarterChroma = true →
    limits.isDeep s.layer.pipe = false → s.layer.src.w ≤ limits.line

instance (limits : StripLimits) (frames : List Frame) : Decidable (FitLines limits frames) :=
  inferInstanceAs (Decidable (∀ f ∈ frames, ∀ s ∈ f.sources, _ → _ → _ ≤ _))

variable {limits : StripLimits}

theorem Source.overflowsLine_iff {s : Source} :
    s.overflowsLine limits = true ↔
      s.layout.isQuarterChroma = true ∧ limits.isDeep s.layer.pipe = false ∧
        limits.line.toNat < s.layer.src.w.toNat := by
  unfold Source.overflowsLine
  rw [Bool.and_eq_true, Bool.and_eq_true, decide_eq_true_eq, Bool.not_eq_true',
    UInt32.lt_iff_toNat_lt, and_assoc, and_comm (a := limits.line.toNat < _)]

/-- Lines fit where no source overflows. -/
theorem fitLines_iff_forall_overflowsLine {frames : List Frame} :
    FitLines limits frames ↔
      ∀ s, (∃ f ∈ frames, s ∈ f.sources) → ¬ s.overflowsLine limits = true := by
  simp only [FitLines, Source.overflowsLine_iff, UInt32.le_iff_toNat_le]
  constructor
  · rintro h s ⟨f, hf, hs⟩ ⟨hquarter, hdeep, hlt⟩
    exact Nat.not_le_of_lt hlt (h f hf s hs hquarter hdeep)
  · intro h f hf s hs hquarter hdeep
    exact Nat.le_of_not_lt fun hlt => h s ⟨f, hf, hs⟩ ⟨hquarter, hdeep, hlt⟩

section Clipped

variable {source s : Source} {strip : Strip} {clipped : Layer}

/-- A clipped layer overflows a line as its source would with the clipped width. -/
theorem Source.ClipsTo.overflowsLine_iff (h : source.ClipsTo strip clipped)
    (hsource : Source.ofLayer source.layer = .ok source) (hs : Source.ofLayer clipped = .ok s) :
    s.overflowsLine limits = true ↔
      source.layout.isQuarterChroma = true ∧ limits.isDeep source.layer.pipe = false ∧
        limits.line.toNat < clipped.src.w.toNat := by
  obtain ⟨rfl, hlayout, -⟩ := Source.ofLayer_eq_ok_iff.mp hs
  obtain ⟨-, hlayout', -⟩ := Source.ofLayer_eq_ok_iff.mp hsource
  have hpipe : s.layer.pipe = source.layer.pipe := by
    rw [h.rest]
  have hformat : s.layer.format = source.layer.format := by
    rw [h.rest]
  rw [hformat, hlayout'] at hlayout
  rw [Source.overflowsLine_iff, hpipe, ← Except.ok.inj hlayout]

/-- **Cutting keeps the overflow of a turned layer** and of no other, unless a line buffer holds
no pixel at all. -/
theorem Source.ClipsTo.overflowsLine_iff_of_width_le (h : source.ClipsTo strip clipped)
    (hsource : Source.ofLayer source.layer = .ok source) (hs : Source.ofLayer clipped = .ok s)
    (hx : source.layer.scalesX = false) (hstrip : strip.width.toNat ≤ stripStep limits.width)
    (hw : limits.width ≤ limits.line) :
    s.overflowsLine limits = true ↔ source.overflowsLine limits = true ∧
      ¬ (source.layer.rotation.swapsAxes = false ∧ limits.line ≠ 0) := by
  have hpart := h.cuts.nonempty
  have hle := h.cuts.width_le
  have hle' := h.cuts.width_le_strip
  have hdst := Layer.toNat_w_dst_of_scalesX hx
  rw [UInt32.le_iff_toNat_le] at hw
  rw [h.overflowsLine_iff hsource hs, h.w_src_eq, Source.overflowsLine_iff, ne_eq,
    ← UInt32.toNat_inj, UInt32.toNat_zero, and_assoc, and_assoc]
  refine and_congr_right fun _ => and_congr_right fun _ => ?_
  unfold stripStep at hstrip
  cases hr : source.layer.rotation.swapsAxes with
  | true => simp
  | false =>
    rw [hr] at hdst
    simp only [Bool.false_eq_true, if_false, true_and, not_not] at hdst ⊢
    omega

end Clipped

namespace Compiler

variable {c : Compiler} {r : Request}

/-- Of a composition that is cut, the frames fetch an overflowing line exactly where a layer
overflows one that cutting does not shorten. -/
theorem exists_overflowsLine_iff {target : Target} {sources : List Source} {jobs : List StripJob}
    {frames : List Frame} (hw : c.limits.width ≤ c.limits.line)
    (ht : Target.ofOutput r.output = .ok target) (hs : c.resolveLayers r = .ok sources)
    (hn : needsStrips sources target c.limits = .ok true)
    (hp : plan sources target c.limits = .ok jobs)
    (hf : jobs.mapM (c.stripFrame r target) = .ok frames) :
    (∃ s, (∃ f ∈ frames, s ∈ f.sources) ∧ s.overflowsLine c.limits = true) ↔
      ∃ source ∈ sources, source.overflowsLine c.limits = true ∧
        ¬ (source.layer.rotation.swapsAxes = false ∧ c.limits.line ≠ 0) := by
  obtain ⟨-, -, hadmitted⟩ := admitted_of_resolveLayers ht hs
  -- what a source is clipped to in a job overflows a line as the source does, if it is turned
  have hclipped : ∀ job ∈ jobs, ∀ source ∈ sources, ∀ l s,
      source.clip job.strip = .ok (some l) → Source.ofLayer l = .ok s →
        (s.overflowsLine c.limits = true ↔ source.overflowsLine c.limits = true ∧
          ¬ (source.layer.rotation.swapsAxes = false ∧ c.limits.line ≠ 0)) := by
    intro job hj source hm l s hl hfound
    have hto := Source.clipsTo_of_clip (within_of_mem_plan hp hj) (hadmitted source hm).columnsFit
      hl
    exact hto.overflowsLine_iff_of_width_le (hadmitted source hm).found hfound
      (scalesX_of_needsStrips hn hm)
      (toNat_width_le_of_mem_stripsOf (job_of_mem_plan hp hj).1) hw
  simp only [exists_mem_sources_iff hf]
  constructor
  · rintro ⟨s, ⟨job, hj, l, hl, hfound⟩, hover⟩
    obtain ⟨source, hm, hclip⟩ := (Strip.mem_layers_iff (job_of_mem_plan hp hj).2).mp hl
    exact ⟨source, hm, (hclipped job hj source hm l s hclip hfound).mp hover⟩
  · rintro ⟨source, hm, hover⟩
    have hfits := fits_of_resolveLayers ht hs hm
    have hx : source.layer.dst.HoldsColumn source.layer.dst.x.toNat :=
      ⟨Nat.le_refl _, Nat.lt_add_of_pos_right hfits.dst.w_pos⟩
    have hxw : source.layer.dst.x.toNat < target.output.width.toNat :=
      Nat.lt_of_lt_of_le hx.2 hfits.dst_right
    obtain ⟨job, hj, l, hl, hclip⟩ :=
      exists_mem_layers_of_plan hp hm (hadmitted source hm).columnsFit hx hxw
    obtain ⟨s, hfound⟩ := exists_ofLayer_eq_ok hf hj hl
    exact ⟨s, ⟨job, hj, l, hl, hfound⟩, (hclipped job hj source hm l s hclip hfound).mpr hover⟩

/-- **When the lines of an accepted composition fit.** With strips no wider than a line buffer,
they do exactly if no source that overflows a line is given a quarter turn (and a line buffer
holds a pixel). Cutting does what it is for on all other sources. -/
theorem fitLines_iff {program : Program} (hw : c.limits.width ≤ c.limits.line)
    (h : c.compose r = .ok program) :
    ∃ sources frames, c.resolveLayers r = .ok sources ∧ c.frames r = .ok frames ∧
      program.passes = frames.map Frame.pass ∧
      (FitLines c.limits frames ↔ ∀ source ∈ sources, source.overflowsLine c.limits = true →
        source.layer.rotation.swapsAxes = false ∧ c.limits.line ≠ 0) := by
  obtain ⟨frames, hframes, hpasses⟩ := exists_frames_of_compose h
  obtain ⟨target, sources, strips, ht, hs, hn, hwhole, hcut⟩ := frames_eq_ok hframes
  refine ⟨sources, frames, hs, hframes, hpasses, ?_⟩
  rw [fitLines_iff_forall_overflowsLine]
  cases strips with
  | false =>
    -- what is not cut has no source that overflows a line
    obtain ⟨f, rfl, hf⟩ := hwhole rfl
    obtain ⟨-, hany, -⟩ := needsStrips_eq_ok_iff.mp hn
    have hnone : ∀ source ∈ sources, ¬ source.overflowsLine c.limits = true := by
      intro source hm hover
      rw [List.any_eq_true.mpr ⟨source, hm, hover⟩, Bool.or_true] at hany
      cases hany
    refine iff_of_true ?_ fun source hm hover => absurd hover (hnone source hm)
    rintro s ⟨_, hf', hm⟩
    rw [List.mem_singleton.mp hf', hf] at hm
    exact hnone s hm
  | true =>
    obtain ⟨jobs, hp, hjobs⟩ := hcut rfl
    have hover := not_congr (exists_overflowsLine_iff hw ht hs hn hp hjobs)
    push Not at hover
    exact hover

/-- A layer of video, twice as wide as a line buffer, in the given rotation. -/
def wideVideo (rotation : Rotation) (dst : Rect) : Request :=
  { layers := [
      { format := .ofLetters 'N' 'V' '1' '2', src := ⟨0, 0, 512, 256⟩, dst, pipe := 0, rotation
        address := forPlanes 0x1000 0x40000 0, stride := forPlanes 512 512 0 }]
    output :=
      { format := .ofLetters 'A' 'R' '2' '4', width := dst.w, height := dst.h
        address := forPlanes 0x80000 0 0, stride := forPlanes 2048 0 0 } }

/-- Mirrored, its lines are shortened by the cutting. -/
theorem fitLines_wideVideo_hFlip :
    ∃ program sources frames,
      (Compiler.ofGeneration .normal).limits.width ≤ (Compiler.ofGeneration .normal).limits.line ∧
      (Compiler.ofGeneration .normal).compose (wideVideo .hFlip ⟨0, 0, 512, 256⟩) = .ok program ∧
      (Compiler.ofGeneration .normal).resolveLayers (wideVideo .hFlip ⟨0, 0, 512, 256⟩) =
        .ok sources ∧
      (∀ source ∈ sources, source.overflowsLine (.ofGeneration .normal) = true) ∧
      program.passes = frames.map Frame.pass ∧ FitLines (.ofGeneration .normal) frames := by
  have hw : (Compiler.ofGeneration .normal).limits.width ≤
      (Compiler.ofGeneration .normal).limits.line := by decide
  have hc : (Compiler.ofGeneration .normal).compose (wideVideo .hFlip ⟨0, 0, 512, 256⟩) = .ok _ :=
    rfl
  obtain ⟨sources, frames, hs, -, hpasses, hfit⟩ := fitLines_iff hw hc
  have hsources : (Compiler.ofGeneration .normal).resolveLayers
      (wideVideo .hFlip ⟨0, 0, 512, 256⟩) = .ok _ := rfl
  have hall := Except.ok.inj (hs.symm.trans hsources)
  refine ⟨_, sources, frames, hw, hc, hs, ?_, hpasses, hfit.mpr ?_⟩
  · rw [hall]
    decide +kernel
  · rw [hall]
    decide +kernel

/-- **Cutting does not shorten the lines of a turned layer**: given a quarter turn, the same layer
is fetched by every strip in lines twice as long as the buffer. -/
theorem not_fitLines_wideVideo_rot90 :
    ∃ program frames,
      (Compiler.ofGeneration .normal).limits.width ≤ (Compiler.ofGeneration .normal).limits.line ∧
      (Compiler.ofGeneration .normal).compose (wideVideo .rot90 ⟨0, 0, 256, 512⟩) = .ok program ∧
      (Compiler.ofGeneration .normal).frames (wideVideo .rot90 ⟨0, 0, 256, 512⟩) = .ok frames ∧
      program.inStrips = true ∧ program.passes = frames.map Frame.pass ∧
      ¬ FitLines (.ofGeneration .normal) frames := by
  refine ⟨_, _, by decide, rfl, rfl, rfl, rfl, ?_⟩
  decide +kernel

end Compiler

end Blitter
