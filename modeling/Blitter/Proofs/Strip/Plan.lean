import Blitter.Proofs.Strip.Clip

/-!
# Plans

When a composition is cut into strips, and what the plan of one consists of: one job for each
strip of the picture, in order, with the layers that clipping leaves and the part of the output
that the strip writes.
-/

namespace Blitter

/-- A layer that is not stretched across has as many columns as its turned source. -/
theorem Layer.toNat_w_dst_of_scalesX {l : Layer} (h : l.scalesX = false) :
    l.dst.w.toNat = if l.rotation.swapsAxes then l.src.h.toNat else l.src.w.toNat := by
  have hw : l.turnedSize.1 = l.dst.w := by simpa [Layer.scalesX] using h
  rw [← hw, Layer.turnedSize, Rotation.size]
  split <;> rfl

/-- A pipe can do the scaling of a layer, and so can the cutting into strips. -/
theorem Source.checkScaling_eq_ok_iff {limits : StripLimits} {strips : Bool} {s : Source} :
    s.checkScaling limits strips = .ok () ↔
      (strips = true → s.layer.scalesX = false) ∧
        (s.layer.scalesX = true → s.layer.scalesY = true → limits.isDeep s.layer.pipe = true) := by
  rw [Source.checkScaling, ite_reject_eq_ok_iff, ite_reject_eq_ok_iff]
  cases strips <;> cases s.layer.scalesX <;> cases s.layer.scalesY <;>
    cases limits.isDeep s.layer.pipe <;> simp

/-- **When a composition is cut** into strips, and when that is turned down. -/
theorem needsStrips_eq_ok_iff {sources : List Source} {target : Target} {limits : StripLimits}
    {strips : Bool} :
    needsStrips sources target limits = .ok strips ↔
      (target.output.rotation = .none ∨ target.layout.isPackedHalfChroma = false) ∧
        (strips = (target.output.rotation != .none ||
          sources.any fun s => s.overflowsLine limits)) ∧
        ∀ s ∈ sources, s.checkScaling limits strips = .ok () := by
  simp only [needsStrips, ite_reject_eq_ok_iff, Outcome.bind_eq_ok_iff]
  constructor
  · rintro ⟨hpacked, ⟨⟩, hscale, ⟨⟩⟩
    exact ⟨by simpa [or_iff_not_imp_left] using hpacked, rfl, Outcome.forM_eq_ok_iff.mp hscale⟩
  · rintro ⟨hpacked, rfl, hscale⟩
    exact ⟨by simpa [or_iff_not_imp_left] using hpacked, (),
      Outcome.forM_eq_ok_iff.mpr hscale, rfl⟩

/-- Nothing that is cut into strips is stretched across. -/
theorem scalesX_of_needsStrips {sources : List Source} {target : Target} {limits : StripLimits}
    (hn : needsStrips sources target limits = .ok true) {source : Source}
    (hm : source ∈ sources) : source.layer.scalesX = false := by
  obtain ⟨-, -, hscale⟩ := needsStrips_eq_ok_iff.mp hn
  exact (Source.checkScaling_eq_ok_iff.mp (hscale source hm)).1 rfl

section Job

variable {s : Strip} {sources : List Source} {target : Target} {job : StripJob}

theorem Strip.job_eq_ok_iff :
    s.job sources target = .ok job ↔
      job.strip = s ∧ target.strip s = .ok job.output ∧
        ∃ clipped, (sources.mapM fun source => source.clip s) = .ok clipped ∧
          job.layers = clipped.filterMap id := by
  simp only [Strip.job, Outcome.bind_eq_ok_iff]
  constructor
  · rintro ⟨clipped, hclipped, output, houtput, ⟨⟩⟩
    exact ⟨rfl, houtput, clipped, hclipped, rfl⟩
  · rintro ⟨rfl, houtput, clipped, hclipped, hlayers⟩
    refine ⟨clipped, hclipped, job.output, houtput, ?_⟩
    rw [← hlayers]
    rfl

/-- The layers of a job are **what clipping leaves** of the sources. -/
theorem Strip.mem_layers_iff (h : s.job sources target = .ok job) {l : Layer} :
    l ∈ job.layers ↔ ∃ source ∈ sources, source.clip s = .ok (some l) := by
  obtain ⟨-, -, clipped, hclipped, hlayers⟩ := Strip.job_eq_ok_iff.mp h
  rw [hlayers, List.mem_filterMap]
  simp only [id_eq, exists_eq_right]
  exact Outcome.mem_mapM_iff hclipped

/-- A source that shares a column with the strip is in the job. -/
theorem Strip.exists_mem_layers (h : s.job sources target = .ok job) {width : UInt32}
    (hs : s.Within width) {source : Source} (hm : source ∈ sources)
    (hfit : source.layer.dst.ColumnsFit) {x : Nat} (hx : s.Holds x)
    (hd : source.layer.dst.HoldsColumn x) :
    ∃ l ∈ job.layers, source.clip s = .ok (some l) := by
  obtain ⟨-, -, clipped, hclipped, -⟩ := Strip.job_eq_ok_iff.mp h
  obtain ⟨o, -, ho⟩ := Outcome.exists_mem_of_mapM hclipped hm
  cases o with
  | none => exact absurd ⟨hx, hd⟩ ((Source.clip_eq_ok_none_iff hs hfit).mp ho x)
  | some l => exact ⟨l, (Strip.mem_layers_iff h).mpr ⟨source, hm, ho⟩, ho⟩

end Job

section Plan

variable {sources : List Source} {target : Target} {limits : StripLimits} {jobs : List StripJob}
  (h : plan sources target limits = .ok jobs)
include h

theorem length_plan : jobs.length = (stripsOf target.output.width limits.width).length :=
  Outcome.length_of_mapM h

/-- The job at a position is that of the strip at the position. -/
theorem strip_getElem_plan {i : Nat} (hi : i < jobs.length)
    (hs : i < (stripsOf target.output.width limits.width).length) :
    jobs[i].strip = (stripsOf target.output.width limits.width)[i] :=
  (Strip.job_eq_ok_iff.mp (Outcome.getElem_of_mapM h hs hi)).1

theorem job_of_mem_plan {job : StripJob} (hj : job ∈ jobs) :
    job.strip ∈ stripsOf target.output.width limits.width ∧
      job.strip.job sources target = .ok job := by
  obtain ⟨s, hs, hjob⟩ := (Outcome.mem_mapM_iff h).mp hj
  obtain ⟨rfl, -⟩ := Strip.job_eq_ok_iff.mp hjob
  exact ⟨hs, hjob⟩

/-- **Every column of the picture is in exactly one job.** -/
theorem exists_holds_plan_iff {x : Nat} (hx : x < target.output.width.toNat) :
    ∃ i : Fin jobs.length, ∀ k : Fin jobs.length, (jobs.get k).strip.Holds x ↔ k = i := by
  -- jobs have the numbers of their strips
  refine ⟨⟨x / stripStep limits.width, length_plan h ▸ div_lt_length_stripsOf hx⟩, fun k => ?_⟩
  have hk : k.val < (stripsOf target.output.width limits.width).length := by
    rw [← length_plan h]
    exact k.isLt
  rw [List.get_eq_getElem, strip_getElem_plan h k.isLt hk, holds_getElem_stripsOf_iff _ hx,
    Fin.ext_iff]

theorem exists_mem_holds_plan {x : Nat} (hx : x < target.output.width.toNat) :
    ∃ job ∈ jobs, job.strip.Holds x := by
  obtain ⟨i, hi⟩ := exists_holds_plan_iff h hx
  exact ⟨jobs.get i, List.get_mem _ _, (hi i).mpr rfl⟩

theorem eq_of_holds_plan {x : Nat} (hx : x < target.output.width.toNat) {job job' : StripJob}
    (hj : job ∈ jobs) (hj' : job' ∈ jobs) (hold : job.strip.Holds x)
    (hold' : job'.strip.Holds x) : job = job' := by
  obtain ⟨i, hi⟩ := exists_holds_plan_iff h hx
  obtain ⟨k, hk, rfl⟩ := List.mem_iff_getElem.mp hj
  obtain ⟨k', hk', rfl⟩ := List.mem_iff_getElem.mp hj'
  have hki : (⟨k, hk⟩ : Fin jobs.length) = i := (hi ⟨k, hk⟩).mp hold
  have hki' : (⟨k', hk'⟩ : Fin jobs.length) = i := (hi ⟨k', hk'⟩).mp hold'
  obtain rfl : k = k' := Fin.mk.inj (hki.trans hki'.symm)
  rfl

theorem within_of_mem_plan {job : StripJob} (hj : job ∈ jobs) :
    job.strip.Within target.output.width :=
  within_of_mem_stripsOf (job_of_mem_plan h hj).1

/-- A source whose destination has a column inside the picture is in some job. -/
theorem exists_mem_layers_of_plan {source : Source} (hm : source ∈ sources)
    (hfit : source.layer.dst.ColumnsFit) {x : Nat} (hd : source.layer.dst.HoldsColumn x)
    (hx : x < target.output.width.toNat) :
    ∃ job ∈ jobs, ∃ l ∈ job.layers, source.clip job.strip = .ok (some l) := by
  obtain ⟨i, hi⟩ := exists_holds_plan_iff h hx
  have hj : jobs.get i ∈ jobs := List.get_mem _ _
  exact ⟨jobs.get i, hj, Strip.exists_mem_layers (job_of_mem_plan h hj).2 (within_of_mem_plan h hj)
    hm hfit ((hi i).mpr rfl) hd⟩

end Plan

end Blitter
