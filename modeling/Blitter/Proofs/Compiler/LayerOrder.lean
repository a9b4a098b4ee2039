import Blitter.Proofs.Compiler.Composed

/-!
# The order of layers

Layers are told apart by their pipes and their depths, so that the order in which a request lists
them does not matter, and neither do layers that are disabled. Each stage of a compilation takes a
list of layers to another list, or to something that is the same for every order: sources are looked
up one by one, strips clip each layer alone, weights are raised to a maximum and the compositor ends
up with a stack. Requests of the `SamePicture` are composed to the same program, write for write,
in one piece and in strips (`compose_eq_ok_iff_of_perm`).
-/

namespace Blitter

/-- The requests ask for **the same picture**: they differ in the order of their layers and in
layers that are disabled, if in anything. -/
structure Request.SamePicture (r r' : Request) : Prop where
  layers : r.enabledLayers.Perm r'.enabledLayers
  output : r.output = r'.output
  background : r.background = r'.background
  porterDuff : r.porterDuff = r'.porterDuff

theorem Request.SamePicture.symm {r r' : Request} (h : r.SamePicture r') : r'.SamePicture r :=
  ⟨h.layers.symm, h.output.symm, h.background.symm, h.porterDuff.symm⟩

/-! ### Strips -/

section Strips

variable {sources sources' : List Source} (hp : sources.Perm sources') {target : Target}
  {limits : StripLimits}
include hp

theorem needsStrips_eq_ok_of_perm {strips : Bool}
    (h : needsStrips sources target limits = .ok strips) :
    needsStrips sources' target limits = .ok strips := by
  obtain ⟨hpacked, hstrips, hscale⟩ := needsStrips_eq_ok_iff.mp h
  refine needsStrips_eq_ok_iff.mpr ⟨hpacked, ?_, fun s hs => hscale s (hp.mem_iff.mpr hs)⟩
  rw [hstrips, hp.any_eq]

/-- The jobs of a strip that two orders of its layers give: they differ in that order. -/
def StripJob.SamePicture (job job' : StripJob) : Prop :=
  job.strip = job'.strip ∧ job.output = job'.output ∧ job.layers.Perm job'.layers

theorem Strip.exists_job_of_perm {s : Strip} {job : StripJob} (h : s.job sources target = .ok job) :
    ∃ job', s.job sources' target = .ok job' ∧ job.SamePicture job' := by
  obtain ⟨hs, houtput, clipped, hclipped, hlayers⟩ := Strip.job_eq_ok_iff.mp h
  obtain ⟨clipped', hclipped', hperm⟩ := Outcome.exists_mapM_of_perm hp hclipped
  refine ⟨⟨s, clipped'.filterMap id, job.output⟩,
    Strip.job_eq_ok_iff.mpr ⟨rfl, houtput, clipped', hclipped', rfl⟩, hs, rfl, ?_⟩
  rw [hlayers]
  exact hperm.filterMap id

theorem exists_plan_of_perm {jobs : List StripJob} (h : plan sources target limits = .ok jobs) :
    ∃ jobs', plan sources' target limits = .ok jobs' ∧
      List.Forall₂ StripJob.SamePicture jobs jobs' := by
  refine Outcome.exists_mapM_of_forall₂ (R := Eq) (List.forall₂_same.mpr fun _ _ => rfl) h ?_
  rintro s - _ job rfl hjob
  exact Strip.exists_job_of_perm hp hjob

end Strips

/-! ### Frames -/

/-- The program of a frame does not depend on **the order of its sources**. -/
theorem Frame.pass_eq_of_perm {f : Frame} {sources : List Source}
    (h : (f.sources.map Source.layer).Pairwise Compiler.Apart) (hp : f.sources.Perm sources) :
    f.pass = { f with sources }.pass := by
  have h' : ({ f with sources }.sources.map Source.layer).Pairwise Compiler.Apart :=
    (hp.map Source.layer).pairwise h Compiler.Apart.symm
  have hsource (p : Pipe) : f.sourceOf? p = { f with sources }.sourceOf? p := by
    refine Option.ext fun s => ?_
    rw [Compiler.sourceOf?_eq_some_iff h, Compiler.sourceOf?_eq_some_iff h', hp.mem_iff]
  unfold pass pipeWrites
  simp only [hsource]

namespace Compiler

variable {c : Compiler} {r r' : Request} {target : Target} {sources sources' : List Source}

theorem operatorFor_eq_of_perm (hp : sources.Perm sources') (porterDuff : Option PorterDuff) :
    operatorFor porterDuff sources = operatorFor porterDuff sources' := by
  unfold operatorFor
  simp only [hp.any_eq]

/-- A frame is made of its sources **in any order**. -/
theorem exists_composeFrame_of_perm (hp : sources.Perm sources') {commandId : UInt32}
    {isStrip : Bool} {background : Option UInt32} {porterDuff : Option PorterDuff}
    {reserved : Bool} {f : Frame} (hf : c.Composed f)
    (h : c.composeFrame commandId isStrip sources target background porterDuff reserved = .ok f) :
    ∃ f', c.composeFrame commandId isStrip sources' target background porterDuff reserved =
      .ok f' ∧ f.pass = f'.pass := by
  obtain ⟨read, write, wiring, hread, hwrite, hwiring, rfl⟩ := composeFrame_eq_ok_iff.mp h
  rw [c.generation.readWeights_eq_of_perm hp] at hread
  have hwired := (Wiring.ofLayers_eq_ok_iff_of_perm (hp.map Source.layer) hf.apart hf.enabled).mp
    hwiring
  exact ⟨_, composeFrame_eq_ok_iff.mpr ⟨read, write, wiring, hread, hwrite, hwired, rfl⟩,
    Frame.pass_eq_of_perm hf.apart hp⟩

theorem exists_stripFrame_of_samePicture (hr : r.SamePicture r') {job job' : StripJob}
    (hj : job.SamePicture job') {f : Frame} (hf : c.Composed f)
    (h : c.stripFrame r target job = .ok f) :
    ∃ f', c.stripFrame r' target job' = .ok f' ∧ f.pass = f'.pass := by
  obtain ⟨hstrip, houtput, hlayers⟩ := hj
  obtain ⟨found, hfound, hframe⟩ := Outcome.bind_eq_ok_iff.mp h
  obtain ⟨found', hfound', hp⟩ := Outcome.exists_mapM_of_perm hlayers hfound
  obtain ⟨f', hframe', hpass⟩ := exists_composeFrame_of_perm hp hf hframe
  refine ⟨f', Outcome.bind_eq_ok_iff.mpr ⟨found', hfound', ?_⟩, hpass⟩
  rw [← hframe', hstrip, houtput, hr.background, hr.porterDuff, operatorFor_eq_of_perm hp,
    hp.isEmpty_eq, reserves, reserves, hr.background]

/-! ### Compositions -/

/-- Sources are looked up **in any order**. -/
theorem exists_resolveLayers_of_samePicture (hr : r.SamePicture r')
    (ht : Target.ofOutput r.output = .ok target) (hs : c.resolveLayers r = .ok sources) :
    ∃ sources', c.resolveLayers r' = .ok sources' ∧ sources.Perm sources' := by
  obtain ⟨hlayers, hapart, hadmitted⟩ := admitted_of_resolveLayers ht hs
  obtain ⟨⟨-, hw⟩, ⟨-, hh⟩, -⟩ := Target.ofOutput_eq_ok_iff.mp ht
  obtain ⟨sources', hkept, hp⟩ :=
    List.perm_comp_forall₂ hr.layers.symm (map_eq_iff_forall₂.mp hlayers)
  refine ⟨sources', ?_, hp.symm⟩
  rw [resolveLayers_eq_ok_iff (by rw [← hr.output]; omega) (by rw [← hr.output]; omega),
    ← hr.output]
  exact ⟨map_eq_iff_forall₂.mpr hkept, hr.layers.pairwise hapart Apart.symm,
    fun s hm => hadmitted s (hp.mem_iff.mp hm)⟩

section Frames

variable (hr : r.SamePicture r') {s : Split} {frames : List Frame}
include hr

/-- The frame of a composition **in one piece**, made in another order. -/
theorem exists_frames_of_samePicture_whole (hsplit : c.split r = .ok s ∧ s.isCut = false)
    (hframes : s.frames = .ok frames) :
    ∃ s' frames', (c.split r' = .ok s' ∧ s'.isCut = false) ∧ s'.frames = .ok frames' ∧
      frames.map Frame.pass = frames'.map Frame.pass := by
  obtain ⟨target, sources, ht, hs, hn, rfl⟩ := split_whole_iff.mp hsplit
  obtain ⟨f, hf, hframes⟩ := Outcome.bind_eq_ok_iff.mp hframes
  cases hframes
  obtain ⟨sources', hs', hp⟩ := exists_resolveLayers_of_samePicture hr ht hs
  obtain ⟨hcomposed, -, -⟩ := composed_of_whole ht hs hf
  obtain ⟨f', hf', hpass⟩ := exists_composeFrame_of_perm hp hcomposed hf
  have hreserves : c.reserves r = c.reserves r' := by rw [reserves, reserves, hr.background]
  rw [hr.background, hr.porterDuff, hreserves] at hf'
  refine ⟨_, [f'], split_whole_iff.mpr ⟨target, sources', hr.output ▸ ht, hs',
    needsStrips_eq_ok_of_perm hp hn, rfl⟩, ?_, ?_⟩
  · exact Outcome.bind_eq_ok_iff.mpr ⟨f', hf', rfl⟩
  · rw [List.map_singleton, List.map_singleton, hpass]

/-- The frames of **strips**, made in another order. -/
theorem exists_frames_of_samePicture_cut (hsplit : c.split r = .ok s ∧ s.isCut = true)
    (hframes : s.frames = .ok frames) :
    ∃ s' frames', (c.split r' = .ok s' ∧ s'.isCut = true) ∧ s'.frames = .ok frames' ∧
      frames.map Frame.pass = frames'.map Frame.pass := by
  obtain ⟨target, sources, jobs, ht, hs, hn, hplan, rfl⟩ := split_cut_iff.mp hsplit
  rw [Split.frames, List.mapM_map] at hframes
  obtain ⟨sources', hs', hp⟩ := exists_resolveLayers_of_samePicture hr ht hs
  obtain ⟨jobs', hplan', hjobs⟩ := exists_plan_of_perm hp hplan
  obtain ⟨frames', hframes', hpasses⟩ := Outcome.exists_mapM_of_forall₂ hjobs hframes
    fun job hj job' f hsame hf => exists_stripFrame_of_samePicture hr hsame
      (composed_of_stripFrame ht hs hplan hj hn hf).1 hf
  refine ⟨_, frames', split_cut_iff.mpr ⟨target, sources', jobs', hr.output ▸ ht, hs',
    needsStrips_eq_ok_of_perm hp hn, hplan', rfl⟩, ?_, ?_⟩
  · rw [Split.frames, List.mapM_map]
    exact hframes'
  · refine (map_eq_iff_forall₂.mpr ?_).symm
    rw [List.forall₂_map_left_iff]
    exact hpasses

theorem compose_eq_ok_of_samePicture {program : Program} (h : c.compose r = .ok program) :
    c.compose r' = .ok program := by
  obtain ⟨s, frames, hs, hframes, rfl⟩ := compose_eq_ok_iff.mp h
  have hsame : ∃ s' frames', (c.split r' = .ok s' ∧ s'.isCut = s.isCut) ∧
      s'.frames = .ok frames' ∧ frames.map Frame.pass = frames'.map Frame.pass := by
    cases hcut : s.isCut with
    | false => exact exists_frames_of_samePicture_whole hr ⟨hs, hcut⟩ hframes
    | true => exact exists_frames_of_samePicture_cut hr ⟨hs, hcut⟩ hframes
  obtain ⟨s', frames', ⟨hs', hcut⟩, hframes', hpasses⟩ := hsame
  exact compose_eq_ok_iff.mpr ⟨s', frames', hs', hframes', by rw [hcut, hpasses]⟩

end Frames

/-- **The order of layers and disabled layers do not matter.** Requests that share their output,
background and operator, and whose enabled layers are the same up to their order, are both
accepted or both turned down, and accepted ones have the same program. -/
theorem compose_eq_ok_iff_of_perm (c : Compiler) (r r' : Request)
    (hlayers : r.enabledLayers.Perm r'.enabledLayers) (houtput : r.output = r'.output)
    (hbackground : r.background = r'.background) (hporterDuff : r.porterDuff = r'.porterDuff)
    (program : Program) : c.compose r = .ok program ↔ c.compose r' = .ok program := by
  have hr : r.SamePicture r' := ⟨hlayers, houtput, hbackground, hporterDuff⟩
  exact ⟨compose_eq_ok_of_samePicture hr, compose_eq_ok_of_samePicture hr.symm⟩

/-- Video with a caption above it, cut into strips; in the reverse order a disabled layer of an
unknown format stands between the two. -/
def captionedVideo (reversed : Bool) : Request :=
  let video : Layer :=
    { format := .ofLetters 'N' 'V' '1' '2', src := ⟨0, 0, 512, 64⟩, dst := ⟨0, 0, 512, 64⟩
      pipe := 0, address := forPlanes 0x1000 0x40000 0, stride := forPlanes 512 512 0 }
  let caption : Layer :=
    { format := .ofLetters 'A' 'R' '2' '4', src := ⟨0, 0, 100, 16⟩, dst := ⟨200, 40, 100, 16⟩
      depth := 1, pipe := 3, blend := .premultiplied
      address := forPlanes 0x60000 0 0, stride := forPlanes 400 0 0 }
  let hidden : Layer :=
    { enabled := false, format := .ofLetters '?' '?' '?' '?', src := ⟨0, 0, 0, 0⟩
      dst := ⟨0, 0, 0, 0⟩, pipe := 0 }
  { layers := if reversed then [caption, hidden, video] else [video, caption]
    output :=
      { format := .ofLetters 'A' 'R' '2' '4', width := 512, height := 64
        address := forPlanes 0x80000 0 0, stride := forPlanes 2048 0 0 }
    porterDuff := some ⟨3, 0, .srcOver⟩ }

/-- Either order of the layers **gives the same two strips**. -/
theorem compose_captionedVideo_of_reversed :
    (captionedVideo false).enabledLayers.Perm (captionedVideo true).enabledLayers ∧
      ∃ program, program.passes.length = 2 ∧
        (Compiler.ofGeneration .normal).compose (captionedVideo false) = .ok program ∧
        (Compiler.ofGeneration .normal).compose (captionedVideo true) = .ok program := by
  have hperm : (captionedVideo false).enabledLayers.Perm (captionedVideo true).enabledLayers :=
    .swap _ _ _
  have hc : (Compiler.ofGeneration .normal).compose (captionedVideo false) = .ok _ := rfl
  exact ⟨hperm, _, rfl, hc,
    (compose_eq_ok_iff_of_perm _ _ _ hperm rfl rfl rfl _).mp hc⟩

end Compiler

end Blitter
