import Blitter.Proofs.Compiler.Admission
import Blitter.Proofs.Strip.Plan

/-!
# The frames of a program

A composed program is the list of passes of its frames (`compose_eq_ok_iff`), so that what the
passes of a program have in common is proved of the frames. `frames_eq_ok` says where the frames
of an accepted request come from: there is one for all of it, or one for each job of its plan. The
one frame of a fill is that of its color, composed onto a part of the output
(`fillFrame_eq_ok_iff`).
-/

namespace Blitter

namespace Compiler

namespace Split

/-- The frames of a split composition, if all of them came about. -/
def frames : Split → Outcome (List Frame)
  | .whole frame => do
    let f ← frame
    return [f]
  | .strips _ _ frames => frames.mapM id

/-- The composition was cut into strips. -/
def isCut : Split → Bool
  | .whole _ => false
  | .strips .. => true

/-- A program is made of **the passes of its frames**. -/
theorem program_eq_ok_iff {s : Split} {program : Program} :
    s.program = .ok program ↔ ∃ frames, s.frames = .ok frames ∧
      program =
        { operation := .compose, inStrips := s.isCut, passes := frames.map Frame.pass } := by
  cases s with
  | whole frame =>
    simp only [Split.program, Split.frames, Outcome.bind_eq_ok_iff]
    constructor
    · rintro ⟨f, hf, ⟨⟩⟩
      exact ⟨[f], ⟨f, hf, rfl⟩, rfl⟩
    · rintro ⟨_, ⟨f, hf, ⟨⟩⟩, rfl⟩
      exact ⟨f, hf, rfl⟩
  | strips stripWidth width frames =>
    simp only [Split.program, Split.frames, Outcome.bind_eq_ok_iff]
    constructor
    · rintro ⟨fs, hfs, ⟨⟩⟩
      exact ⟨fs, hfs, rfl⟩
    · rintro ⟨fs, hfs, rfl⟩
      exact ⟨fs, hfs, rfl⟩

end Split

/-- The **frames of a composition**, if it is accepted. -/
def frames (c : Compiler) (r : Request) : Outcome (List Frame) := do
  let s ← c.split r
  s.frames

variable {c : Compiler} {r : Request}

theorem compose_eq_ok_iff {program : Program} :
    c.compose r = .ok program ↔ ∃ s frames, c.split r = .ok s ∧ s.frames = .ok frames ∧
      program =
        { operation := .compose, inStrips := s.isCut, passes := frames.map Frame.pass } := by
  rw [compose, Outcome.bind_eq_ok_iff]
  constructor
  · rintro ⟨s, hs, h⟩
    obtain ⟨frames, hframes, hprogram⟩ := Split.program_eq_ok_iff.mp h
    exact ⟨s, frames, hs, hframes, hprogram⟩
  · rintro ⟨s, frames, hs, hframes, hprogram⟩
    exact ⟨s, hs, Split.program_eq_ok_iff.mpr ⟨frames, hframes, hprogram⟩⟩

/-- Every program has frames. -/
theorem exists_frames_of_compose {program : Program} (h : c.compose r = .ok program) :
    ∃ frames, c.frames r = .ok frames ∧ program.passes = frames.map Frame.pass := by
  obtain ⟨s, frames, hs, hframes, rfl⟩ := compose_eq_ok_iff.mp h
  exact ⟨frames, Outcome.bind_eq_ok_iff.mpr ⟨s, hs, hframes⟩, rfl⟩

section IsCut

variable {s : Split}

/-- What a composition that is **not cut** is checked for. -/
theorem split_whole_iff :
    c.split r = .ok s ∧ s.isCut = false ↔ ∃ target sources,
      Target.ofOutput r.output = .ok target ∧ c.resolveLayers r = .ok sources ∧
        needsStrips sources target c.limits = .ok false ∧
        s = .whole (c.composeFrame 0 false sources target r.background r.porterDuff
          (c.reserves r)) := by
  simp only [split, Outcome.bind_eq_ok_iff]
  constructor
  · rintro ⟨⟨target, ht, sources, hs, strips, hn, h⟩, hcut⟩
    cases strips with
    | false =>
      cases h
      exact ⟨target, sources, ht, hs, hn, rfl⟩
    | true =>
      obtain ⟨jobs, -, h⟩ := Outcome.bind_eq_ok_iff.mp h
      cases h
      cases hcut
  · rintro ⟨target, sources, ht, hs, hn, rfl⟩
    exact ⟨⟨target, ht, sources, hs, false, hn, rfl⟩, rfl⟩

/-- What a composition that is **cut** is checked for. -/
theorem split_cut_iff :
    c.split r = .ok s ∧ s.isCut = true ↔ ∃ target sources jobs,
      Target.ofOutput r.output = .ok target ∧ c.resolveLayers r = .ok sources ∧
        needsStrips sources target c.limits = .ok true ∧
        plan sources target c.limits = .ok jobs ∧
        s = .strips c.limits.width r.output.width (jobs.map (c.stripFrame r target)) := by
  simp only [split, Outcome.bind_eq_ok_iff]
  constructor
  · rintro ⟨⟨target, ht, sources, hs, strips, hn, h⟩, hcut⟩
    cases strips with
    | false =>
      cases h
      cases hcut
    | true =>
      obtain ⟨jobs, hp, h⟩ := Outcome.bind_eq_ok_iff.mp h
      cases h
      exact ⟨target, sources, jobs, ht, hs, hn, hp, rfl⟩
  · rintro ⟨target, sources, jobs, ht, hs, hn, hp, rfl⟩
    exact ⟨⟨target, ht, sources, hs, true, hn, Outcome.bind_eq_ok_iff.mpr ⟨jobs, hp, rfl⟩⟩, rfl⟩

end IsCut

section ComposeFrame

variable {commandId : UInt32} {isStrip : Bool} {sources : List Source} {target : Target}
  {background : Option UInt32} {porterDuff : Option PorterDuff} {reserved : Bool} {f : Frame}

/-- What a frame that composes is **made of**. -/
theorem composeFrame_eq_ok_iff :
    c.composeFrame commandId isStrip sources target background porterDuff reserved = .ok f ↔
      ∃ read write wiring,
        allocate (c.generation.readWeights sources reserved) c.generation.readPools false =
          .ok read ∧
        c.writeAllocation target = .ok write ∧
        Wiring.ofLayers (sources.map Source.layer) background porterDuff target.output.width
          target.output.height = .ok wiring ∧
        f = { commandId, operation := .compose, isStrip, read, write, pipes := c.pipes, sources,
              wiring, target } := by
  simp only [composeFrame, Outcome.bind_eq_ok_iff]
  constructor
  · rintro ⟨read, hread, write, hwrite, wiring, hwiring, ⟨⟩⟩
    exact ⟨read, write, wiring, hread, hwrite, hwiring, rfl⟩
  · rintro ⟨read, write, wiring, hread, hwrite, hwiring, rfl⟩
    exact ⟨read, hread, write, hwrite, wiring, hwiring, rfl⟩

/-- A frame that composes fetches what it is given to fetch. -/
theorem sources_of_composeFrame
    (h : c.composeFrame commandId isStrip sources target background porterDuff reserved = .ok f) :
    f.sources = sources := by
  obtain ⟨_, _, _, -, -, -, rfl⟩ := composeFrame_eq_ok_iff.mp h
  rfl

/-- A frame that composes shares the read channels by what it fetches. -/
theorem read_of_composeFrame
    (h : c.composeFrame commandId isStrip sources target background porterDuff reserved = .ok f) :
    allocate (c.generation.readWeights sources reserved) c.generation.readPools false =
      .ok f.read := by
  obtain ⟨_, _, _, hread, -, -, rfl⟩ := composeFrame_eq_ok_iff.mp h
  exact hread

end ComposeFrame

/-- The frame of a strip fetches the layers of its job. -/
theorem mapM_ofLayer_of_stripFrame {target : Target} {job : StripJob} {f : Frame}
    (h : c.stripFrame r target job = .ok f) : job.layers.mapM Source.ofLayer = .ok f.sources := by
  obtain ⟨sources, hsources, hf⟩ := Outcome.bind_eq_ok_iff.mp h
  rw [sources_of_composeFrame hf]
  exact hsources

/-- **Where frames come from.** -/
theorem frames_eq_ok {frames : List Frame} (h : c.frames r = .ok frames) :
    ∃ target sources strips, Target.ofOutput r.output = .ok target ∧
      c.resolveLayers r = .ok sources ∧ needsStrips sources target c.limits = .ok strips ∧
      (strips = false → ∃ f, frames = [f] ∧ f.sources = sources) ∧
      (strips = true → ∃ jobs, plan sources target c.limits = .ok jobs ∧
        jobs.mapM (c.stripFrame r target) = .ok frames) := by
  obtain ⟨s, hsplit, hframes⟩ := Outcome.bind_eq_ok_iff.mp h
  simp only [split, Outcome.bind_eq_ok_iff] at hsplit
  obtain ⟨target, ht, sources, hs, strips, hn, hsplit⟩ := hsplit
  refine ⟨target, sources, strips, ht, hs, hn, ?_, ?_⟩
  · rintro rfl
    cases hsplit
    obtain ⟨f, hf, hframes⟩ := Outcome.bind_eq_ok_iff.mp hframes
    cases hframes
    exact ⟨f, rfl, sources_of_composeFrame hf⟩
  · rintro rfl
    obtain ⟨jobs, hjobs, hsplit⟩ := Outcome.bind_eq_ok_iff.mp hsplit
    cases hsplit
    rw [Split.frames, List.mapM_map] at hframes
    exact ⟨jobs, hjobs, hframes⟩

/-- What the **frame at a place** does: all of the composition, or one strip of it. -/
theorem getElem?_frames {frames : List Frame} (h : c.frames r = .ok frames) {i : Nat} {f : Frame}
    (hf : frames[i]? = some f) :
    ∃ target sources, Target.ofOutput r.output = .ok target ∧ c.resolveLayers r = .ok sources ∧
      ((needsStrips sources target c.limits = .ok false ∧ i = 0 ∧
          c.composeFrame 0 false sources target r.background r.porterDuff (c.reserves r) =
            .ok f) ∨
        (needsStrips sources target c.limits = .ok true ∧
          ∃ jobs job, plan sources target c.limits = .ok jobs ∧ jobs[i]? = some job ∧
            c.stripFrame r target job = .ok f)) := by
  obtain ⟨s, hs, hframes⟩ := Outcome.bind_eq_ok_iff.mp h
  cases hcut : s.isCut with
  | false =>
    obtain ⟨target, sources, ht, hsources, hn, rfl⟩ := split_whole_iff.mp ⟨hs, hcut⟩
    obtain ⟨f', hf', hframes⟩ := Outcome.bind_eq_ok_iff.mp hframes
    cases hframes
    obtain ⟨hi, rfl⟩ := List.getElem?_eq_some_iff.mp hf
    obtain rfl : i = 0 := Nat.lt_one_iff.mp hi
    exact ⟨target, sources, ht, hsources, .inl ⟨hn, rfl, hf'⟩⟩
  | true =>
    obtain ⟨target, sources, jobs, ht, hsources, hn, hplan, rfl⟩ := split_cut_iff.mp ⟨hs, hcut⟩
    rw [Split.frames, List.mapM_map] at hframes
    obtain ⟨hi, rfl⟩ := List.getElem?_eq_some_iff.mp hf
    have hj : i < jobs.length := Outcome.length_of_mapM hframes ▸ hi
    exact ⟨target, sources, ht, hsources, .inr ⟨hn, jobs, jobs[i], hplan,
      List.getElem?_eq_getElem hj, Outcome.getElem_of_mapM hframes hj hi⟩⟩

section Cut

variable {target : Target} {jobs : List StripJob} {frames : List Frame}
  (h : jobs.mapM (c.stripFrame r target) = .ok frames)
include h

/-- What the frames of a cut composition fetch is what the layers of its jobs are looked up as. -/
theorem exists_mem_sources_iff {s : Source} :
    (∃ f ∈ frames, s ∈ f.sources) ↔ ∃ job ∈ jobs, ∃ l ∈ job.layers, Source.ofLayer l = .ok s := by
  constructor
  · rintro ⟨f, hf, hs⟩
    obtain ⟨job, hj, hjob⟩ := (Outcome.mem_mapM_iff h).mp hf
    exact ⟨job, hj, (Outcome.mem_mapM_iff (mapM_ofLayer_of_stripFrame hjob)).mp hs⟩
  · rintro ⟨job, hj, hs⟩
    obtain ⟨f, hf, hjob⟩ := Outcome.exists_mem_of_mapM h hj
    exact ⟨f, hf, (Outcome.mem_mapM_iff (mapM_ofLayer_of_stripFrame hjob)).mpr hs⟩

/-- Every layer of a job can be looked up. -/
theorem exists_ofLayer_eq_ok {job : StripJob} (hj : job ∈ jobs) {l : Layer} (hl : l ∈ job.layers) :
    ∃ s, Source.ofLayer l = .ok s := by
  obtain ⟨f, -, hjob⟩ := Outcome.exists_mem_of_mapM h hj
  obtain ⟨s, -, hs⟩ := Outcome.exists_mem_of_mapM (mapM_ofLayer_of_stripFrame hjob) hl
  exact ⟨s, hs⟩

end Cut

/-! ### Fills -/

section Fill

variable {fill : Fill} {output : Output}

/-- **What a fill is checked for**, and what it makes of the output. -/
theorem fillTarget_eq_ok_iff {target : Target} :
    fillTarget fill output = .ok target ↔ ∃ whole address,
      Target.ofOutput output = .ok whole ∧
        (0 < fill.rect.w.toNat ∧ 0 < fill.rect.h.toNat) ∧
        (fill.rect.x.toNat + fill.rect.w.toNat ≤ output.memorySize.1.toNat ∧
          fill.rect.y.toNat + fill.rect.h.toNat ≤ output.memorySize.2.toNat) ∧
        (whole.layout.columnAlign ∣ fill.rect.x.toNat ∧
          whole.layout.rowAlign ∣ fill.rect.y.toNat) ∧
        moveAddresses (pixelOffset whole fill.rect.x fill.rect.y) whole.layout.planes
          output.address = .ok address ∧
        target =
          { whole with output := { output with
              width := fill.rect.w, height := fill.rect.h, rotation := .none, address } } := by
  rw [fillTarget, Outcome.bind_eq_ok_iff]
  refine exists_congr fun whole => ?_
  rw [exists_and_left]
  refine and_congr_right fun hwhole => ?_
  obtain ⟨hw, hh⟩ := Target.toNat_memorySize_le hwhole
  rw [ite_rejectGeometry_eq_ok_iff, ite_rejectGeometry_eq_ok_iff, Bool.not_eq_true,
    Bool.or_eq_false_iff, Rect.isEmpty_eq_false_iff, Bool.not_eq_false',
    Rect.contains_origin_iff (by omega) (by omega), not_or, not_not, not_not,
    ← Nat.dvd_iff_mod_eq_zero, ← Nat.dvd_iff_mod_eq_zero, Outcome.bind_eq_ok_iff]
  constructor
  · rintro ⟨⟨hnonempty, hinside⟩, haligned, address, haddress, ⟨⟩⟩
    exact ⟨address, hnonempty, hinside, haligned, haddress, rfl⟩
  · rintro ⟨address, hnonempty, hinside, haligned, haddress, rfl⟩
    exact ⟨⟨hnonempty, hinside⟩, haligned, address, haddress, rfl⟩

/-- A fill is the frame that **composes its color** onto a part of the output, with the fill as the
operation. -/
theorem fillFrame_eq_ok_iff {f : Frame} :
    c.fillFrame fill output = .ok f ↔ ∃ target composed, fillTarget fill output = .ok target ∧
      c.composeFrame 0 false [] target (some fill.color) none true = .ok composed ∧
      f = { composed with operation := .fill } := by
  rw [fillFrame, Outcome.bind_eq_ok_iff]
  refine exists_congr fun target => ?_
  rw [exists_and_left]
  refine and_congr_right fun htarget => ?_
  obtain ⟨_, _, -, -, -, -, -, rfl⟩ := fillTarget_eq_ok_iff.mp htarget
  simp only [composeFrame_eq_ok_iff, Outcome.bind_eq_ok_iff]
  constructor
  · rintro ⟨read, hread, write, hwrite, wiring, hwiring, ⟨⟩⟩
    exact ⟨_, ⟨read, write, wiring, hread, hwrite, hwiring, rfl⟩, rfl⟩
  · rintro ⟨_, ⟨read, write, wiring, hread, hwrite, hwiring, rfl⟩, rfl⟩
    exact ⟨read, hread, write, hwrite, wiring, hwiring, rfl⟩

theorem fill_eq_ok_iff {program : Program} :
    c.fill fill output = .ok program ↔ ∃ f, c.fillFrame fill output = .ok f ∧
      program = { operation := .fill, inStrips := false, passes := [f.pass] } := by
  rw [Compiler.fill, Outcome.bind_eq_ok_iff]
  refine exists_congr fun f => and_congr_right fun _ => ?_
  constructor
  · rintro ⟨⟩
    rfl
  · rintro rfl
    rfl

end Fill

end Compiler

end Blitter
