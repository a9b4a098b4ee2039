import Blitter.Proofs.Compiler.StripChecks
import Blitter.Proofs.Compiler.WellFormed
import Blitter.Proofs.Strip.Whole

/-!
# Compositions in one strip

Whether a composition is cut depends on the limits that the compiler is given. Limits under which
some line is too long, but with strips as wide as the picture, cut it into a single strip, and what
the strip is made of is worked out anew: the layers are clipped and looked up again, the operator
and the channels are chosen for the strip. It comes out as the composition in one piece does, and
**the engine is told the same but for the strip bit** (`exists_isStripOf_of_compose`).
-/

namespace Blitter

/-- The pass makes the writes of the other **with the strip bit set** in the work mode. -/
structure Pass.IsStripOf (strip whole : Pass) : Prop where
  commandId : strip.commandId = whole.commandId
  writes : ∃ number mode rest,
    whole.writes = number :: put Register.workMode mode :: rest ∧
      strip.writes = number :: put Register.workMode (mode ||| Register.workStrip) :: rest ∧
      mode &&& Register.workStrip = 0 ∧
      ∀ w ∈ number :: rest, w.offset ≠ UInt32.ofNat Register.workMode

namespace Frame

/-- What a frame writes after its header. -/
def bodyWrites (f : Frame) : List RegisterWrite :=
  f.read.readWrites ++ f.write.writeWrites ++ f.pipeWrites ++ f.wiring.writes ++ f.target.writes

theorem writes_pass (f : Frame) :
    f.pass.writes = headerWrites f.commandId f.operation f.isStrip ++ f.bodyWrites := by
  simp only [pass, bodyWrites, List.append_assoc]

/-- The work mode is written **in its place** in the header and nowhere else. -/
theorem Sound.offset_ne_workMode {g : Generation} {f : Frame} (h : f.Sound g) :
    ∀ w ∈ put Register.commandId f.commandId :: f.bodyWrites,
      w.offset ≠ UInt32.ofNat Register.workMode := by
  have honce := h.wellFormed_pass.once
  rw [f.writes_pass] at honce
  simp only [headerWrites, List.cons_append, List.nil_append, List.map_cons, List.nodup_cons,
    List.mem_cons, List.mem_map, not_or, not_exists, not_and] at honce
  obtain ⟨⟨hnumber, -⟩, hmode, -⟩ := honce
  intro w hw
  rcases List.mem_cons.mp hw with rfl | hw
  · exact hnumber
  · exact hmode w hw

/-- The frame of a whole picture, made a strip, sets **the strip bit** and no other. -/
theorem Sound.isStripOf {g : Generation} {f : Frame} (h : f.Sound g)
    (hwhole : f.isStrip = false) : Pass.IsStripOf { f with isStrip := true }.pass f.pass := by
  have hwrites := f.writes_pass
  have hstrip := Frame.writes_pass { f with isStrip := true }
  rw [hwhole] at hwrites
  refine ⟨rfl, _, _, f.bodyWrites, hwrites, ?_, ?_, h.offset_ne_workMode⟩
  · rw [hstrip]
    simp only [headerWrites, Bool.false_eq_true, if_false, if_true, UInt32.or_zero]
    rfl
  · cases f.operation <;> decide

end Frame

namespace Compiler

variable {c : Compiler} {r : Request} {target : Target} {sources : List Source}

/-- Looking up layers does not depend on **the limits**. -/
theorem resolveLayers_withLimits (limits : StripLimits) :
    resolveLayers { c with limits } r = c.resolveLayers r := by
  have hafter : ∀ before layers, resolveAfter { c with limits } r.output.width r.output.height
      before layers = c.resolveAfter r.output.width r.output.height before layers := by
    intro before layers
    induction layers generalizing before with
    | nil => rfl
    | cons l layers ih =>
      simp only [resolveAfter, ih]
      rfl
  exact hafter [] r.enabledLayers

/-- What is not turned is cut **for the sake of some source**. -/
theorem sources_ne_nil_of_needsStrips {limits : StripLimits}
    (hn : needsStrips sources target limits = .ok true)
    (hrotation : target.output.rotation = .none) : sources ≠ [] := by
  obtain ⟨-, hany, -⟩ := needsStrips_eq_ok_iff.mp hn
  rintro rfl
  rw [hrotation] at hany
  cases hany

/-- An operator whose layers are there is **kept**. -/
theorem operatorFor_eq_self {o : Option PorterDuff}
    (h : ∀ pd ∈ o, (∃ s ∈ sources, s.layer.pipe = pd.srcPipe) ∧
      ∃ s ∈ sources, s.layer.pipe = pd.dstPipe) : operatorFor o sources = o := by
  refine Option.ext fun pd => ?_
  rw [← Option.mem_def, ← Option.mem_def, mem_operatorFor_iff]
  exact and_iff_left_of_imp (h pd)

section Whole

variable (ht : Target.ofOutput r.output = .ok target) (hs : c.resolveLayers r = .ok sources)
include ht hs

/-- With strips as wide as the picture the plan is **one job, the composition as it was**. -/
theorem plan_eq_singleton {limits : StripLimits}
    (hn : needsStrips sources target limits = .ok true)
    (hwidth : r.output.width ≤ limits.width) :
    plan sources target limits = .ok
      [{ strip := .whole target.output.width, layers := r.enabledLayers
         output := target.output }] := by
  obtain ⟨⟨hpos, -⟩, -, houtput, -⟩ := Target.ofOutput_eq_ok_iff.mp ht
  obtain ⟨hlayers, -, -⟩ := admitted_of_resolveLayers ht hs
  have hclip : ∀ source ∈ sources,
      source.clip (.whole target.output.width) = .ok (some source.layer) := by
    intro source hm
    have hfits := fits_of_resolveLayers ht hs hm
    exact Source.clip_whole (scalesX_of_needsStrips hn hm) hfits.dst.w_pos hfits.dst_right
  have hjob := Strip.job_whole hclip
  rw [hlayers] at hjob
  rw [← houtput] at hpos hwidth
  rw [plan, stripsOf_eq_singleton hpos hwidth, Outcome.mapM_eq_ok_iff]
  exact .cons hjob .nil

/-- The frame of that job is the frame of the whole picture, **made a strip**. -/
theorem stripFrame_whole (hne : sources ≠ []) {f : Frame}
    (hf : c.composeFrame 0 false sources target r.background r.porterDuff (c.reserves r) = .ok f) :
    c.stripFrame r target
        { strip := .whole target.output.width, layers := r.enabledLayers
          output := target.output } = .ok { f with isStrip := true } := by
  obtain ⟨hlayers, -, hadmitted⟩ := admitted_of_resolveLayers ht hs
  have hfound : r.enabledLayers.mapM Source.ofLayer = .ok sources := by
    rw [← hlayers, Outcome.mapM_eq_ok_iff, List.forall₂_map_left_iff]
    exact List.forall₂_same.mpr fun source hm => (hadmitted source hm).found
  -- the operator keeps its layers, and some source needs a channel
  have hoperator : operatorFor r.porterDuff sources = r.porterDuff := by
    have hoperands := hasOperands_of_composeFrame hlayers hf
    refine operatorFor_eq_self fun pd hpd => ?_
    obtain ⟨hsrc, hdst⟩ := hoperands pd hpd
    simp only [← hlayers, List.mem_map, exists_exists_and_eq_and] at hsrc hdst
    exact ⟨hsrc, hdst⟩
  have hreserved : (c.reserves r || sources.isEmpty) = c.reserves r := by
    rw [List.isEmpty_eq_false_iff.mpr hne, Bool.or_false]
  obtain ⟨read, write, wiring, hread, hwrite, hwiring, rfl⟩ := composeFrame_eq_ok_iff.mp hf
  refine Outcome.bind_eq_ok_iff.mpr ⟨sources, hfound, ?_⟩
  rw [hoperator, hreserved]
  exact composeFrame_eq_ok_iff.mpr ⟨read, write, wiring, hread, hwrite, hwiring, rfl⟩

end Whole

/-- **A composition cut into one strip compiles as in one piece.** Where limits with strips as wide
as the picture have it cut, and other limits have it composed as it is, either program is one pass,
and the strip makes the same writes but for its bit in the work mode. -/
theorem exists_isStripOf_of_compose {wide roomy : StripLimits} {cut whole : Program}
    (hcut : compose { c with limits := wide } r = .ok cut) (hstrips : cut.inStrips = true)
    (hwidth : r.output.width ≤ wide.width)
    (hwhole : compose { c with limits := roomy } r = .ok whole)
    (hdirect : whole.inStrips = false) :
    ∃ strip pass, cut.passes = [strip] ∧ whole.passes = [pass] ∧ strip.IsStripOf pass := by
  obtain ⟨s, frames, hsplit, hframes, rfl⟩ := compose_eq_ok_iff.mp hwhole
  obtain ⟨target, sources, ht, hs, hn, rfl⟩ := split_whole_iff.mp ⟨hsplit, hdirect⟩
  obtain ⟨f, hf, hframes⟩ := Outcome.bind_eq_ok_iff.mp hframes
  cases hframes
  obtain ⟨s', frames', hsplit', hframes', rfl⟩ := compose_eq_ok_iff.mp hcut
  obtain ⟨target', sources', jobs, ht', hs', hn', hp, rfl⟩ :=
    split_cut_iff.mp ⟨hsplit', hstrips⟩
  -- both ways look up the same output and the same layers
  rw [resolveLayers_withLimits] at hs hs'
  obtain rfl := Outcome.eq_of_eq_ok ht ht'
  obtain rfl := Outcome.eq_of_eq_ok hs hs'
  have hrotation : target.output.rotation = .none := by
    obtain ⟨-, hany, -⟩ := needsStrips_eq_ok_iff.mp hn
    have hnone := (Bool.or_eq_false_iff.mp hany.symm).1
    exact bne_eq_false_iff_eq.mp hnone
  have hne := sources_ne_nil_of_needsStrips hn' hrotation
  rw [plan_eq_singleton ht hs hn' hwidth] at hp
  cases hp
  have hone : Split.frames (.strips wide.width r.output.width
      [stripFrame { c with limits := wide } r target _]) = .ok [{ f with isStrip := true }] :=
    Outcome.mapM_eq_ok_iff.mpr (.cons (stripFrame_whole ht hs hne hf) .nil)
  obtain rfl := Outcome.eq_of_eq_ok hframes' hone
  have hsound := sound_of_composeFrame hf
  obtain ⟨_, _, _, -, -, -, rfl⟩ := composeFrame_eq_ok_iff.mp hf
  exact ⟨_, _, rfl, rfl, hsound.isStripOf rfl⟩

/-- Limits for strips and lines of the given lengths. -/
def limitedTo (width line : UInt32) : Compiler :=
  { ofGeneration .normal with limits := { width, line, deepPipe := some 2 } }

/-- A mirrored layer of video as wide as a strip, with lines longer than the pipe buffers and with
lines that it does buffer. -/
theorem isStripOf_wideVideo :
    ∃ cut whole, (limitedTo 512 256).compose (wideVideo .hFlip ⟨0, 0, 512, 256⟩) = .ok cut ∧
      cut.inStrips = true ∧
      (limitedTo 512 512).compose (wideVideo .hFlip ⟨0, 0, 512, 256⟩) = .ok whole ∧
      whole.inStrips = false ∧
      ∃ strip pass, cut.passes = [strip] ∧ whole.passes = [pass] ∧ strip.IsStripOf pass := by
  have hcut : (limitedTo 512 256).compose (wideVideo .hFlip ⟨0, 0, 512, 256⟩) = .ok _ := rfl
  have hwhole : (limitedTo 512 512).compose (wideVideo .hFlip ⟨0, 0, 512, 256⟩) = .ok _ := rfl
  exact ⟨_, _, hcut, rfl, hwhole, rfl,
    exists_isStripOf_of_compose (c := ofGeneration .normal) hcut rfl (by decide) hwhole rfl⟩

end Compiler

end Blitter
