import Blitter.Compiler
import Blitter.Proofs.Format.Catalog
import Blitter.Proofs.Outcome
import Blitter.Proofs.Rect
import Mathlib.Data.List.Pairwise

/-!
# Layers that a compiler admits

`Compiler.resolveLayers` checks the enabled layers of a request one after the other and looks up
what they need. `resolveLayer_eq_ok_iff` says what one check asks for, and
`resolveLayers_eq_ok_iff` what all of them together do: the sources found are those of the
enabled layers, in order, each is `Admitted`, and no two share a pipe or a depth.
-/

namespace Blitter

/-- A size that a target can have. -/
theorem Target.ofOutput_eq_ok_iff {output : Output} {target : Target} :
    Target.ofOutput output = .ok target ↔
      (0 < output.width.toNat ∧ output.width.toNat ≤ 8192) ∧
        (0 < output.height.toNat ∧ output.height.toNat ≤ 8192) ∧ target.output = output ∧
        output.format.writeLayout = .ok (target.layout, target.bypass) := by
  have hmax : maxDimension.toNat = 8192 := rfl
  rw [Target.ofOutput, ite_reject_eq_ok_iff, Outcome.bind_eq_ok_iff]
  simp only [not_or, UInt32.lt_iff_toNat_lt, hmax, ← UInt32.toNat_inj, UInt32.toNat_zero]
  constructor
  · rintro ⟨hsize, ⟨layout, bypass⟩, hformat, ⟨⟩⟩
    exact ⟨by omega, by omega, rfl, hformat⟩
  · rintro ⟨hw, hh, rfl, hformat⟩
    exact ⟨by omega, (target.layout, target.bypass), hformat, rfl⟩

theorem Target.ofOutput_self {output : Output} {t : Target} (h : ofOutput output = .ok t) :
    ofOutput t.output = .ok t := by
  obtain ⟨-, -, houtput, -⟩ := ofOutput_eq_ok_iff.mp h
  rw [houtput]
  exact h

/-- A surface in memory is no larger than the picture. -/
theorem Target.toNat_memorySize_le {output : Output} {t : Target} (h : ofOutput output = .ok t) :
    output.memorySize.1.toNat ≤ 8192 ∧ output.memorySize.2.toNat ≤ 8192 := by
  obtain ⟨⟨-, hw⟩, ⟨-, hh⟩, -⟩ := ofOutput_eq_ok_iff.mp h
  unfold Output.memorySize Rotation.size
  split
  · exact ⟨hh, hw⟩
  · exact ⟨hw, hh⟩

/-- A target is an output in a format of the catalog that **can be written**. -/
theorem Target.exists_format_of_ofOutput {output : Output} {t : Target}
    (h : ofOutput output = .ok t) :
    ∃ f ∈ Format.catalog, f.code = output.format ∧ f.writable = true ∧
      t = ⟨output, f.layout, .ofLayout f.layout⟩ := by
  obtain ⟨-, -, houtput, hformat⟩ := ofOutput_eq_ok_iff.mp h
  obtain ⟨f, hf, hcode, hwritable, hlayout, hbypass⟩ :=
    FormatCode.writeLayout_eq_ok_iff.mp hformat
  refine ⟨f, hf, hcode, hwritable, ?_⟩
  rw [← houtput, ← hbypass, ← hlayout]

/-- A target is in a format of the catalog. -/
theorem Target.exists_mem_catalog {t : Target} (h : Target.ofOutput t.output = .ok t) :
    ∃ f ∈ Format.catalog, t.layout = f.layout := by
  obtain ⟨f, hf, -, -, ht⟩ := exists_format_of_ofOutput h
  exact ⟨f, hf, congrArg layout ht⟩

/-- Looking up a layer keeps it as it is. -/
theorem Source.ofLayer_eq_ok_iff {l : Layer} {source : Source} :
    Source.ofLayer l = .ok source ↔ source.layer = l ∧
      l.format.readLayout = .ok source.layout ∧
      TileFetch.resolve l.format l.arrangement l.src = .ok source.fetch := by
  unfold Source.ofLayer
  simp only [Outcome.bind_eq_ok_iff]
  constructor
  · rintro ⟨layout, hlayout, fetch, hfetch, ⟨⟩⟩
    exact ⟨rfl, hlayout, hfetch⟩
  · rintro ⟨rfl, hlayout, hfetch⟩
    exact ⟨source.layout, hlayout, source.fetch, hfetch, rfl⟩

/-- Layers that are looked up are kept, in order. -/
theorem Source.map_layer_of_mapM {layers : List Layer} {sources : List Source}
    (h : layers.mapM Source.ofLayer = .ok sources) : sources.map Source.layer = layers :=
  map_eq_iff_forall₂.mpr ((Outcome.mapM_eq_ok_iff.mp h).imp fun _ _ hs =>
    (Source.ofLayer_eq_ok_iff.mp hs).1.symm)

namespace Compiler

/-- The compiler of a generation that keeps to its limits and replays nothing. -/
def ofGeneration (g : Generation) : Compiler :=
  { generation := g, limits := .ofGeneration g, replays := false }

/-- The rectangles of the layer **fit**: the source a surface of the largest size, the destination
a picture of the given size. -/
structure RectsFit (width height : UInt32) (l : Layer) : Prop where
  src : l.src.Sized
  dst : l.dst.Sized
  src_right : l.src.x.toNat + l.src.w.toNat ≤ 8192
  src_bottom : l.src.y.toNat + l.src.h.toNat ≤ 8192
  dst_right : l.dst.x.toNat + l.dst.w.toNat ≤ width.toNat
  dst_bottom : l.dst.y.toNat + l.dst.h.toNat ≤ height.toNat

theorem checkRect_eq_ok_iff {pipe : Nat} {role : RectRole} {r : Rect} :
    checkRect pipe role r = .ok () ↔ r.Sized := by
  rw [checkRect, ite_rejectGeometry_eq_ok_iff, Rect.sized_iff, Bool.not_eq_true]
  simp only [and_true]

/-- Rectangles that passed their checks are **no larger than a size field carries**, whatever the
picture is. -/
theorem sized_of_checkRects {width height : UInt32} {l : Layer}
    (h : checkRects width height l = .ok ()) : l.src.Sized ∧ l.dst.Sized := by
  rw [checkRects, Outcome.seq_eq_ok_iff, Outcome.seq_eq_ok_iff, checkRect_eq_ok_iff,
    checkRect_eq_ok_iff] at h
  exact ⟨h.1, h.2.1⟩

theorem checkRects_eq_ok_iff {width height : UInt32} {l : Layer} (hw : width.toNat < 2 ^ 32 - 1)
    (hh : height.toNat < 2 ^ 32 - 1) :
    checkRects width height l = .ok () ↔ RectsFit width height l := by
  have hmax : maxDimension.toNat < 2 ^ 32 - 1 := by decide
  rw [checkRects, Outcome.seq_eq_ok_iff, Outcome.seq_eq_ok_iff, checkRect_eq_ok_iff,
    checkRect_eq_ok_iff, ite_rejectGeometry_eq_ok_iff, ite_rejectGeometry_eq_ok_iff,
    Bool.not_eq_true', Bool.not_eq_false, Bool.not_eq_true', Bool.not_eq_false,
    Rect.contains_origin_iff hmax hmax, Rect.contains_origin_iff hw hh]
  constructor
  · rintro ⟨hsrc, hdst, ⟨hsr, hsb⟩, ⟨hdr, hdb⟩, -⟩
    exact ⟨hsrc, hdst, hsr, hsb, hdr, hdb⟩
  · rintro ⟨hsrc, hdst, hsr, hsb, hdr, hdb⟩
    exact ⟨hsrc, hdst, ⟨hsr, hsb⟩, ⟨hdr, hdb⟩, rfl⟩

/-- Two layers can be in one picture: they share neither a pipe nor a depth. -/
def Apart (k l : Layer) : Prop := k.pipe ≠ l.pipe ∧ k.depth ≠ l.depth

theorem Apart.symm {k l : Layer} (h : Apart k l) : Apart l k := ⟨h.1.symm, h.2.symm⟩

/-- The source is one that the compiler **admits** to a picture of the given size. -/
structure Admitted (c : Compiler) (width height : UInt32) (source : Source) : Prop where
  fits : RectsFit width height source.layer
  found : Source.ofLayer source.layer = .ok source
  fetched : ∃ pipe, c.pipes[source.layer.pipe.toNat]? = some pipe ∧ pipe.check source = .ok ()

variable {c : Compiler} {width height : UInt32}

theorem resolveLayer_eq_ok_iff (hw : width.toNat < 2 ^ 32 - 1) (hh : height.toNat < 2 ^ 32 - 1)
    {before : List Layer} {l : Layer} {source : Source} :
    c.resolveLayer width height before l = .ok source ↔
      source.layer = l ∧ (∀ b ∈ before, Apart b l) ∧ c.Admitted width height source := by
  cases hpipe : c.pipes[l.pipe.toNat]? with
  | none =>
    -- without a pipe of that number neither side holds
    simp only [resolveLayer, hpipe]
    refine iff_of_false reject_ne_ok ?_
    rintro ⟨rfl, -, -, -, pipe, hp, -⟩
    rw [hpipe] at hp
    cases hp
  | some pipe =>
    simp only [resolveLayer, hpipe, ite_reject_eq_ok_iff, ite_rejectGeometry_eq_ok_iff,
      Outcome.seq_eq_ok_iff, checkRects_eq_ok_iff hw hh, Bool.not_eq_true, List.any_eq_false,
      beq_iff_eq]
    constructor
    · rintro ⟨hpipes, hdepths, hfit, h⟩
      obtain ⟨found, hfound, h⟩ := Outcome.bind_eq_ok_iff.mp h
      obtain ⟨hcheck, h⟩ := Outcome.seq_eq_ok_iff.mp h
      cases h
      obtain ⟨rfl, -⟩ := Source.ofLayer_eq_ok_iff.mp hfound
      exact ⟨rfl, fun b hb => ⟨hpipes b hb, hdepths b hb⟩, hfit, hfound, pipe, hpipe, hcheck⟩
    · rintro ⟨rfl, hapart, hfit, hfound, pipe', hpipe', hcheck⟩
      rw [hpipe] at hpipe'
      cases hpipe'
      exact ⟨fun b hb => (hapart b hb).1, fun b hb => (hapart b hb).2, hfit,
        Outcome.bind_eq_ok_iff.mpr ⟨source, hfound, Outcome.seq_eq_ok_iff.mpr ⟨hcheck, rfl⟩⟩⟩

theorem resolveAfter_eq_ok_iff (hw : width.toNat < 2 ^ 32 - 1) (hh : height.toNat < 2 ^ 32 - 1)
    {before layers : List Layer} {sources : List Source} :
    c.resolveAfter width height before layers = .ok sources ↔
      sources.map Source.layer = layers ∧ (∀ b ∈ before, ∀ l ∈ layers, Apart b l) ∧
        layers.Pairwise Apart ∧ ∀ source ∈ sources, c.Admitted width height source := by
  -- a layer that is admitted joins those before it, which the rest are checked against
  induction layers generalizing before sources with
  | nil =>
    rw [resolveAfter, List.map_eq_nil_iff]
    constructor
    · rintro ⟨⟩
      simp
    · rintro ⟨rfl, -⟩
      rfl
  | cons l layers ih =>
    simp only [resolveAfter, Outcome.bind_eq_ok_iff, resolveLayer_eq_ok_iff hw hh, ih,
      List.map_eq_cons_iff, List.forall_mem_append, List.forall_mem_singleton, List.forall_mem_cons,
      List.pairwise_cons]
    constructor
    · rintro ⟨source, ⟨hl, hbefore, hadmitted⟩, rest, ⟨hrest, ⟨hafter, hl'⟩, hpair, hall⟩, ⟨⟩⟩
      exact ⟨⟨source, rest, rfl, hl, hrest⟩, fun b hb => ⟨hbefore b hb, hafter b hb⟩, ⟨hl', hpair⟩,
        List.forall_mem_cons.mpr ⟨hadmitted, hall⟩⟩
    · rintro ⟨⟨source, rest, rfl, hl, hrest⟩, hbefore, ⟨hl', hpair⟩, hall⟩
      obtain ⟨hadmitted, hall⟩ := List.forall_mem_cons.mp hall
      exact ⟨source, ⟨hl, fun b hb => (hbefore b hb).1, hadmitted⟩, rest,
        ⟨hrest, ⟨fun b hb => (hbefore b hb).2, hl'⟩, hpair, hall⟩, rfl⟩

/-- **What is admitted**: the enabled layers, in order, if each can be fetched and fits, and no
two share a pipe or a depth. -/
theorem resolveLayers_eq_ok_iff {r : Request} (hw : r.output.width.toNat < 2 ^ 32 - 1)
    (hh : r.output.height.toNat < 2 ^ 32 - 1) {sources : List Source} :
    c.resolveLayers r = .ok sources ↔
      sources.map Source.layer = r.enabledLayers ∧ r.enabledLayers.Pairwise Apart ∧
        ∀ source ∈ sources, c.Admitted r.output.width r.output.height source := by
  rw [resolveLayers, resolveAfter_eq_ok_iff hw hh]
  simp only [List.not_mem_nil, false_implies, implies_true, true_and]

section Resolved

variable {r : Request} {target : Target} {sources : List Source}
  (ht : Target.ofOutput r.output = .ok target) (hs : c.resolveLayers r = .ok sources)
include ht hs

/-- What is known of the sources once the output is known to be sound. -/
theorem admitted_of_resolveLayers :
    sources.map Source.layer = r.enabledLayers ∧ r.enabledLayers.Pairwise Apart ∧
      ∀ source ∈ sources, c.Admitted r.output.width r.output.height source := by
  obtain ⟨⟨-, hw⟩, ⟨-, hh⟩, -⟩ := Target.ofOutput_eq_ok_iff.mp ht
  exact (resolveLayers_eq_ok_iff (by omega) (by omega)).mp hs

/-- The destination of a source lies in the picture that the output is made from. -/
theorem fits_of_resolveLayers {source : Source} (hm : source ∈ sources) :
    RectsFit target.output.width target.output.height source.layer := by
  obtain ⟨-, -, hadmitted⟩ := admitted_of_resolveLayers ht hs
  obtain ⟨-, -, houtput, -⟩ := Target.ofOutput_eq_ok_iff.mp ht
  rw [houtput]
  exact (hadmitted source hm).fits

/-- A source is told by its pipe. -/
theorem eq_of_pipe_eq {k l : Source} (hk : k ∈ sources) (hl : l ∈ sources)
    (hpipe : k.layer.pipe = l.layer.pipe) : k = l := by
  obtain ⟨hmap, hpair, -⟩ := admitted_of_resolveLayers ht hs
  rw [← hmap, List.pairwise_map] at hpair
  obtain ⟨i, hi, rfl⟩ := List.mem_iff_getElem.mp hk
  obtain ⟨j, hj, rfl⟩ := List.mem_iff_getElem.mp hl
  rcases Nat.lt_trichotomy i j with hij | rfl | hij
  · exact absurd hpipe (List.pairwise_iff_getElem.mp hpair i j hi hj hij).1
  · rfl
  · exact absurd hpipe.symm (List.pairwise_iff_getElem.mp hpair j i hj hi hij).1

end Resolved

namespace Admitted

variable {source : Source} (h : c.Admitted width height source)
include h

/-- The destination of an admitted layer stays in the range of words. -/
theorem columnsFit : source.layer.dst.ColumnsFit := by
  have := h.fits.dst_right
  have := width.toNat_lt
  unfold Rect.ColumnsFit
  omega

/-- An admitted layer is in a format of the catalog. -/
theorem exists_mem_catalog : ∃ f ∈ Format.catalog, source.layout = f.layout := by
  obtain ⟨-, hlayout, -⟩ := Source.ofLayer_eq_ok_iff.mp h.found
  obtain ⟨f, hf, -, hlayout⟩ := FormatCode.readLayout_eq_ok_iff.mp hlayout
  exact ⟨f, hf, hlayout⟩

/-- A pixel of an admitted layer takes room in the first plane. -/
theorem planeBits_zero_pos : 0 < source.layout.planeBits 0 := by
  obtain ⟨f, hf, hlayout⟩ := h.exists_mem_catalog
  have hcatalog : ∀ f ∈ Format.catalog, 0 < f.layout.planeBits 0 := by decide
  rw [hlayout]
  exact hcatalog f hf

end Admitted

end Compiler

end Blitter
