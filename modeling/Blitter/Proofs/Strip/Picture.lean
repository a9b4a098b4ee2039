import Blitter.Proofs.Compiler.Admission
import Blitter.Proofs.Strip.Plan

/-!
# What a clipped layer shows

`Layer.Shows` tells which pixel of the memory behind a layer a column of the picture shows. A
layer that is clipped to a strip shows in each column of the strip exactly the pixels that the
whole layer shows there, once the columns that its addresses skip are counted in. Those of a tiled
layer skip none.
-/

namespace Blitter

/-- Column `x` of the picture **shows**, in row `v` of the turned source, the pixel in column `a`
and row `b` of the memory behind the layer. Columns and rows of memory are counted from where the
layer's addresses point; columns of a layer that is not stretched across are those of its turned
source. -/
def Layer.Shows (order : FlipOrder) (l : Layer) (x v a b : Nat) : Prop :=
  ∃ i j, i < l.src.w.toNat ∧ j < l.src.h.toNat ∧
    l.src.x.toNat + i = a ∧ l.src.y.toNat + j = b ∧
    l.dst.x.toNat + (l.rotation.place order l.src.w.toNat l.src.h.toNat (i, j)).1 = x ∧
    (l.rotation.place order l.src.w.toNat l.src.h.toNat (i, j)).2 = v

/-- Position `a` of an axis of memory is the one at distance `c` along a run of `n` positions from
`base` on, walked from the end that `back` tells. -/
def AxisShows (back : Bool) (n base a c : Nat) : Prop :=
  ∃ k, k < n ∧ base + k = a ∧ mirror back n k = c

theorem exists_axisShows (back : Bool) {n c : Nat} (base : Nat) (h : c < n) :
    ∃ a, AxisShows back n base a c :=
  ⟨_, mirror back n c, mirror_lt h, rfl, mirror_mirror h⟩

/-- A middle part of the run has the same position at the same place. -/
theorem axisShows_part_iff {back : Bool} {l n r base a c : Nat} (hl : l ≤ c) (hc : c < l + n) :
    AxisShows back (l + n + r) base a c ↔
      AxisShows back n (base + if back then r else l) a (c - l) := by
  constructor
  · rintro ⟨i, hi, ha, hm⟩
    obtain ⟨k, hk, rfl, hkm⟩ := (lt_and_mirror_eq_iff hl hc).mp ⟨hi, hm⟩
    exact ⟨k, hk, by omega, by omega⟩
  · rintro ⟨k, hk, ha, hm⟩
    obtain ⟨hi, him⟩ := (lt_and_mirror_eq_iff (b := back) (r := r) hl hc).mpr
      ⟨k, hk, rfl, by omega⟩
    exact ⟨_, hi, by omega, him⟩

/-- The start of a run may be counted in afterwards. -/
theorem axisShows_add_iff {back : Bool} {m n base a c : Nat} :
    AxisShows back n (m + base) a c ↔ ∃ a', m + a' = a ∧ AxisShows back n base a' c := by
  constructor
  · rintro ⟨k, hk, ha, hm⟩
    exact ⟨base + k, by omega, k, hk, rfl, hm⟩
  · rintro ⟨_, ha, k, hk, rfl, hm⟩
    exact ⟨k, hk, by omega, hm⟩

namespace Layer

variable {order : FlipOrder} {l : Layer} {x v a b : Nat}

/-- A layer that keeps its axes walks its columns along the columns of memory. -/
theorem shows_iff_of_not_swapsAxes (hr : l.rotation.swapsAxes = false) :
    l.Shows order x v a b ↔
      l.dst.x.toNat ≤ x ∧
        AxisShows (l.rotation.mirrorsColumns order) l.src.w.toNat l.src.x.toNat a
          (x - l.dst.x.toNat) ∧
        AxisShows (l.rotation.mirrorsRows order) l.src.h.toNat l.src.y.toNat b v := by
  constructor
  · rintro ⟨i, j, hi, hj, ha, hb, hx, hv⟩
    rw [Rotation.place_of_not_swapsAxes hr hj] at hx hv
    exact ⟨by omega, ⟨i, hi, ha, by omega⟩, j, hj, hb, hv⟩
  · rintro ⟨hle, ⟨i, hi, ha, hx⟩, j, hj, hb, hv⟩
    refine ⟨i, j, hi, hj, ha, hb, ?_, ?_⟩ <;> rw [Rotation.place_of_not_swapsAxes hr hj]
    · show l.dst.x.toNat + mirror _ _ _ = x
      omega
    · exact hv

/-- A layer that swaps its axes walks its columns along the rows of memory. -/
theorem shows_iff_of_swapsAxes (hr : l.rotation.swapsAxes = true) :
    l.Shows order x v a b ↔
      l.dst.x.toNat ≤ x ∧
        AxisShows (l.rotation.mirrorsColumns order) l.src.h.toNat l.src.y.toNat b
          (x - l.dst.x.toNat) ∧
        AxisShows (l.rotation.mirrorsRows order) l.src.w.toNat l.src.x.toNat a v := by
  constructor
  · rintro ⟨i, j, hi, hj, ha, hb, hx, hv⟩
    rw [Rotation.place_of_swapsAxes hr hj] at hx hv
    exact ⟨by omega, ⟨j, hj, hb, by omega⟩, i, hi, ha, hv⟩
  · rintro ⟨hle, ⟨j, hj, hb, hx⟩, i, hi, ha, hv⟩
    refine ⟨i, j, hi, hj, ha, hb, ?_, ?_⟩ <;> rw [Rotation.place_of_swapsAxes hr hj]
    · show l.dst.x.toNat + mirror _ _ _ = x
      omega
    · exact hv

/-- Every column of a layer that is not stretched across shows something. -/
theorem exists_shows (hsrc : l.src.Sized) (h : l.scalesX = false) (hx : l.dst.HoldsColumn x) :
    ∃ v a b, l.Shows order x v a b := by
  have hw := toNat_w_dst_of_scalesX h
  have hcol : x - l.dst.x.toNat < l.dst.w.toNat := by
    unfold Rect.HoldsColumn at hx
    omega
  cases hr : l.rotation.swapsAxes with
  | false =>
    rw [hw, hr, if_neg Bool.false_ne_true] at hcol
    obtain ⟨a, ha⟩ := exists_axisShows (l.rotation.mirrorsColumns order) l.src.x.toNat hcol
    obtain ⟨b, hb⟩ := exists_axisShows (l.rotation.mirrorsRows order) l.src.y.toNat hsrc.h_pos
    exact ⟨0, a, b, (shows_iff_of_not_swapsAxes hr).mpr ⟨hx.1, ha, hb⟩⟩
  | true =>
    rw [hw, hr, if_pos rfl] at hcol
    obtain ⟨b, hb⟩ := exists_axisShows (l.rotation.mirrorsColumns order) l.src.y.toNat hcol
    obtain ⟨a, ha⟩ := exists_axisShows (l.rotation.mirrorsRows order) l.src.x.toNat hsrc.w_pos
    exact ⟨0, a, b, (shows_iff_of_swapsAxes hr).mpr ⟨hx.1, hb, ha⟩⟩

end Layer

namespace Source.ClipsTo

variable {source : Source} {s : Strip} {clipped : Layer} {order : FlipOrder} {x : Nat}

/-- The distance of a column from the near edge of the part. -/
private theorem distance_eq (h : source.ClipsTo s clipped) (hs : s.Holds x)
    (hd : source.layer.dst.HoldsColumn x) :
    x - source.layer.dst.x.toNat - s.cutLeft source.layer.dst =
      x - s.x.toNat - clipped.dst.x.toNat := by
  have horigin := h.cuts.origin
  obtain ⟨hle, -⟩ := h.cuts.holdsColumn_iff.mp ⟨hs, hd⟩
  omega

/-- Along the axis that is cut, the part shows what the whole shows. -/
theorem axisShows_iff (h : source.ClipsTo s clipped) (hs : s.Holds x)
    (hd : source.layer.dst.HoldsColumn x) {n base part a : Nat}
    (hn : n + part = base + source.skipped order s) :
    AxisShows (source.layer.rotation.mirrorsColumns order) source.layer.dst.w.toNat base a
        (x - source.layer.dst.x.toNat) ↔
      ∃ a', n + a' = a ∧ AxisShows (source.layer.rotation.mirrorsColumns order)
        clipped.dst.w.toNat part a' (x - s.x.toNat - clipped.dst.x.toNat) := by
  have horigin := h.cuts.origin
  obtain ⟨hle, hpart⟩ := h.cuts.holdsColumn_iff.mp ⟨hs, hd⟩
  unfold Rect.HoldsColumn at hpart
  rw [h.cuts.width, axisShows_part_iff (by omega) (by omega), h.distance_eq hs hd,
    ← axisShows_add_iff, hn]
  rfl

/-- Columns of a clipped layer that keeps its axes. -/
private theorem shows_iff_columns (h : source.ClipsTo s clipped)
    (hx : source.layer.scalesX = false) (hr : source.layer.rotation.swapsAxes = false)
    (hs : s.Holds x) (hd : source.layer.dst.HoldsColumn x) {n v a b : Nat}
    (hn : n + clipped.src.x.toNat = source.layer.src.x.toNat + source.skipped order s) :
    source.layer.Shows order x v a b ↔
      ∃ a', n + a' = a ∧ clipped.Shows order (x - s.x.toNat) v a' b := by
  obtain ⟨hsrc, -⟩ := h.columns hr
  obtain ⟨-, hpart⟩ := h.cuts.holdsColumn_iff.mp ⟨hs, hd⟩
  have hw := Layer.toNat_w_dst_of_scalesX hx
  rw [hr, if_neg Bool.false_ne_true] at hw
  have hr' : clipped.rotation.swapsAxes = false := by rw [h.rotation_eq, hr]
  have hsw : clipped.src.w = clipped.dst.w := by rw [hsrc]
  have hsh : clipped.src.h = source.layer.src.h := by rw [hsrc]
  have hsy : clipped.src.y = source.layer.src.y := by rw [hsrc]
  simp only [Layer.shows_iff_of_not_swapsAxes hr, Layer.shows_iff_of_not_swapsAxes hr', ← hw,
    h.axisShows_iff hs hd hn, h.rotation_eq, hsw, hsh, hsy, hd.1, hpart.1, true_and]
  constructor
  · rintro ⟨⟨a', ha, hcol⟩, hrow⟩
    exact ⟨a', ha, hcol, hrow⟩
  · rintro ⟨a', ha, hcol, hrow⟩
    exact ⟨⟨a', ha, hcol⟩, hrow⟩

/-- Columns of a clipped layer that swaps its axes. -/
private theorem shows_iff_rows (h : source.ClipsTo s clipped)
    (hx : source.layer.scalesX = false) (hr : source.layer.rotation.swapsAxes = true)
    (hs : s.Holds x) (hd : source.layer.dst.HoldsColumn x) {v a b : Nat}
    (hy : clipped.src.y.toNat = source.layer.src.y.toNat + source.skipped order s) :
    source.layer.Shows order x v a b ↔ clipped.Shows order (x - s.x.toNat) v a b := by
  obtain ⟨hsrc, -⟩ := h.rows hr
  obtain ⟨-, hpart⟩ := h.cuts.holdsColumn_iff.mp ⟨hs, hd⟩
  have hw := Layer.toNat_w_dst_of_scalesX hx
  rw [hr, if_pos rfl] at hw
  have hr' : clipped.rotation.swapsAxes = true := by rw [h.rotation_eq, hr]
  have hsh : clipped.src.h = clipped.dst.w := by rw [hsrc]
  have hsw : clipped.src.w = source.layer.src.w := by rw [hsrc]
  have hsx : clipped.src.x = source.layer.src.x := by rw [hsrc]
  simp only [Layer.shows_iff_of_swapsAxes hr, Layer.shows_iff_of_swapsAxes hr', ← hw,
    h.axisShows_iff hs hd ((Nat.zero_add _).trans hy), Nat.zero_add, exists_eq_left,
    h.rotation_eq, hsh, hsw, hsx, hd.1, hpart.1, true_and]

/-- **A clipped layer shows what the whole layer shows**, in every column of the strip, once the
columns that its addresses skip are counted in. The order of turn and flip has to be one under
which as much of the source is on the near side of the strip as clipping skips. -/
theorem exists_skips_shows_iff (h : source.ClipsTo s clipped) (hx : source.layer.scalesX = false) :
    ∃ n, source.Skips clipped n ∧ source.layout.columnGroup ∣ n ∧
      ∀ order, source.skipped order s = source.skipped .flipFirst s →
        ∀ x, s.Holds x → source.layer.dst.HoldsColumn x → ∀ v a b,
          (source.layer.Shows order x v a b ↔
            ∃ a', n + a' = a ∧ clipped.Shows order (x - s.x.toNat) v a' b) := by
  cases hr : source.layer.rotation.swapsAxes with
  | false =>
    obtain ⟨-, n, hskips, hgroup, hn⟩ := h.columns hr
    refine ⟨n, hskips, hgroup, fun order ho x hs hd v a b => ?_⟩
    rw [← ho] at hn
    exact h.shows_iff_columns hx hr hs hd hn
  | true =>
    obtain ⟨-, haddr, hy⟩ := h.rows hr
    refine ⟨0, Source.skips_zero haddr, Nat.dvd_zero _, fun order ho x hs hd v a b => ?_⟩
    rw [← ho] at hy
    rw [h.shows_iff_rows hx hr hs hd hy]
    simp only [Nat.zero_add, exists_eq_left]

end Source.ClipsTo

/-- The clipped layer **stands for** the source in the strip: it covers the columns that both
share, shows in each what the source shows there, and is like the source in all else. -/
structure Source.StandsFor (source : Source) (s : Strip) (clipped : Layer) : Prop where
  meets : ∃ x, s.Holds x ∧ source.layer.dst.HoldsColumn x
  covers : ∀ x, s.Holds x ∧ source.layer.dst.HoldsColumn x ↔
    s.x.toNat ≤ x ∧ clipped.dst.HoldsColumn (x - s.x.toNat)
  shows : ∃ n, (∀ m, source.Skips clipped m ↔ m = n) ∧ source.layout.columnGroup ∣ n ∧
    ∀ order x, s.Holds x → source.layer.dst.HoldsColumn x →
      (∃ v a b, source.layer.Shows order x v a b) ∧
        ∀ v a b, source.layer.Shows order x v a b ↔
          ∃ a', n + a' = a ∧ clipped.Shows order (x - s.x.toNat) v a' b
  tiled : source.layer.arrangement ≠ .linear → clipped.address = source.layer.address
  dst_eq : clipped.dst = { source.layer.dst with x := clipped.dst.x, w := clipped.dst.w }
  upright : source.layer.rotation.swapsAxes = false →
    clipped = { source.layer with
      address := clipped.address, dst := clipped.dst
      src := { source.layer.src with x := clipped.src.x, w := clipped.src.w } }
  turned : source.layer.rotation.swapsAxes = true →
    clipped = { source.layer with
      dst := clipped.dst
      src := { source.layer.src with y := clipped.src.y, h := clipped.src.h } }

theorem Source.ClipsTo.standsFor {source : Source} {s : Strip} {clipped : Layer}
    (h : source.ClipsTo s clipped) (hsrc : source.layer.src.Sized)
    (hbits : 0 < source.layout.planeBits 0) (hx : source.layer.scalesX = false)
    (hr : source.layer.rotation.isCombined = false) : source.StandsFor s clipped where
  meets := h.cuts.exists_holds
  covers _ := h.cuts.holdsColumn_iff
  shows := by
    obtain ⟨n, hskips, hgroup, hshows⟩ := h.exists_skips_shows_iff hx
    refine ⟨n, fun m => ⟨fun hm => hm.eq hbits hskips, fun hm => hm ▸ hskips⟩, hgroup, ?_⟩
    intro order x hs hd
    exact ⟨Layer.exists_shows hsrc hx hd,
      hshows order (Source.skipped_of_not_isCombined hr) x hs hd⟩
  tiled := h.address_eq
  dst_eq := h.cuts.rest
  upright hr := by
    obtain ⟨hsrc, -⟩ := h.columns hr
    rw [h.rest, hsrc]
  turned hr := by
    obtain ⟨hsrc, haddr, -⟩ := h.rows hr
    rw [h.rest, hsrc, haddr]

/-- The jobs **carry** the source: in every column of its destination it is found in exactly one
job, once, and whatever is found on its pipe stands for it. -/
structure Source.CarriedBy (source : Source) (jobs : List StripJob) : Prop where
  found : ∀ x, source.layer.dst.HoldsColumn x →
    ∃ i : Fin jobs.length, (∀ k : Fin jobs.length, (jobs.get k).strip.Holds x ↔ k = i) ∧
      ∃! clipped, clipped ∈ (jobs.get i).layers ∧ clipped.pipe = source.layer.pipe
  standsFor : ∀ job ∈ jobs, ∀ clipped ∈ job.layers, clipped.pipe = source.layer.pipe →
    source.StandsFor job.strip clipped

section Plan

variable {c : Compiler} {r : Request} {target : Target} {sources : List Source}
  {jobs : List StripJob} (ht : Target.ofOutput r.output = .ok target)
  (hs : c.resolveLayers r = .ok sources) (hp : plan sources target c.limits = .ok jobs)
include ht hs hp

/-- A layer of a job is what the source on its pipe was clipped to. -/
theorem clip_of_mem_layers {source : Source} (hm : source ∈ sources) {job : StripJob}
    (hj : job ∈ jobs) {clipped : Layer} (hc : clipped ∈ job.layers)
    (hpipe : clipped.pipe = source.layer.pipe) : source.clip job.strip = .ok (some clipped) := by
  obtain ⟨-, -, hadmitted⟩ := Compiler.admitted_of_resolveLayers ht hs
  obtain ⟨other, hm', hclip⟩ := (Strip.mem_layers_iff (job_of_mem_plan hp hj).2).mp hc
  have hto := Source.clipsTo_of_clip (within_of_mem_plan hp hj) (hadmitted other hm').columnsFit
    hclip
  have hpipe' : other.layer.pipe = source.layer.pipe := by
    rw [← hpipe, hto.rest]
  -- pipes tell the sources of a request apart
  rw [← Compiler.eq_of_pipe_eq ht hs hm' hm hpipe']
  exact hclip

/-- **Cutting into strips preserves what every layer shows.** A layer that was admitted to a
composition which has to be cut is carried by the jobs of its plan, unless its rotation is a
combined one. -/
theorem carriedBy_of_plan (hn : needsStrips sources target c.limits = .ok true) {source : Source}
    (hm : source ∈ sources) (hr : source.layer.rotation.isCombined = false) :
    source.CarriedBy jobs := by
  obtain ⟨-, -, hadmitted⟩ := Compiler.admitted_of_resolveLayers ht hs
  have hfits := Compiler.fits_of_resolveLayers ht hs hm
  have hcolumns := (hadmitted source hm).columnsFit
  refine ⟨fun x hx => ?_, fun job hj clipped hc hpipe => ?_⟩
  · have hxw : x < target.output.width.toNat := Nat.lt_of_lt_of_le hx.2 hfits.dst_right
    obtain ⟨i, hi⟩ := exists_holds_plan_iff hp hxw
    have hj : jobs.get i ∈ jobs := List.get_mem _ _
    obtain ⟨clipped, hc, hclip⟩ := Strip.exists_mem_layers (job_of_mem_plan hp hj).2
      (within_of_mem_plan hp hj) hm hcolumns ((hi i).mpr rfl) hx
    have hto := Source.clipsTo_of_clip (within_of_mem_plan hp hj) hcolumns hclip
    refine ⟨i, hi, clipped, ⟨hc, by rw [hto.rest]⟩, ?_⟩
    rintro other ⟨hother, hpipe⟩
    have heq := (clip_of_mem_layers ht hs hp hm hj hother hpipe).symm.trans hclip
    exact Option.some.inj (Except.ok.inj heq)
  · have hto := Source.clipsTo_of_clip (within_of_mem_plan hp hj) hcolumns
      (clip_of_mem_layers ht hs hp hm hj hc hpipe)
    exact hto.standsFor hfits.src (hadmitted source hm).planeBits_zero_pos
      (scalesX_of_needsStrips hn hm) hr

end Plan

/-- A mirrored layer of video, wider than a line buffer and at an odd column, below a turned layer
of graphics and one whose graphics lie in tiles. -/
def mirroredVideo : Request :=
  { layers := [
      { format := .ofLetters 'N' 'V' '1' '2', src := ⟨3, 2, 301, 40⟩, dst := ⟨101, 5, 301, 40⟩
        pipe := 0, rotation := .hFlip
        address := forPlanes 0x1000 0x9000 0, stride := forPlanes 512 512 0 },
      { format := .ofLetters 'A' 'R' '2' '4', src := ⟨0, 7, 30, 99⟩, dst := ⟨190, 60, 99, 30⟩
        depth := 1, pipe := 1, rotation := .rot90, address := forPlanes 0x40000 0 0
        stride := forPlanes 512 0 0 },
      { format := .ofLetters 'A' 'R' '2' '4', arrangement := .gpuTile16x4
        src := ⟨5, 3, 120, 20⟩, dst := ⟨200, 100, 120, 20⟩, depth := 2, pipe := 2
        address := forPlanes 0x60000 0 0, stride := forPlanes 1024 0 0 }]
    output :=
      { format := .ofLetters 'A' 'R' '2' '4', width := 500, height := 128
        address := forPlanes 0x80000 0 0, stride := forPlanes 2048 0 0 } }

/-- All three layers are cut in two, and the addresses of the one in tiles stay where they are. -/
theorem carriedBy_of_plan_mirroredVideo :
    ∃ target sources jobs, Target.ofOutput mirroredVideo.output = .ok target ∧
      (Compiler.ofGeneration .normal).resolveLayers mirroredVideo = .ok sources ∧
      needsStrips sources target (.ofGeneration .normal) = .ok true ∧
      plan sources target (.ofGeneration .normal) = .ok jobs ∧
      sources.map (fun source => source.layer.arrangement) = [.linear, .linear, .gpuTile16x4] ∧
      jobs.map (fun job => job.layers.map Layer.pipe) = [[0, 1, 2], [0, 1, 2]] ∧
      ∀ source ∈ sources, source.layer.rotation.isCombined = false ∧ source.CarriedBy jobs := by
  refine ⟨_, _, _, rfl, rfl, rfl, rfl, rfl, rfl, fun source hm => ?_⟩
  have hs : (Compiler.ofGeneration .normal).resolveLayers mirroredVideo = .ok _ := rfl
  have hr : source.layer.rotation.isCombined = false := by
    revert source
    decide +kernel
  exact ⟨hr, carriedBy_of_plan rfl hs rfl rfl hm hr⟩

end Blitter
