import Blitter.Proofs.Compiler.Clipped

/-!
# What keeps a picture from being cut

Cutting a composition whose layers are admitted and not stretched across can go wrong in two ways.
A strip may start inside a color sample of the output (`Target.SplitsSample`), and is turned down.
Or an address of the output or of a layer may leave its word when it is moved on to the strip
(`Target.Overruns`, `Source.Overruns`), and no answer is given at all. `plan_eq_error` says that
nothing else goes wrong: no column and no row of a source is moved beyond the largest surface.
-/

namespace Blitter

/-! ### Outputs -/

/-- The strip starts **inside a color sample** of the output. -/
def Target.SplitsSample (t : Target) (s : Strip) : Prop :=
  t.layout.yuv = true ∧
    ¬ (if t.output.rotation.swapsAxes then t.layout.chroma.rows else t.layout.chroma.columns) ∣
      (t.output.stripStart s).toNat

instance (t : Target) (s : Strip) : Decidable (t.SplitsSample s) :=
  inferInstanceAs (Decidable (_ ∧ ¬ _ ∣ _))

/-- Some address of the output, moved on to the strip, **leaves its word**. -/
def Target.Overruns (t : Target) (s : Strip) : Prop :=
  ∃ p ∈ t.layout.planes, 2 ^ 64 ≤ (t.output.address.get p).toNat + t.stripOffset s p

instance (t : Target) (s : Strip) : Decidable (t.Overruns s) :=
  inferInstanceAs (Decidable (∃ p ∈ t.layout.planes, _ ≤ _))

/-- What a strip that splits a sample is turned down for. -/
def Target.splitFault (t : Target) (s : Strip) : GeometryFault :=
  .stripSplitsSample s.index t.output.rotation.swapsAxes (t.output.stripStart s) t.output.format

/-- In a format of the catalog columns start on whole bytes **wherever they start on whole color
samples**. -/
theorem Target.columnAlign_eq {t : Target} (ht : Target.ofOutput t.output = .ok t) :
    t.layout.columnAlign = t.layout.columnGroup := by
  have hcatalog : ∀ f ∈ Format.catalog, f.layout.columnAlign = f.layout.columnGroup := by decide
  obtain ⟨f, hf, hlayout⟩ := Target.exists_mem_catalog ht
  rw [hlayout]
  exact hcatalog f hf

/-- The step that a strip has to start at is a color sample. -/
theorem Target.splitsSample_iff {t : Target} (ht : Target.ofOutput t.output = .ok t) {s : Strip} :
    t.SplitsSample s ↔ (t.output.stripStart s).toNat %
      (if t.output.rotation.swapsAxes then t.layout.rowAlign else t.layout.columnAlign) ≠ 0 := by
  rw [Target.columnAlign_eq ht, ne_eq, ← Nat.dvd_iff_mod_eq_zero, Target.SplitsSample]
  unfold PixelLayout.rowAlign PixelLayout.columnGroup
  cases t.layout.yuv with
  | true => simp only [true_and, if_true]
  | false =>
    simp only [Bool.false_eq_true, false_and, if_false, ite_self, one_dvd, not_true_eq_false]

/-- **Why a strip of the output does not come about.** -/
theorem Target.strip_eq_error {t : Target} (ht : Target.ofOutput t.output = .ok t) {s : Strip}
    {e : Failure} (h : t.strip s = .error e) :
    t.SplitsSample s ∧ e = .rejected (.geometry (t.splitFault s)) ∨
      t.Overruns s ∧ e = .overflow := by
  rcases ite_reject_eq_error_iff.mp h with ⟨hsplit, rfl⟩ | ⟨-, h⟩
  · exact .inl ⟨(Target.splitsSample_iff ht).mpr hsplit, rfl⟩
  · rcases Outcome.bind_eq_error_iff.mp h with h | ⟨_, -, ⟨⟩⟩
    obtain ⟨rfl, hover⟩ := (moveAddresses_eq_error_iff t.layout.nodup_planes).mp h
    exact .inr ⟨hover, rfl⟩

/-- A strip that comes about splits no sample and **keeps its addresses in words**. -/
theorem Target.not_splitsSample_of_strip {t : Target} (ht : Target.ofOutput t.output = .ok t)
    {s : Strip} {part : Output} (h : t.strip s = .ok part) :
    ¬ t.SplitsSample s ∧ ¬ t.Overruns s := by
  obtain ⟨haligned, h⟩ := ite_rejectGeometry_eq_ok_iff.mp h
  obtain ⟨address, haddress, -⟩ := Outcome.bind_eq_ok_iff.mp h
  refine ⟨fun hsplit => haligned ((Target.splitsSample_iff ht).mp hsplit), fun hover => ?_⟩
  have herror :=
    (moveAddresses_eq_error_iff t.layout.nodup_planes (e := .overflow)).mpr ⟨rfl, hover⟩
  rw [herror] at haddress
  cases haddress

/-! ### Layers -/

/-- The columns of a source that its addresses are moved by for a strip. -/
def Source.movedColumns (source : Source) (s : Strip) : Nat :=
  if source.layer.rotation.swapsAxes = false ∧ source.layer.arrangement = .linear then
    source.skipped .flipFirst s - source.skipped .flipFirst s % source.layout.columnAlign
  else 0

/-- The layer reaches into the strip, and some address of it, moved on to the strip, **leaves its
word**. -/
def Source.Overruns (source : Source) (s : Strip) : Prop :=
  (∃ x, s.Holds x ∧ source.layer.dst.HoldsColumn x) ∧
    ∃ p ∈ source.layout.planes,
      2 ^ 64 ≤ (source.layer.address.get p).toNat +
        source.movedColumns s * source.layout.planeBits p / 8

section Shift

variable {source : Source} {layer : Layer} {shift : UInt32} {e : Failure}

/-- A number of columns or rows that fits a word **has a word**. -/
theorem exists_fit32 {n : Nat} (h : n < 2 ^ 32) : ∃ w, fit32 n = .ok w :=
  ⟨UInt32.ofNat n, fit32_eq_ok_iff.mpr (UInt32.toNat_ofNat_of_lt' h)⟩

theorem Source.shiftColumns_eq_error_iff {width : UInt32}
    (hx : layer.src.x.toNat + shift.toNat < 2 ^ 32) :
    source.shiftColumns layer shift width = .error e ↔
      e = .overflow ∧ ∃ p ∈ source.layout.planes,
        2 ^ 64 ≤ (layer.address.get p).toNat +
          source.wholeColumns shift.toNat * source.layout.planeBits p / 8 := by
  rw [Source.shiftColumns, Outcome.bind_eq_error_iff,
    moveAddresses_eq_error_iff source.layout.nodup_planes]
  refine or_iff_left ?_
  rintro ⟨_, -, h⟩
  have hrest : layer.src.x.toNat + (shift.toNat - source.wholeColumns shift.toNat) < 2 ^ 32 := by
    omega
  obtain ⟨x, hfit⟩ := exists_fit32 hrest
  unfold Source.wholeColumns at hfit
  rw [hfit] at h
  cases h

theorem Layer.shiftRows_ne_error {height : UInt32}
    (hy : layer.src.y.toNat + shift.toNat < 2 ^ 32) :
    layer.shiftRows shift height ≠ .error e := by
  obtain ⟨y, hfit⟩ := exists_fit32 hy
  rw [Layer.shiftRows, hfit]
  nofun

end Shift

section Clip

variable {source : Source} {s : Strip} {width height : UInt32} (hs : s.Within width)
  (hfits : Compiler.RectsFit width height source.layer) (hscale : source.layer.scalesX = false)
include hs hfits hscale

/-- **Clipping fails only where an address leaves its word.** -/
theorem Source.clip_eq_error_iff {e : Failure} :
    source.clip s = .error e ↔ source.Overruns s ∧ e = .overflow := by
  have hright := hfits.dst_right
  have hwidth := width.toNat_lt
  have hfit : source.layer.dst.ColumnsFit := by
    unfold Rect.ColumnsFit
    omega
  cases ho : s.overlap? source.layer.dst with
  | none =>
    have hapart := (Strip.overlap?_eq_none_iff hs hfit).mp ho
    simp only [Source.clip, ho, reduceCtorEq, false_iff]
    rintro ⟨⟨⟨x, hx⟩, -⟩, -⟩
    exact hapart x hx
  | some edges =>
    obtain ⟨x0, x1⟩ := edges
    obtain ⟨hcuts, -, -⟩ := Strip.cuts_of_overlap? hs hfit ho
    have hshift := Source.toNat_shift hs hfit ho
    -- what is skipped of the source is part of it
    have hskipped : source.skipped .flipFirst s ≤ source.layer.dst.w.toNat := by
      have hcut := hcuts.width
      unfold Source.skipped
      split <;> omega
    have hturned := Layer.toNat_w_dst_of_scalesX hscale
    have hsrc := hfits.src_right
    have hbottom := hfits.src_bottom
    rw [Source.clip_of_overlap? ho, Outcome.map_eq_error_iff]
    generalize (if source.layer.rotation.mirrorsColumns .flipFirst then source.layer.dst.right - x1
      else x0 - source.layer.dst.x) = shift at hshift ⊢
    dsimp only
    unfold Source.Overruns Source.movedColumns
    cases hr : source.layer.rotation.swapsAxes with
    | true =>
      rw [hr, if_pos rfl] at hturned
      simp only [if_true, Bool.true_eq_false, false_and, if_false, Nat.zero_mul, Nat.zero_div]
      refine iff_of_false (Layer.shiftRows_ne_error ?_) ?_
      · show source.layer.src.y.toNat + shift.toNat < 2 ^ 32
        omega
      · rintro ⟨⟨-, p, -, hle⟩, -⟩
        have := (source.layer.address.get p).toNat_lt
        omega
    | false =>
      rw [hr, if_neg Bool.false_ne_true] at hturned
      simp only [Bool.false_eq_true, if_false, true_and]
      rw [Source.shiftColumns_eq_error_iff, hshift, Source.wholeColumns,
        and_iff_right hcuts.exists_holds, and_comm]
      show source.layer.src.x.toNat + shift.toNat < 2 ^ 32
      omega

end Clip

/-! ### Plans -/

section Plan

variable {sources : List Source} {target : Target} {limits : StripLimits} {e : Failure}
  (ht : Target.ofOutput target.output = .ok target)
  (hfits : ∀ source ∈ sources,
    Compiler.RectsFit target.output.width target.output.height source.layer)
  (hscale : ∀ source ∈ sources, source.layer.scalesX = false)
include ht hfits hscale

/-- **Why a plan does not come about.** -/
theorem plan_eq_error (h : plan sources target limits = .error e) :
    ∃ s ∈ stripsOf target.output.width limits.width,
      target.SplitsSample s ∧ e = .rejected (.geometry (target.splitFault s)) ∨
        (target.Overruns s ∨ ∃ source ∈ sources, source.Overruns s) ∧ e = .overflow := by
  obtain ⟨s, hs, hjob⟩ := Outcome.exists_of_mapM_eq_error h
  refine ⟨s, hs, ?_⟩
  rcases Outcome.bind_eq_error_iff.mp hjob with hclip | ⟨_, -, hjob⟩
  · obtain ⟨source, hm, hclip⟩ := Outcome.exists_of_mapM_eq_error hclip
    obtain ⟨hover, rfl⟩ := (Source.clip_eq_error_iff (within_of_mem_stripsOf hs) (hfits source hm)
      (hscale source hm)).mp hclip
    exact .inr ⟨.inr ⟨source, hm, hover⟩, rfl⟩
  · rcases Outcome.bind_eq_error_iff.mp hjob with hstrip | ⟨_, -, ⟨⟩⟩
    rcases Target.strip_eq_error ht hstrip with hsplit | ⟨hover, rfl⟩
    · exact .inl hsplit
    · exact .inr ⟨.inl hover, rfl⟩

/-- A plan that comes about splits no sample and keeps all addresses in words. -/
theorem not_splitsSample_of_plan {jobs : List StripJob} (hp : plan sources target limits = .ok jobs)
    {s : Strip} (hs : s ∈ stripsOf target.output.width limits.width) :
    ¬ target.SplitsSample s ∧ ¬ target.Overruns s ∧ ∀ source ∈ sources, ¬ source.Overruns s := by
  obtain ⟨job, -, hjob⟩ := Outcome.exists_mem_of_mapM hp hs
  obtain ⟨-, hstrip, clipped, hclipped, -⟩ := Strip.job_eq_ok_iff.mp hjob
  obtain ⟨hsplit, hover⟩ := Target.not_splitsSample_of_strip ht hstrip
  refine ⟨hsplit, hover, fun source hm hover => ?_⟩
  obtain ⟨_, -, hok⟩ := Outcome.exists_mem_of_mapM hclipped hm
  have herror := (Source.clip_eq_error_iff (within_of_mem_stripsOf hs) (hfits source hm)
    (hscale source hm) (e := .overflow)).mpr ⟨hover, rfl⟩
  rw [hok] at herror
  cases herror

end Plan

end Blitter
