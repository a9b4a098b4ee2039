import Blitter.Proofs.Strip.Landing
import Blitter.Proofs.Strip.Picture

/-!
# Combined rotations in strips

A combined rotation is a quarter turn and a flip, in one order or the other. Clipping cuts a layer
where a flip followed by a turn has it, and strips land where a turn followed by a flip has it.
Under its own order each side does what the uncut composition would (`readAs_flipFirst`,
`writtenAs_turnFirst`). Under the other order a clipped layer shows what the whole layer shows
only if as much of it is cut on either side (`Source.ClipsTo.showsAs_iff`), and a strip lands
where the whole output has it only if it is centred.

So there is an order under which both sides are right exactly if the output's rotation is not a
combined one or no layer of a combined rotation is cut at all (`exists_readAs_writtenAs_iff`).
-/

namespace Blitter

/-- Under the given order, the clipped layer **shows in each column** of the strip what the source
shows there, once the columns that its addresses skip are counted in. -/
def Source.ShowsAs (order : FlipOrder) (source : Source) (s : Strip) (clipped : Layer) : Prop :=
  ∃ n, source.Skips clipped n ∧ ∀ x, s.Holds x → source.layer.dst.HoldsColumn x → ∀ v a b,
    (source.layer.Shows order x v a b ↔
      ∃ a', n + a' = a ∧ clipped.Shows order (x - s.x.toNat) v a' b)

/-- Under the given order, every source is clipped to layers that show what it shows. -/
def ReadAs (order : FlipOrder) (sources : List Source) (jobs : List StripJob) : Prop :=
  ∀ job ∈ jobs, ∀ source ∈ sources, ∀ clipped,
    source.clip job.strip = .ok (some clipped) → source.ShowsAs order job.strip clipped

/-- Under the given order, every job puts its pixels in the columns and rows of memory where the
whole output would. -/
def WrittenAs (order : FlipOrder) (target : Target) (jobs : List StripJob) : Prop :=
  ∀ job ∈ jobs, target.Lands job.strip job.output ∧
    ∀ x y, job.strip.Holds x → y < target.output.height.toNat →
      target.output.fromStart job.strip (job.output.position order (x - job.strip.x.toNat) y) =
        target.output.position order x y

/-- Some strip holds one column of the source's destination and misses another. -/
def Source.IsCut (source : Source) (jobs : List StripJob) : Prop :=
  ∃ job ∈ jobs, ∃ x x', source.layer.dst.HoldsColumn x ∧ source.layer.dst.HoldsColumn x' ∧
    job.strip.Holds x ∧ ¬ job.strip.Holds x'

/-! ### One layer in one strip -/

theorem Rotation.swapsAxes_of_isCombined {r : Rotation} (hr : r.isCombined = true) :
    r.swapsAxes = true := by
  revert hr
  cases r <;> decide

theorem Rotation.mirrorsColumns_turnFirst {r : Rotation} (hr : r.isCombined = true) :
    r.mirrorsColumns .turnFirst = !r.mirrorsColumns .flipFirst := by
  revert hr
  cases r <;> decide

/-- What is shown at a place tells where the run starts. -/
theorem AxisShows.base_eq {back : Bool} {n base base' a c : Nat} (h : AxisShows back n base a c)
    (h' : AxisShows back n base' a c) : base = base' := by
  obtain ⟨k, hk, rfl, hc⟩ := h
  obtain ⟨k', hk', ha, hc'⟩ := h'
  have hkk : k = k' := by
    rw [← mirror_mirror (b := back) hk, ← mirror_mirror (b := back) hk', hc, hc']
  omega

/-- The two orders skip the same where both sides are cut alike. -/
theorem Source.skipped_turnFirst_eq_iff {source : Source} {s : Strip}
    (hr : source.layer.rotation.isCombined = true) :
    source.skipped .turnFirst s = source.skipped .flipFirst s ↔
      s.cutLeft source.layer.dst = s.cutRight source.layer.dst := by
  unfold Source.skipped
  rw [Rotation.mirrorsColumns_turnFirst hr]
  cases source.layer.rotation.mirrorsColumns .flipFirst with
  | true => rfl
  | false => exact eq_comm

namespace Source.ClipsTo

variable {source : Source} {s : Strip} {clipped : Layer} {order : FlipOrder}

/-- A clipped layer that shows what the whole shows skips what is on the near side. -/
private theorem skipped_eq_of_showsAs (h : source.ClipsTo s clipped)
    (hsrc : source.layer.src.Sized) (hx : source.layer.scalesX = false)
    (hr : source.layer.rotation.swapsAxes = true) (hshows : source.ShowsAs order s clipped) :
    source.skipped order s = source.skipped .flipFirst s := by
  obtain ⟨n, -, hshows⟩ := hshows
  obtain ⟨x, hs, hd⟩ := h.cuts.exists_holds
  -- a row that the whole shows in a shared column is one that the part shows there
  obtain ⟨v, a, b, hwhole⟩ : ∃ v a b, source.layer.Shows order x v a b :=
    Layer.exists_shows hsrc hx hd
  obtain ⟨a', -, hpart⟩ := (hshows x hs hd v a b).mp hwhole
  obtain ⟨hsrc', -, hy⟩ := h.rows hr
  have hr' : clipped.rotation.swapsAxes = true := by
    rw [h.rotation_eq, hr]
  have hw := Layer.toNat_w_dst_of_scalesX hx
  rw [hr, if_pos rfl] at hw
  have hh : clipped.src.h = clipped.dst.w := by
    rw [hsrc']
  obtain ⟨-, hwhole, -⟩ := (Layer.shows_iff_of_swapsAxes hr).mp hwhole
  obtain ⟨-, hpart, -⟩ := (Layer.shows_iff_of_swapsAxes hr').mp hpart
  rw [← hw] at hwhole
  rw [h.rotation_eq, hh, hy] at hpart
  -- along that column both count from where the source is entered
  obtain ⟨a'', ha, hwhole⟩ := (h.axisShows_iff (n := 0) hs hd (Nat.zero_add _)).mp hwhole
  rw [Nat.zero_add] at ha
  rw [ha] at hwhole
  have hbase := hwhole.base_eq hpart
  omega

/-- **When a clipped layer shows what the whole layer shows.** -/
theorem showsAs_iff (h : source.ClipsTo s clipped) (hsrc : source.layer.src.Sized)
    (hx : source.layer.scalesX = false) :
    source.ShowsAs order s clipped ↔ source.skipped order s = source.skipped .flipFirst s := by
  constructor
  · intro hshows
    cases hr : source.layer.rotation.isCombined with
    | true =>
      exact h.skipped_eq_of_showsAs hsrc hx (Rotation.swapsAxes_of_isCombined hr) hshows
    | false => exact Source.skipped_of_not_isCombined hr
  · intro ho
    obtain ⟨n, hskips, -, hshows⟩ := h.exists_skips_shows_iff hx
    exact ⟨n, hskips, hshows order ho⟩

end Source.ClipsTo

/-! ### The jobs of a plan -/

section Plan

variable {sources : List Source} {target : Target} {limits : StripLimits} {jobs : List StripJob}
  (hp : plan sources target limits = .ok jobs)
include hp

/-- What one strip holds all of is not cut. -/
theorem not_isCut_of_forall_holds {source : Source}
    (hfit : source.layer.dst.x.toNat + source.layer.dst.w.toNat ≤ target.output.width.toNat)
    {job₀ : StripJob} (hj₀ : job₀ ∈ jobs)
    (hall : ∀ x, source.layer.dst.HoldsColumn x → job₀.strip.Holds x) : ¬ source.IsCut jobs := by
  rintro ⟨job, hj, x, x', hx, hx', hs, hs'⟩
  have hxw : x < target.output.width.toNat := Nat.lt_of_lt_of_le hx.2 hfit
  have hjob := eq_of_holds_plan hp hxw hj hj₀ hs (hall x hx)
  exact hs' (hjob ▸ hall x' hx')

/-- A source has as much cut off on either side of every strip only if it is not cut at all. -/
theorem cutLeft_eq_cutRight_iff {source : Source} (hm : source ∈ sources)
    (hfit : source.layer.dst.x.toNat + source.layer.dst.w.toNat ≤ target.output.width.toNat)
    (hpos : 0 < source.layer.dst.w.toNat) :
    (∀ job ∈ jobs, ∀ clipped, source.clip job.strip = .ok (some clipped) →
        job.strip.cutLeft source.layer.dst = job.strip.cutRight source.layer.dst) ↔
      ¬ source.IsCut jobs := by
  have hcolumns : source.layer.dst.ColumnsFit :=
    Nat.lt_of_le_of_lt hfit target.output.width.toNat_lt
  have hfirst : source.layer.dst.HoldsColumn source.layer.dst.x.toNat :=
    ⟨Nat.le_refl _, Nat.lt_add_of_pos_right hpos⟩
  constructor
  · intro hcut
    -- the strip of the first column cuts nothing off before it, and so nothing off behind
    obtain ⟨job₀, hj₀, hs₀⟩ := exists_mem_holds_plan hp (Nat.lt_of_lt_of_le hfirst.2 hfit)
    obtain ⟨clipped, -, hclip⟩ := Strip.exists_mem_layers (job_of_mem_plan hp hj₀).2
      (within_of_mem_plan hp hj₀) hm hcolumns hs₀ hfirst
    have heq := hcut job₀ hj₀ clipped hclip
    unfold Strip.cutLeft Strip.cutRight at heq
    refine not_isCut_of_forall_holds hp hfit hj₀ fun x hx => ?_
    obtain ⟨hnear, hfar⟩ := hx
    obtain ⟨hnear₀, hfar₀⟩ := hs₀
    constructor <;> omega
  · intro hcut job hj clipped hclip
    have hto := Source.clipsTo_of_clip (within_of_mem_plan hp hj) hcolumns hclip
    obtain ⟨x, hs, hx⟩ := hto.cuts.exists_holds
    have hall : ∀ x', source.layer.dst.HoldsColumn x' → job.strip.Holds x' := by
      intro x' hx'
      by_contra hs'
      exact hcut ⟨job, hj, x, x', hx, hx', hs, hs'⟩
    obtain ⟨hnear, -⟩ := hall _ hfirst
    obtain ⟨-, hfar⟩ := hall (source.layer.dst.x.toNat + source.layer.dst.w.toNat - 1)
      ⟨by omega, by omega⟩
    unfold Strip.cutLeft Strip.cutRight
    omega

/-- If every strip is centred there is but one, and nothing is cut. -/
theorem not_isCut_of_isCentred {source : Source}
    (hfit : source.layer.dst.x.toNat + source.layer.dst.w.toNat ≤ target.output.width.toNat)
    (hpos : 0 < source.layer.dst.w.toNat)
    (hcentred : ∀ job ∈ jobs, job.strip.IsCentred target.output.width) :
    ¬ source.IsCut jobs := by
  -- the strip of column 0 reaches as far to the other edge
  obtain ⟨job₀, hj₀, hnear₀, hfar₀⟩ := exists_mem_holds_plan (x := 0) hp (by omega)
  have hcentre : job₀.strip.x.toNat + (job₀.strip.x.toNat + job₀.strip.width.toNat) =
      target.output.width.toNat := hcentred job₀ hj₀
  refine not_isCut_of_forall_holds hp hfit hj₀ fun x hx => ?_
  obtain ⟨hnear, hfar⟩ := hx
  constructor <;> omega

/-- Strips land as an order has it if that order places columns as strips are laid out, or if
every strip is centred. -/
theorem writtenAs_iff {order : FlipOrder} (hpos : 0 < target.output.height.toNat) :
    WrittenAs order target jobs ↔
      ∀ job ∈ jobs, target.output.rotation.placesBackward order =
          target.output.rotation.runsBackward ∨ job.strip.IsCentred target.output.width := by
  constructor
  · intro h job hj
    obtain ⟨-, hposition⟩ := h job hj
    have hs : job.strip.Holds job.strip.x.toNat :=
      ⟨Nat.le_refl _, Nat.lt_add_of_pos_right (within_of_mem_plan hp hj).nonempty⟩
    exact ((lands_of_mem_plan hp hj).position_eq_iff (within_of_mem_plan hp hj) hs hpos).mp
      (hposition _ 0 hs hpos)
  · intro h job hj
    refine ⟨lands_of_mem_plan hp hj, fun x y hs hy => ?_⟩
    exact ((lands_of_mem_plan hp hj).position_eq_iff (within_of_mem_plan hp hj) hs hy).mpr
      (h job hj)

/-- **Strips land as a turn followed by a flip has it.** -/
theorem writtenAs_turnFirst (hpos : 0 < target.output.height.toNat) :
    WrittenAs .turnFirst target jobs :=
  (writtenAs_iff hp hpos).mpr fun _ _ => .inl (Rotation.placesBackward_turnFirst _)

end Plan

section Composition

variable {c : Compiler} {r : Request} {target : Target} {sources : List Source}
  {jobs : List StripJob} (ht : Target.ofOutput r.output = .ok target)
  (hs : c.resolveLayers r = .ok sources) (hn : needsStrips sources target c.limits = .ok true)
  (hp : plan sources target c.limits = .ok jobs)
include ht hs hn hp

/-- Layers are clipped as an order has it if it tells the same near side of each. -/
theorem readAs_iff {order : FlipOrder} :
    ReadAs order sources jobs ↔ ∀ source ∈ sources, ∀ job ∈ jobs, ∀ clipped,
      source.clip job.strip = .ok (some clipped) →
        source.skipped order job.strip = source.skipped .flipFirst job.strip := by
  obtain ⟨-, -, hadmitted⟩ := Compiler.admitted_of_resolveLayers ht hs
  have hshows : ∀ job ∈ jobs, ∀ source ∈ sources, ∀ clipped,
      source.clip job.strip = .ok (some clipped) →
        (source.ShowsAs order job.strip clipped ↔
          source.skipped order job.strip = source.skipped .flipFirst job.strip) := by
    intro job hj source hm clipped hclip
    exact (Source.clipsTo_of_clip (within_of_mem_plan hp hj) (hadmitted source hm).columnsFit
      hclip).showsAs_iff (hadmitted source hm).fits.src
        (scalesX_of_needsStrips hn hm)
  constructor
  · intro h source hm job hj clipped hclip
    exact (hshows job hj source hm clipped hclip).mp (h job hj source hm clipped hclip)
  · intro h job hj source hm clipped hclip
    exact (hshows job hj source hm clipped hclip).mpr (h source hm job hj clipped hclip)

/-- **Layers are clipped as a flip followed by a turn has it.** -/
theorem readAs_flipFirst : ReadAs .flipFirst sources jobs :=
  (readAs_iff ht hs hn hp).mpr fun _ _ _ _ _ _ => rfl

/-- They are clipped as a turn followed by a flip has it only where nothing is cut. -/
theorem readAs_turnFirst_iff :
    ReadAs .turnFirst sources jobs ↔
      ∀ source ∈ sources, source.layer.rotation.isCombined = true → ¬ source.IsCut jobs := by
  rw [readAs_iff ht hs hn hp]
  refine forall₂_congr fun source hm => ?_
  have hfits := Compiler.fits_of_resolveLayers ht hs hm
  cases hr : source.layer.rotation.isCombined with
  | true =>
    simp only [Source.skipped_turnFirst_eq_iff hr, forall_const]
    exact cutLeft_eq_cutRight_iff hp hm hfits.dst_right hfits.dst.w_pos
  | false =>
    refine iff_of_true (fun _ _ _ _ => Source.skipped_of_not_isCombined hr) ?_
    intro hcombined
    cases hcombined

/-- An output of a combined rotation and a cut layer of one are never both right. -/
theorem not_exists_readAs_writtenAs (ho : target.output.rotation.isCombined = true)
    {source : Source} (hm : source ∈ sources) (hr : source.layer.rotation.isCombined = true)
    (hcut : source.IsCut jobs) :
    ¬ ∃ order, ReadAs order sources jobs ∧ WrittenAs order target jobs := by
  obtain ⟨-, ⟨hheight, -⟩, houtput, -⟩ := Target.ofOutput_eq_ok_iff.mp ht
  have hfits := Compiler.fits_of_resolveLayers ht hs hm
  rintro ⟨order, hread, hwritten⟩
  cases order with
  | turnFirst => exact (readAs_turnFirst_iff ht hs hn hp).mp hread source hm hr hcut
  | flipFirst =>
    rw [writtenAs_iff hp (by rw [houtput]; exact hheight)] at hwritten
    have hbackward : ¬ target.output.rotation.placesBackward .flipFirst =
        target.output.rotation.runsBackward := by
      rw [Rotation.placesBackward_flipFirst_iff, ho]
      exact Bool.true_eq_false.mp
    exact not_isCut_of_isCentred hp hfits.dst_right hfits.dst.w_pos
      (fun job hj => (hwritten job hj).resolve_left hbackward) hcut

/-- **When reading and writing agree on the combined rotations.** Some order of turn and flip makes
both the clipped layers and the parts of the output what the uncut composition has, exactly if the
output is not in a combined rotation or no layer in one is cut. -/
theorem exists_readAs_writtenAs_iff :
    (∃ order, ReadAs order sources jobs ∧ WrittenAs order target jobs) ↔
      target.output.rotation.isCombined = true →
        ∀ source ∈ sources, source.layer.rotation.isCombined = true → ¬ source.IsCut jobs := by
  obtain ⟨-, ⟨hheight, -⟩, houtput, -⟩ := Target.ofOutput_eq_ok_iff.mp ht
  have hpos : 0 < target.output.height.toNat := by
    rw [houtput]
    exact hheight
  constructor
  · intro h ho source hm hr hcut
    exact not_exists_readAs_writtenAs ht hs hn hp ho hm hr hcut h
  · intro h
    cases ho : target.output.rotation.isCombined with
    | true =>
      exact ⟨.turnFirst, (readAs_turnFirst_iff ht hs hn hp).mpr (h ho), writtenAs_turnFirst hp hpos⟩
    | false =>
      refine ⟨.flipFirst, readAs_flipFirst ht hs hn hp, (writtenAs_iff hp hpos).mpr ?_⟩
      exact fun _ _ => .inl ((Rotation.placesBackward_flipFirst_iff _).mpr ho)

end Composition

/-- A layer that is turned and flipped, in a picture that is turned and flipped as well. -/
def turnedTwice (height x : UInt32) : Request :=
  { layers := [
      { format := .ofLetters 'A' 'R' '2' '4', src := ⟨0, 0, 16, height⟩, dst := ⟨x, 0, height, 16⟩
        pipe := 0, rotation := .hFlip90
        address := forPlanes 0x1000 0 0, stride := forPlanes 64 0 0 }]
    output :=
      { format := .ofLetters 'A' 'R' '2' '4', width := 512, height := 16, rotation := .hFlip90
        address := forPlanes 0x80000 0 0, stride := forPlanes 64 0 0 } }

/-- Inside the second of two strips the layer is not cut. -/
theorem exists_readAs_writtenAs_turnedTwice :
    ∃ target sources jobs, Target.ofOutput (turnedTwice 100 300).output = .ok target ∧
      (Compiler.ofGeneration .normal).resolveLayers (turnedTwice 100 300) = .ok sources ∧
      needsStrips sources target (.ofGeneration .normal) = .ok true ∧
      plan sources target (.ofGeneration .normal) = .ok jobs ∧
      target.output.rotation.isCombined = true ∧
      (∀ source ∈ sources, source.layer.rotation.isCombined = true) ∧
      ∃ order, ReadAs order sources jobs ∧ WrittenAs order target jobs := by
  refine ⟨_, _, _, rfl, rfl, rfl, rfl, rfl, by decide +kernel, ?_⟩
  have hs : (Compiler.ofGeneration .normal).resolveLayers (turnedTwice 100 300) = .ok _ := rfl
  refine (exists_readAs_writtenAs_iff rfl hs rfl rfl).mpr fun _ source hm _ => ?_
  have hdst : source.layer.dst.x.toNat = 300 ∧ source.layer.dst.w.toNat = 100 := by
    revert source
    decide +kernel
  rintro ⟨job, hj, hcut⟩
  have hstrip : job.strip.x.toNat = 0 ∧ job.strip.width.toNat = 256 ∨
      job.strip.x.toNat = 256 ∧ job.strip.width.toNat = 256 := by
    clear hcut
    revert job
    decide +kernel
  obtain ⟨x, x', hx, hx', hs, hs'⟩ := hcut
  unfold Rect.HoldsColumn at hx hx'
  unfold Strip.Holds at hs hs'
  omega

/-- **Neither order is right** for a layer that two strips share. -/
theorem not_exists_readAs_writtenAs_turnedTwice :
    ∃ target sources jobs, Target.ofOutput (turnedTwice 512 0).output = .ok target ∧
      (Compiler.ofGeneration .normal).resolveLayers (turnedTwice 512 0) = .ok sources ∧
      needsStrips sources target (.ofGeneration .normal) = .ok true ∧
      plan sources target (.ofGeneration .normal) = .ok jobs ∧
      ¬ ∃ order, ReadAs order sources jobs ∧ WrittenAs order target jobs := by
  refine ⟨_, _, _, rfl, rfl, rfl, rfl, ?_⟩
  have hs : (Compiler.ofGeneration .normal).resolveLayers (turnedTwice 512 0) = .ok _ := rfl
  refine not_exists_readAs_writtenAs rfl hs rfl rfl rfl List.mem_cons_self rfl ?_
  -- the first strip holds column 0 of the layer and misses column 256
  exact ⟨_, List.mem_cons_self, 0, 256, by decide +kernel, by decide +kernel, by decide +kernel,
    by decide +kernel⟩

end Blitter
