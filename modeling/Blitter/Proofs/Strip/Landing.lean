import Blitter.Proofs.Addresses
import Blitter.Proofs.Format.Alignment
import Blitter.Proofs.Rotation
import Blitter.Proofs.Strip.Plan
import Mathlib.Data.Nat.ModEq

/-!
# Where strips land in memory

The write pipe places the pixels of a picture in memory as the output's rotation says. The columns
of a strip land on a span of one axis of memory, counted from either end (`Output.landsOn_iff`).
A strip written as an output of its own, from the start of that span on, puts its pixels where the
whole output would if columns run as `Rotation.runsBackward` has it, which they do if a combined
rotation is read as a quarter turn followed by a flip (`Output.position_eq_iff`).

`Target.pixelAddress` is the address that a pixel gets in a plane under that reading. Moving the
addresses of the planes to the start of the span loses nothing to division, so that the pixels of a
strip get the addresses they get in the whole output (`Target.Lands.pixelAddress_eq`).
-/

namespace Blitter

/-- The **column and row of memory** that pixel `(x, y)` of the picture is placed in. -/
def Output.position (order : FlipOrder) (o : Output) (x y : Nat) : Nat × Nat :=
  o.rotation.place order o.width.toNat o.height.toNat (x, y)

/-- What is at `q` for the strip, counted from the start of its span, as it is for the whole. -/
def Output.fromStart (o : Output) (s : Strip) (q : Nat × Nat) : Nat × Nat :=
  if o.rotation.swapsAxes then (q.1, (o.stripStart s).toNat + q.2)
  else ((o.stripStart s).toNat + q.1, q.2)

/-- The address of the sample of a plane that covers column `q.1` and row `q.2` of memory. -/
def Target.sampleAddress (t : Target) (p : Fin 3) (q : Nat × Nat) : Nat :=
  (t.output.address.get p).toNat + q.2 / t.layout.planeRows p * (t.output.stride.get p).toNat +
    q.1 * t.layout.planeBits p / 8

/-- The address that pixel `(x, y)` of the picture is **written to** in a plane. -/
def Target.pixelAddress (t : Target) (p : Fin 3) (x y : Nat) : Nat :=
  t.sampleAddress p (t.output.position .turnFirst x y)

/-- The strip lands on position `m` of the axis of memory that its columns land on. -/
def Output.LandsOn (o : Output) (s : Strip) (m : Nat) : Prop :=
  (o.stripStart s).toNat ≤ m ∧ m < (o.stripStart s).toNat + s.width.toNat

/-! ### The span of a strip -/

/-- Columns run against the axis of memory that they are placed on. -/
def Rotation.placesBackward (order : FlipOrder) (r : Rotation) : Bool :=
  if r.swapsAxes then r.mirrorsRows order else r.mirrorsColumns order

theorem Rotation.placesBackward_turnFirst (r : Rotation) :
    r.placesBackward .turnFirst = r.runsBackward := by
  cases r <;> rfl

theorem Rotation.placesBackward_flipFirst_iff (r : Rotation) :
    r.placesBackward .flipFirst = r.runsBackward ↔ r.isCombined = false := by
  cases r <;> decide

/-- The strip is as far from the near edge of the picture as from the far one. -/
def Strip.IsCentred (s : Strip) (width : UInt32) : Prop :=
  s.x.toNat + (s.x.toNat + s.width.toNat) = width.toNat

section Span

variable {o : Output} {s : Strip} (hs : s.Within o.width)
include hs

theorem Output.toNat_stripStart :
    (o.stripStart s).toNat =
      if o.rotation.runsBackward then o.width.toNat - (s.x.toNat + s.width.toNat)
      else s.x.toNat := by
  have hle : s.right ≤ o.width := by
    rw [UInt32.le_iff_toNat_le, hs.toNat_right]
    exact hs.le_width
  unfold Output.stripStart
  split
  · rw [UInt32.toNat_sub_of_le _ _ hle, hs.toNat_right]
  · rfl

/-- The span of a strip ends inside the picture's. -/
theorem Output.stripStart_add_width_le :
    (o.stripStart s).toNat + s.width.toNat ≤ o.width.toNat := by
  have hle := hs.le_width
  rw [Output.toNat_stripStart hs]
  split <;> omega

/-- A column is as far from the start of the strip's span as it is from the start of the strip,
if columns run as strips are laid out or the strip may be laid out either way. -/
theorem Output.mirror_eq_iff {back : Bool} {x : Nat} (hx : s.Holds x) :
    mirror back o.width.toNat x =
        (o.stripStart s).toNat + mirror back s.width.toNat (x - s.x.toNat) ↔
      back = o.rotation.runsBackward ∨ s.IsCentred o.width := by
  have hle := hs.le_width
  obtain ⟨hnear, hfar⟩ := hx
  have hwidth : o.width.toNat =
      s.x.toNat + s.width.toNat + (o.width.toNat - (s.x.toNat + s.width.toNat)) := by
    omega
  have hmirror := mirror_add_left (b := back) (l := s.x.toNat)
    (r := o.width.toNat - (s.x.toNat + s.width.toNat)) (k := x - s.x.toNat) (n := s.width.toNat)
    (by omega)
  rw [← hwidth, Nat.add_sub_cancel' hnear] at hmirror
  rw [hmirror, Nat.add_right_cancel_iff, Output.toNat_stripStart hs]
  unfold Strip.IsCentred
  cases back <;> cases o.rotation.runsBackward <;> simp <;> omega

/-- **A strip lands where its columns do.** -/
theorem Output.landsOn_iff {m : Nat} (hm : m < o.width.toNat) :
    o.LandsOn s m ↔ s.Holds (mirror o.rotation.runsBackward o.width.toNat m) := by
  have hle := hs.le_width
  unfold Output.LandsOn Strip.Holds mirror
  rw [Output.toNat_stripStart hs]
  split <;> omega

end Span

/-! ### The part of the output that a strip writes -/

/-- What an output is made into for a strip to be written as an output of its own. -/
structure Target.Lands (t : Target) (s : Strip) (part : Output) : Prop where
  rest : part = { t.output with width := s.width, address := part.address }
  used : ∀ p ∈ t.layout.planes,
    (part.address.get p).toNat = (t.output.address.get p).toNat + t.stripOffset s p
  unused : ∀ p, p ∉ t.layout.planes → part.address.get p = t.output.address.get p
  aligned : (if t.output.rotation.swapsAxes then t.layout.rowAlign else t.layout.columnAlign) ∣
    (t.output.stripStart s).toNat

theorem Target.lands_of_strip {t : Target} {s : Strip} {part : Output}
    (h : t.strip s = .ok part) : t.Lands s part := by
  rw [Target.strip, ite_rejectGeometry_eq_ok_iff, not_not, Outcome.bind_eq_ok_iff] at h
  obtain ⟨haligned, address, haddress, h⟩ := h
  cases h
  exact ⟨rfl, fun p hp => toNat_get_moveAddresses haddress t.layout.nodup_planes hp,
    fun p hp => get_moveAddresses_of_notMem haddress hp, Nat.dvd_of_mod_eq_zero haligned⟩

namespace Target.Lands

variable {t : Target} {s : Strip} {part : Output} {p : Fin 3} (h : t.Lands s part)
include h

/-- The span starts at a whole row of the plane, if rows are what it counts. -/
theorem planeRows_dvd (hr : t.output.rotation.swapsAxes = true) (p : Nat) :
    t.layout.planeRows p ∣ (t.output.stripStart s).toNat := by
  have haligned := h.aligned
  rw [hr, if_pos rfl] at haligned
  exact t.layout.planeRows_dvd haligned p

/-- The span starts at a whole byte of the plane, if columns are what it counts. -/
theorem eight_dvd (hr : t.output.rotation.swapsAxes = false) (hp : p ∈ t.layout.planes) :
    8 ∣ (t.output.stripStart s).toNat * t.layout.planeBits p := by
  have haligned := h.aligned
  rw [hr, if_neg Bool.false_ne_true] at haligned
  exact t.layout.eight_dvd_mul_planeBits haligned hp

/-- Counted from the start of the span, a sample has the address it has in the whole output. -/
theorem sampleAddress_eq (hp : p ∈ t.layout.planes) (q : Nat × Nat) :
    Target.sampleAddress { t with output := part } p q =
      t.sampleAddress p (t.output.fromStart s q) := by
  have hstride : part.stride = t.output.stride := by
    rw [h.rest]
  unfold Target.sampleAddress Output.fromStart
  dsimp only
  rw [h.used p hp, hstride, Target.stripOffset]
  cases hr : t.output.rotation.swapsAxes with
  | true =>
    have hrow : ((t.output.stripStart s).toNat + q.2) / t.layout.planeRows p =
        (t.output.stripStart s).toNat / t.layout.planeRows p + q.2 / t.layout.planeRows p :=
      Nat.add_div_of_dvd_right (h.planeRows_dvd hr p)
    simp only [if_true, hrow, Nat.add_mul]
    omega
  | false =>
    have hcolumn : ((t.output.stripStart s).toNat + q.1) * t.layout.planeBits p / 8 =
        (t.output.stripStart s).toNat * t.layout.planeBits p / 8 +
          q.1 * t.layout.planeBits p / 8 := by
      rw [Nat.add_mul]
      exact Nat.add_div_of_dvd_right (h.eight_dvd hr hp)
    simp only [Bool.false_eq_true, if_false, hcolumn]
    omega

/-- **Where a strip puts a pixel**: where the whole output does, if columns are placed as strips
are laid out or the strip may be laid out either way. -/
theorem position_eq_iff (hs : s.Within t.output.width) {order : FlipOrder} {x y : Nat}
    (hx : s.Holds x) (hy : y < t.output.height.toNat) :
    t.output.fromStart s (part.position order (x - s.x.toNat) y) = t.output.position order x y ↔
      t.output.rotation.placesBackward order = t.output.rotation.runsBackward ∨
        s.IsCentred t.output.width := by
  have hrotation : part.rotation = t.output.rotation := by
    rw [h.rest]
  have hwidth : part.width = s.width := by
    rw [h.rest]
  have hheight : part.height = t.output.height := by
    rw [h.rest]
  rw [← Output.mirror_eq_iff hs hx]
  unfold Output.fromStart Output.position Rotation.placesBackward
  rw [hrotation, hwidth, hheight]
  cases hr : t.output.rotation.swapsAxes with
  | true =>
    rw [Rotation.place_of_swapsAxes hr hy, Rotation.place_of_swapsAxes hr hy]
    simp only [if_true, Prod.mk.injEq, true_and]
    exact eq_comm
  | false =>
    rw [Rotation.place_of_not_swapsAxes hr hy, Rotation.place_of_not_swapsAxes hr hy]
    simp only [Bool.false_eq_true, if_false, Prod.mk.injEq, and_true]
    exact eq_comm

/-- **A strip's pixels are written where the whole output's are.** -/
theorem pixelAddress_eq (hs : s.Within t.output.width) (hp : p ∈ t.layout.planes) {x y : Nat}
    (hx : s.Holds x) (hy : y < t.output.height.toNat) :
    Target.pixelAddress { t with output := part } p (x - s.x.toNat) y =
      t.pixelAddress p x y := by
  have hposition := (h.position_eq_iff hs hx hy).mpr
    (.inl t.output.rotation.placesBackward_turnFirst)
  unfold Target.pixelAddress
  rw [h.sampleAddress_eq hp, hposition]

end Target.Lands

/-! ### The jobs of a plan -/

/-- The jobs **write** the output: every column of the picture is in one job, which puts its
pixels where the whole output would. -/
structure Target.WrittenBy (t : Target) (jobs : List StripJob) : Prop where
  /-- A job has an output like the whole one but for its width and its addresses. -/
  rest : ∀ job ∈ jobs,
    job.output = { t.output with width := job.strip.width, address := job.output.address } ∧
      ∀ p, p ∉ t.layout.planes → job.output.address.get p = t.output.address.get p
  places : ∀ x < t.output.width.toNat,
    ∃ i : Fin jobs.length, (∀ k : Fin jobs.length, (jobs.get k).strip.Holds x ↔ k = i) ∧
      ∀ y < t.output.height.toNat, ∀ p ∈ t.layout.planes,
        Target.pixelAddress { t with output := (jobs.get i).output } p
            (x - (jobs.get i).strip.x.toNat) y =
          t.pixelAddress p x y
  /-- The spans are disjoint and cover the axis of memory that the picture is cut on. -/
  spans : ∀ m < t.output.width.toNat,
    ∃ i : Fin jobs.length, ∀ k : Fin jobs.length, t.output.LandsOn (jobs.get k).strip m ↔ k = i
  span_le : ∀ job ∈ jobs,
    (t.output.stripStart job.strip).toNat + job.strip.width.toNat ≤ t.output.width.toNat
  /-- Offsets are found without a remainder. -/
  exact : ∀ job ∈ jobs, ∀ p ∈ t.layout.planes,
    if t.output.rotation.swapsAxes then t.layout.planeRows p ∣ (t.output.stripStart job.strip).toNat
    else 8 ∣ (t.output.stripStart job.strip).toNat * t.layout.planeBits p
  /-- Of columns that run backward, the last strip starts where the output does. -/
  last : t.output.rotation.runsBackward = true → ∀ hne : jobs ≠ [],
    t.output.stripStart (jobs.getLast hne).strip = 0 ∧
      (jobs.getLast hne).output.address = t.output.address

theorem Target.Lands.address_eq {t : Target} {s : Strip} {part : Output} (h : t.Lands s part)
    (hstart : t.output.stripStart s = 0) : part.address = t.output.address := by
  refine Vector.ext fun i hi => ?_
  by_cases hp : (⟨i, hi⟩ : Fin 3) ∈ t.layout.planes
  · have hused := h.used ⟨i, hi⟩ hp
    have hoffset : t.stripOffset s ⟨i, hi⟩ = 0 := by
      rw [Target.stripOffset, hstart]
      simp
    rw [hoffset, Nat.add_zero] at hused
    exact UInt64.toNat_inj.mp hused
  · exact h.unused ⟨i, hi⟩ hp

section Plan

variable {sources : List Source} {target : Target} {limits : StripLimits} {jobs : List StripJob}
  (hp : plan sources target limits = .ok jobs)
include hp

theorem lands_of_mem_plan {job : StripJob} (hj : job ∈ jobs) :
    target.Lands job.strip job.output :=
  Target.lands_of_strip (Strip.job_eq_ok_iff.mp (job_of_mem_plan hp hj).2).2.1

/-- The last strip of a plan ends where the picture does. -/
theorem toNat_x_add_width_getLast (hne : jobs ≠ []) :
    (jobs.getLast hne).strip.x.toNat + (jobs.getLast hne).strip.width.toNat =
      target.output.width.toNat := by
  have hpos := List.length_pos_iff.mpr hne
  have hlength := length_plan hp
  rw [List.getLast_eq_getElem, strip_getElem_plan hp _ (by omega)]
  exact toNat_x_add_width_of_last _ (by omega)

/-- **Cutting into strips puts every pixel where the whole output would**, whatever the rotation
of the output. Any plan that comes about does, for any layers, limits and addresses. -/
theorem writtenBy_of_plan : target.WrittenBy jobs where
  rest job hj := ⟨(lands_of_mem_plan hp hj).rest, (lands_of_mem_plan hp hj).unused⟩
  places x hx := by
    obtain ⟨i, hi⟩ := exists_holds_plan_iff hp hx
    have hj : jobs.get i ∈ jobs := List.get_mem _ _
    refine ⟨i, hi, fun y hy p hplane => ?_⟩
    exact (lands_of_mem_plan hp hj).pixelAddress_eq (within_of_mem_plan hp hj) hplane
      ((hi i).mpr rfl) hy
  spans m hm := by
    -- the strip that lands on a position is the one that holds the column which does
    obtain ⟨i, hi⟩ := exists_holds_plan_iff hp
      (mirror_lt (b := target.output.rotation.runsBackward) hm)
    refine ⟨i, fun k => ?_⟩
    have hj : jobs.get k ∈ jobs := List.get_mem _ _
    rw [Output.landsOn_iff (within_of_mem_plan hp hj) hm]
    exact hi k
  span_le job hj := Output.stripStart_add_width_le (within_of_mem_plan hp hj)
  exact job hj p hplane := by
    cases hr : target.output.rotation.swapsAxes with
    | true => exact (lands_of_mem_plan hp hj).planeRows_dvd hr p
    | false => exact (lands_of_mem_plan hp hj).eight_dvd hr hplane
  last hback hne := by
    have hj := List.getLast_mem hne
    -- nothing of the picture is left behind the last strip
    have hstart : target.output.stripStart (jobs.getLast hne).strip = 0 := by
      rw [← UInt32.toNat_inj, Output.toNat_stripStart (within_of_mem_plan hp hj), if_pos hback,
        toNat_x_add_width_getLast hp hne, Nat.sub_self]
      rfl
    exact ⟨hstart, (lands_of_mem_plan hp hj).address_eq hstart⟩

end Plan

/-- A surface of video that the composed picture reaches turned and then flipped. -/
def turnedVideo : Output :=
  { format := .ofLetters 'N' 'V' '1' '2', width := 600, height := 301, rotation := .vFlip90
    address := forPlanes 0x1000 0x80000 0, stride := forPlanes 304 304 0 }

theorem writtenBy_of_plan_turnedVideo :
    ∃ target jobs, Target.ofOutput turnedVideo = .ok target ∧
      plan [] target (.ofGeneration .normal) = .ok jobs ∧ jobs.length = 3 ∧
      target.layout.planes = [0, 1] ∧ target.WrittenBy jobs := by
  refine ⟨_, _, rfl, rfl, rfl, rfl, ?_⟩
  exact @writtenBy_of_plan [] _ (.ofGeneration .normal) _ rfl

end Blitter
