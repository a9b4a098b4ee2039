import Blitter.Proofs.Compiler.Fill
import Blitter.Proofs.Compiler.Lossless

/-!
# Samples that a fill changes

The write pipe writes whole samples. A sample of color can be that of several pixels, so that what
is written for the pixels of a rectangle is changed for others too, if some of them are outside. A
fill is accepted only if its rectangle starts with a sample; `PixelLayout.keepsOutside_iff` says
when it ends with one, and `Compiler.fill_keepsOutside_iff` that this is when a fill **changes no
pixel outside** its rectangle.
-/

namespace Blitter

/-- The pixels share a sample of `plane`. -/
def PixelLayout.Shares (l : PixelLayout) (plane : Nat) (a b : Nat × Nat) : Prop :=
  a.1 / l.planeColumns plane = b.1 / l.planeColumns plane ∧
    a.2 / l.planeRows plane = b.2 / l.planeRows plane

/-- The pixel that is `a` in a rectangle, counted from its first one. -/
def Rect.pixel (r : Rect) (a : Nat × Nat) : Nat × Nat := (r.x.toNat + a.1, r.y.toNat + a.2)

/-- The samples that pixels in the rectangle share are **of no other pixel** of a surface of the
given size. -/
def PixelLayout.KeepsOutside (l : PixelLayout) (width height : Nat) (r : Rect) : Prop :=
  ∀ p ∈ l.planes, ∀ a b : Nat × Nat, r.Holds a → l.Shares p a b →
    b.1 < width → b.2 < height → r.Holds b

/-- The target is **a region of the other**: its pixels are those of the rectangle, with the same
addresses and the same samples. -/
structure Target.IsRegion (t : Target) (r : Rect) (part : Target) : Prop where
  layout : part.layout = t.layout
  size : part.output.width = r.w ∧ part.output.height = r.h
  rotation : part.output.rotation = .none
  address : ∀ p ∈ t.layout.planes, ∀ a,
    part.sampleAddress p a = t.sampleAddress p (r.pixel a)
  samples : ∀ p ∈ t.layout.planes, ∀ a b,
    part.layout.Shares p a b ↔ t.layout.Shares p (r.pixel a) (r.pixel b)

/-! ### Groups of columns and rows -/

/-- The groups of `n` that reach into a span which starts with a group stay in it, up to a limit,
if the span **ends with a group or at the limit**. -/
theorem groups_within_iff {n start size limit : Nat} (hn : 0 < n) (hstart : n ∣ start)
    (hsize : 0 < size) (hle : start + size ≤ limit) :
    (∀ i j, start ≤ i ∧ i < start + size → i / n = j / n → j < limit →
        start ≤ j ∧ j < start + size) ↔
      n ∣ start + size ∨ start + size = limit := by
  constructor
  · intro h
    by_contra hends
    obtain ⟨hsplit, hlimit⟩ := not_or.mp hends
    -- the first one behind the span is in the group of the last one in it
    have hgroup : (start + size - 1) / n = (start + size) / n := by
      have hsucc : start + size = start + size - 1 + 1 := by omega
      rw [hsucc] at hsplit
      rw [← Nat.succ_div_of_not_dvd hsplit, ← hsucc]
    obtain ⟨-, hlt⟩ := h (start + size - 1) (start + size) (by omega) hgroup (by omega)
    exact Nat.lt_irrefl _ hlt
  · intro hends i j hi hij hj
    have hfirst : start / n ≤ j / n := hij ▸ Nat.div_le_div_right hi.1
    refine ⟨?_, ?_⟩
    · have hmul := (Nat.le_div_iff_mul_le hn).mp hfirst
      rw [Nat.div_mul_cancel hstart] at hmul
      exact hmul
    · rcases hends with ⟨groups, hgroups⟩ | hlimit
      · have hlast : i / n < groups := Nat.div_lt_of_lt_mul (hgroups ▸ hi.2)
        rw [hgroups, Nat.mul_comm]
        exact (Nat.div_lt_iff_lt_mul hn).mp (hij ▸ hlast)
      · omega

section KeepsOutside

variable {f : Format} (hf : f ∈ Format.catalog) {width height : Nat} {r : Rect}
  (hw : 0 < r.w.toNat) (hh : 0 < r.h.toNat) (hcolumns : f.layout.columnAlign ∣ r.x.toNat)
  (hrows : f.layout.rowAlign ∣ r.y.toNat) (hright : r.x.toNat + r.w.toNat ≤ width)
  (hbottom : r.y.toNat + r.h.toNat ≤ height)
include hf hw hh hcolumns hrows hright hbottom

/-- A rectangle that starts with whole samples keeps the pixels outside as they are exactly if it
**ends with whole samples**, or where the surface does. -/
theorem PixelLayout.keepsOutside_iff :
    f.layout.KeepsOutside width height r ↔
      (f.layout.columnAlign ∣ r.x.toNat + r.w.toNat ∨ r.x.toNat + r.w.toNat = width) ∧
        (f.layout.rowAlign ∣ r.y.toNat + r.h.toNat ∨ r.y.toNat + r.h.toNat = height) := by
  obtain ⟨hwhole, widest, hwidest, hcolumn, hrow⟩ := PixelLayout.align_eq hf
  have hacross {p : Fin 3} (hp : p ∈ f.layout.planes) :=
    groups_within_iff (f.layout.planeColumns_pos p) ((hwhole p hp).1.trans hcolumns) hw hright
  have hdown {p : Fin 3} (hp : p ∈ f.layout.planes) :=
    groups_within_iff (f.layout.planeRows_pos p) ((hwhole p hp).2.trans hrows) hh hbottom
  constructor
  · intro hkeeps
    rw [← hcolumn, ← hrow, ← hacross hwidest, ← hdown hwidest]
    constructor
    · intro i j hi hij hj
      have hb := hkeeps widest hwidest (i, r.y.toNat) (j, r.y.toNat)
        ⟨hi, Nat.le_refl _, Nat.lt_add_of_pos_right hh⟩ ⟨hij, rfl⟩ hj (by omega)
      exact hb.1
    · intro i j hi hij hj
      have hb := hkeeps widest hwidest (r.x.toNat, i) (r.x.toNat, j)
        ⟨⟨Nat.le_refl _, Nat.lt_add_of_pos_right hw⟩, hi⟩ ⟨rfl, hij⟩ (by omega) hj
      exact hb.2
  · rintro ⟨hends, hends'⟩ p hp a b ha ⟨hcolumns', hrows'⟩ hb hb'
    have hx := (hacross hp).mpr (hends.imp_left (hwhole p hp).1.trans)
    have hy := (hdown hp).mpr (hends'.imp_left (hwhole p hp).2.trans)
    exact ⟨hx a.1 b.1 ha.1 hcolumns' hb, hy a.2 b.2 ha.2 hrows' hb'⟩

end KeepsOutside

/-! ### The region of a fill -/

section Region

variable {f : Format} (hf : f ∈ Format.catalog) {t : Target} (ht : t.layout = f.layout) {r : Rect}
  (hcolumns : f.layout.columnAlign ∣ r.x.toNat) (hrows : f.layout.rowAlign ∣ r.y.toNat)
include hf ht hcolumns hrows

/-- A cut-out that starts with whole samples **is a region** of the surface. -/
theorem Target.IsCutout.isRegion {part : Target} (h : t.IsCutout r part.output)
    (hlayout : part.layout = t.layout) : t.IsRegion r part where
  layout := hlayout
  size := by
    rw [h.rest]
    exact ⟨rfl, rfl⟩
  rotation := by rw [h.rest]
  address p hp a := by
    have hstride : part.output.stride = t.output.stride := by rw [h.rest]
    have hrow := Nat.add_div_of_dvd_right (b := a.2) (h.rows p hp)
    have hcolumn := Nat.add_div_of_dvd_right (b := a.1 * t.layout.planeBits p) (h.columns p hp)
    simp only [sampleAddress, Rect.pixel, hlayout, hstride, h.used p hp, Nat.add_mul, hrow, hcolumn]
    omega
  samples p hp a b := by
    obtain ⟨hwhole, -⟩ := PixelLayout.align_eq hf
    rw [← ht] at hwhole hcolumns hrows
    have hcolumn (n : Nat) := Nat.add_div_of_dvd_right (b := n) ((hwhole p hp).1.trans hcolumns)
    have hrow (n : Nat) := Nat.add_div_of_dvd_right (b := n) ((hwhole p hp).2.trans hrows)
    simp only [PixelLayout.Shares, Rect.pixel, hlayout, hcolumn, hrow, Nat.add_left_cancel_iff]

end Region

namespace Compiler

/-- **When a fill changes its rectangle only.** The pass of a fill writes the region of the surface
that is the rectangle, in whole samples. No pixel of the surface outside shares any of them exactly
if the far edges of the rectangle, like the near ones, are between samples or at the edge of the
surface. -/
theorem fill_keepsOutside_iff {c : Compiler} {fill : Fill} {output : Output} {program : Program}
    (h : c.fill fill output = .ok program) :
    ∃ whole part pass, Target.ofOutput output = .ok whole ∧ whole.IsRegion fill.rect part ∧
      program.passes = [pass] ∧ (∀ rf : RegisterFile, (rf.apply pass.writes).WritesTo part) ∧
      (whole.layout.KeepsOutside output.memorySize.1.toNat output.memorySize.2.toNat fill.rect ↔
        (whole.layout.columnAlign ∣ fill.rect.x.toNat + fill.rect.w.toNat ∨
            fill.rect.x.toNat + fill.rect.w.toNat = output.memorySize.1.toNat) ∧
          (whole.layout.rowAlign ∣ fill.rect.y.toNat + fill.rect.h.toNat ∨
            fill.rect.y.toNat + fill.rect.h.toNat = output.memorySize.2.toNat)) := by
  obtain ⟨frame, hframe, rfl⟩ := fill_eq_ok_iff.mp h
  obtain ⟨part, composed, hpart, hcomposed, rfl⟩ := fillFrame_eq_ok_iff.mp hframe
  obtain ⟨f, hfits⟩ := exists_fillTarget_iff.mp ⟨part, hpart⟩
  obtain ⟨whole, hwhole, hlayout, hcutout, hself⟩ := isCutout_of_fillTarget hpart
  obtain rfl := Outcome.eq_of_eq_ok hwhole hfits.ofOutput_eq_ok
  have htarget : composed.target = part := by
    obtain ⟨_, _, _, -, -, -, rfl⟩ := composeFrame_eq_ok_iff.mp hcomposed
    rfl
  refine ⟨_, part, _, hwhole, ?_, rfl, ?_, ?_⟩
  · exact hcutout.isRegion hfits.mem_catalog rfl hfits.columns hfits.rows hlayout
  · intro rf
    rw [← htarget] at hself ⊢
    exact (sound_of_fillFrame hframe).writesTo_apply_pass hself rf
  · exact PixelLayout.keepsOutside_iff hfits.mem_catalog hfits.nonempty.1 hfits.nonempty.2
      hfits.columns hfits.rows hfits.right hfits.bottom

/-- A rectangle that ends with whole samples. -/
theorem fill_keepsOutside_iff_greyFill :
    ∃ program whole, (ofGeneration .normal).fill greyFill turnedScreen = .ok program ∧
      Target.ofOutput turnedScreen = .ok whole ∧
      whole.layout.KeepsOutside 640 480 greyFill.rect := by
  have h : (ofGeneration .normal).fill greyFill turnedScreen = .ok _ := rfl
  obtain ⟨whole, part, pass, hwhole, -, -, -, hiff⟩ := fill_keepsOutside_iff h
  refine ⟨_, whole, h, hwhole, hiff.mpr ?_⟩
  cases hwhole
  exact ⟨.inl (by decide), .inl (by decide)⟩

/-- A rectangle of three columns. -/
def narrowFill : Fill := { color := 0xFF808080, rect := ⟨0, 0, 3, 2⟩ }

/-- **A fill changes pixels outside**: the fourth column of the surface shares its color with the
third one, the last of the rectangle. -/
theorem not_keepsOutside_narrowFill :
    ∃ program whole, (ofGeneration .normal).fill narrowFill turnedScreen = .ok program ∧
      Target.ofOutput turnedScreen = .ok whole ∧ (1 : Fin 3) ∈ whole.layout.planes ∧
      narrowFill.rect.Holds (2, 0) ∧ ¬ narrowFill.rect.Holds (3, 0) ∧
      whole.layout.Shares 1 (2, 0) (3, 0) ∧
      ¬ whole.layout.KeepsOutside 640 480 narrowFill.rect := by
  have hinside : narrowFill.rect.Holds (2, 0) := by decide
  have houtside : ¬ narrowFill.rect.Holds (3, 0) := by decide
  have hshares : Format.nv12.layout.Shares 1 (2, 0) (3, 0) := ⟨rfl, rfl⟩
  refine ⟨_, _, rfl, rfl, by decide, hinside, houtside, hshares, fun hkeeps => ?_⟩
  exact houtside (hkeeps 1 (by decide) (2, 0) (3, 0) hinside hshares (by decide) (by decide))

end Compiler

end Blitter
