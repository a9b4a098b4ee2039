import Blitter.Proofs.Format.Catalog
import Blitter.Proofs.Tile

/-!
# The least box of whole tiles

A tiled source is fetched in **the least box** that will do (`TileFetch.IsLeast`): of all boxes of
whole tiles around the rectangle, an even number of tiles wide where brightness and color are
fetched together, none is narrower or lower. The largest surface is such a box itself, so that the
least one is never wider than that, wherever the widening by a tile takes its far edge.
`TileFetch.resolve_of_mem_catalog` says which rectangles of which formats are fetched at all.
-/

namespace Blitter

/-! ### Rounding to tiles -/

section Align

variable {v a : UInt32} (ha : 0 < a.toNat) {n : Nat} (hdvd : a.toNat ∣ n)
include ha hdvd

/-- Rounding down finds the **last** tile edge that is not beyond. -/
theorem le_alignDown (hn : n ≤ v.toNat) : n ≤ (alignDown v a).toNat := by
  obtain ⟨tiles, rfl⟩ := hdvd
  rw [Nat.mul_comm] at hn ⊢
  rw [toNat_alignDown]
  exact Nat.mul_le_mul_right _ ((Nat.le_div_iff_mul_le ha).mpr hn)

/-- Rounding up finds the **first** tile edge that is not before. -/
theorem alignUp_le (hlimit : a.toNat ∣ 8192) (hv : v.toNat ≤ 8192) (hn : v.toNat ≤ n) :
    (alignUp v a).toNat ≤ n := by
  rcases Nat.lt_or_ge n 8192 with hlt | hge
  · obtain ⟨-, -, hle⟩ := alignUp_spec ha (by omega) hdvd hn
    exact hle
  · obtain ⟨-, -, hle⟩ := alignUp_spec ha (by decide) hlimit hv
    exact hle.trans hge

end Align

/-! ### Boxes around a rectangle -/

/-- Tiles of the layout are fetched **in pairs**, brightness and color together. -/
def PixelLayout.pairsTiles (l : PixelLayout) : Bool :=
  l.isQuarterChroma && l.planarity == .semiPlanar

/-- The table has tiles for the layout in the arrangement. -/
def PixelLayout.HasTiles (l : PixelLayout) (arrangement : Arrangement) (shape : TileShape) : Prop :=
  shape ∈ TileShape.table ∧ TileFamily.ofLayout? l = some shape.family ∧
    shape.arrangement = arrangement

theorem PixelLayout.hasTiles_iff {l : PixelLayout} {arrangement : Arrangement}
    {shape : TileShape} :
    l.HasTiles arrangement shape ↔
      ∃ family, TileFamily.ofLayout? l = some family ∧
        TileShape.find? family arrangement = some shape := by
  -- no two entries of the table are for the same family and arrangement
  have hfind : ∀ shape ∈ TileShape.table,
      TileShape.find? shape.family shape.arrangement = some shape := by decide
  constructor
  · rintro ⟨hmem, hfamily, rfl⟩
    exact ⟨shape.family, hfamily, hfind shape hmem⟩
  · rintro ⟨family, hfamily, hshape⟩
    have hkey := List.find?_some hshape
    rw [Bool.and_eq_true, beq_iff_eq, beq_iff_eq] at hkey
    obtain ⟨rfl, harrangement⟩ := hkey
    exact ⟨List.mem_of_find?_eq_some hshape, hfamily, harrangement⟩

/-- Tiles come in pairs where the family is that of brightness and color planes. -/
theorem TileFamily.pairsTiles_of_ofLayout? {l : PixelLayout} {family : TileFamily}
    (h : ofLayout? l = some family) : l.pairsTiles = (family == .quarterSemiPlanar) := by
  unfold ofLayout? at h
  unfold PixelLayout.pairsTiles PixelLayout.isQuarterChroma
  cases hyuv : l.yuv with
  | true =>
    rw [hyuv, if_pos rfl] at h
    obtain ⟨⟨hplanarity, hchroma⟩, ⟨⟩⟩ := Option.ite_none_right_eq_some.mp h
    rw [hplanarity, hchroma]
    rfl
  | false =>
    rw [hyuv, if_neg Bool.false_ne_true] at h
    split at h
    · cases h
      rfl
    · obtain ⟨-, ⟨⟩⟩ := Option.ite_none_right_eq_some.mp h
      rfl

/-- These are the edges, the far ones excluded, of a box of **whole tiles around the rectangle**,
with an even number of tiles side by side if they come in pairs. -/
structure TileShape.Encloses (shape : TileShape) (paired : Bool) (src : Rect)
    (x1 y1 x2 y2 : Nat) : Prop where
  dvd_x1 : shape.width.toNat ∣ x1
  dvd_y1 : shape.height.toNat ∣ y1
  dvd_x2 : shape.width.toNat ∣ x2
  dvd_y2 : shape.height.toNat ∣ y2
  x1_le : x1 ≤ src.x.toNat
  y1_le : y1 ≤ src.y.toNat
  le_x2 : src.x.toNat + src.w.toNat ≤ x2
  le_y2 : src.y.toNat + src.h.toNat ≤ y2
  even : paired = true → 2 ∣ (x2 - x1) / shape.width.toNat

/-- The fetch is of the **least box** of such tiles around the rectangle. -/
structure TileFetch.IsLeast (t : TileFetch) (shape : TileShape) (paired : Bool) (src : Rect) :
    Prop where
  tile : t.tileWidth = shape.width ∧ t.tileHeight = shape.height
  encloses :
    shape.Encloses paired src t.box.x1.toNat t.box.y1.toNat t.box.x2.toNat t.box.y2.toNat
  width : t.box.width.toNat = t.box.x2.toNat - t.box.x1.toNat
  height : t.box.height.toNat = t.box.y2.toNat - t.box.y1.toNat
  least : ∀ x1 y1 x2 y2, shape.Encloses paired src x1 y1 x2 y2 →
    t.box.width.toNat ≤ x2 - x1 ∧ t.box.height.toNat ≤ y2 - y1
  width_le : t.box.width.toNat ≤ 8192
  height_le : t.box.height.toNat ≤ 8192
  /-- The rectangle starts in the first tile of the box. -/
  crop_x : src.x.toNat - t.box.x1.toNat < t.tileWidth.toNat
  crop_y : src.y.toNat - t.box.y1.toNat < t.tileHeight.toNat

/-- The largest surface is a whole number of **pairs** of tiles wide. -/
theorem TileShape.two_dvd_of_mem {shape : TileShape} (h : shape ∈ table) :
    2 ∣ 8192 / shape.width.toNat := by
  have hall : ∀ shape ∈ table, 2 ∣ 8192 / shape.width.toNat := by decide +kernel
  exact hall shape h

namespace TileFetch

section Tiled

variable {shape : TileShape} {src : Rect} (hshape : shape ∈ TileShape.table)
  (hright : src.x.toNat + src.w.toNat ≤ 8192) (hbottom : src.y.toNat + src.h.toNat ≤ 8192)
include hshape hright hbottom

/-- The largest surface is a box around every rectangle in it. -/
theorem encloses_surface (paired : Bool) : shape.Encloses paired src 0 0 8192 8192 :=
  have hregular := TileShape.regular_of_mem hshape
  { dvd_x1 := Nat.dvd_zero _
    dvd_y1 := Nat.dvd_zero _
    dvd_x2 := hregular.width_dvd
    dvd_y2 := hregular.height_dvd
    x1_le := Nat.zero_le _
    y1_le := Nat.zero_le _
    le_x2 := hright
    le_y2 := hbottom
    even := fun _ => TileShape.two_dvd_of_mem hshape }

variable (hw : 0 < src.w.toNat)
include hw

/-- A tiled box is **the least number of tiles** wide that reaches over the rectangle, and even if
tiles come in pairs. -/
theorem exists_toNat_x2_tiled : ∃ n,
    (tiled shape src).box.x2.toNat = (alignDown src.x shape.width).toNat + n * shape.width.toNat ∧
      (alignUp src.right shape.width).toNat ≤
        (alignDown src.x shape.width).toNat + n * shape.width.toNat ∧
      (shape.family = .quarterSemiPlanar → 2 ∣ n) ∧
      ∀ m, (alignUp src.right shape.width).toNat ≤
          (alignDown src.x shape.width).toNat + m * shape.width.toNat →
        (shape.family = .quarterSemiPlanar → 2 ∣ m) → n ≤ m := by
  have hregular := TileShape.regular_of_mem hshape
  have hpos := hregular.width_pos
  have hle := hregular.width_le
  obtain ⟨hr, -⟩ := toNat_edges hright hbottom
  obtain ⟨hlt, hlimit, n, hn⟩ := dvd_alignUp_sub_alignDown src.x src.right hpos
    hregular.width_dvd (by omega) (by omega)
  rw [Nat.mul_comm] at hn
  have hup : (alignUp src.right shape.width).toNat =
      (alignDown src.x shape.width).toNat + n * shape.width.toNat := by omega
  have hleast : ∀ m, (alignUp src.right shape.width).toNat ≤
      (alignDown src.x shape.width).toNat + m * shape.width.toNat → n ≤ m := by
    intro m hm
    rw [hup] at hm
    exact Nat.le_of_mul_le_mul_right (Nat.le_of_add_le_add_left hm) hpos
  have htiles : ((alignUp src.right shape.width - alignDown src.x shape.width) /
      shape.width).toNat = n := by
    rw [UInt32.toNat_div, UInt32.toNat_sub_of_le _ _ (UInt32.le_iff_toNat_le.mpr hlt.le), hn,
      Nat.mul_div_cancel _ hpos]
  have hodd : ((shape.family == .quarterSemiPlanar &&
      (alignUp src.right shape.width - alignDown src.x shape.width) / shape.width % 2 == 1) =
        true) ↔ shape.family = .quarterSemiPlanar ∧ n % 2 = 1 := by
    rw [Bool.and_eq_true, beq_iff_eq, beq_iff_eq, ← UInt32.toNat_inj, UInt32.toNat_mod, htiles]
    exact Iff.rfl
  unfold tiled
  simp only [hodd]
  split
  case isTrue h =>
    -- an odd number of tiles is one too few
    have hword : (alignUp src.right shape.width).toNat + shape.width.toNat < 2 ^ 32 := by omega
    refine ⟨n + 1, ?_, ?_, fun _ => by omega, fun m hm heven => ?_⟩
    · rw [UInt32.toNat_add, Nat.mod_eq_of_lt hword, hup, Nat.add_mul, Nat.one_mul, Nat.add_assoc]
    · rw [hup]
      exact Nat.add_le_add_left (Nat.mul_le_mul_right _ (Nat.le_succ n)) _
    · have hnm := hleast m hm
      have hm2 := heven h.1
      omega
  case isFalse h =>
    refine ⟨n, hup, hup.le, fun hfamily => ?_, fun m hm _ => hleast m hm⟩
    have heven : ¬ n % 2 = 1 := fun hn => h ⟨hfamily, hn⟩
    omega

variable (hh : 0 < src.h.toNat)
include hh

/-- **A tiled source is fetched in the least box.** -/
theorem isLeast_tiled :
    (tiled shape src).IsLeast shape (shape.family == .quarterSemiPlanar) src := by
  have hregular := TileShape.regular_of_mem hshape
  have hpos := hregular.width_pos
  have hypos := hregular.height_pos
  obtain ⟨hr, hb⟩ := toNat_edges hright hbottom
  obtain ⟨n, hx2, hreach, heven, hfewest⟩ := exists_toNat_x2_tiled hshape hright hbottom hw
  obtain ⟨-, hleup, -⟩ := alignUp_spec (v := src.right) hpos (by decide) hregular.width_dvd
    (by omega)
  obtain ⟨hyup, hyleup, -⟩ := alignUp_spec (v := src.bottom) hypos (by decide)
    hregular.height_dvd (by omega)
  have hdown : (alignDown src.x shape.width).toNat ≤ src.x.toNat := alignDown_le
  have hydown : (alignDown src.y shape.height).toNat ≤ src.y.toNat := alignDown_le
  have hyle : (alignDown src.y shape.height).toNat ≤ (alignUp src.bottom shape.height).toNat := by
    omega
  have hwidth : (tiled shape src).box.width.toNat =
      (tiled shape src).box.x2.toNat - (alignDown src.x shape.width).toNat :=
    UInt32.toNat_sub_of_le _ _ (UInt32.le_iff_toNat_le.mpr (hx2 ▸ Nat.le_add_right _ _))
  have hheight : (tiled shape src).box.height.toNat =
      (alignUp src.bottom shape.height).toNat - (alignDown src.y shape.height).toNat :=
    UInt32.toNat_sub_of_le _ _ (UInt32.le_iff_toNat_le.mpr hyle)
  have hencloses : shape.Encloses (shape.family == .quarterSemiPlanar) src
      (alignDown src.x shape.width).toNat (alignDown src.y shape.height).toNat
      (tiled shape src).box.x2.toNat (alignUp src.bottom shape.height).toNat :=
    { dvd_x1 := dvd_alignDown
      dvd_y1 := dvd_alignDown
      dvd_x2 := hx2 ▸ Nat.dvd_add dvd_alignDown (Nat.dvd_mul_left _ _)
      dvd_y2 := hyup
      x1_le := hdown
      y1_le := hydown
      le_x2 := by omega
      le_y2 := by omega
      even := fun hpaired => by
        rw [hx2, Nat.add_sub_cancel_left, Nat.mul_div_cancel _ hpos]
        exact heven (beq_iff_eq.mp hpaired) }
  have hleast : ∀ x1 y1 x2 y2,
      shape.Encloses (shape.family == .quarterSemiPlanar) src x1 y1 x2 y2 →
        (tiled shape src).box.width.toNat ≤ x2 - x1 ∧
          (tiled shape src).box.height.toNat ≤ y2 - y1 := by
    intro x1 y1 x2 y2 h
    -- the edges of another box are no nearer to the rectangle
    have hx1 : x1 ≤ (alignDown src.x shape.width).toNat := le_alignDown hpos h.dvd_x1 h.x1_le
    have hy1 : y1 ≤ (alignDown src.y shape.height).toNat := le_alignDown hypos h.dvd_y1 h.y1_le
    have hx2' : (alignUp src.right shape.width).toNat ≤ x2 :=
      alignUp_le hpos h.dvd_x2 hregular.width_dvd (by omega) (hr.le.trans h.le_x2)
    have hy2' : (alignUp src.bottom shape.height).toNat ≤ y2 :=
      alignUp_le hypos h.dvd_y2 hregular.height_dvd (by omega) (hb.le.trans h.le_y2)
    have htiles : (x2 - x1) / shape.width.toNat * shape.width.toNat = x2 - x1 :=
      Nat.div_mul_cancel (Nat.dvd_sub h.dvd_x2 h.dvd_x1)
    have hfew : n ≤ (x2 - x1) / shape.width.toNat :=
      hfewest _ (by omega) fun hfamily => h.even (beq_iff_eq.mpr hfamily)
    have hnarrow := Nat.mul_le_mul_right shape.width.toNat hfew
    omega
  have hsurface := hleast _ _ _ _ (encloses_surface hshape hright hbottom _)
  exact
    { tile := ⟨rfl, rfl⟩
      encloses := hencloses
      width := hwidth
      height := hheight
      least := hleast
      width_le := hsurface.1
      height_le := hsurface.2
      crop_x := Nat.sub_lt_left_of_lt_add hdown (lt_alignDown_add hpos)
      crop_y := Nat.sub_lt_left_of_lt_add hydown (lt_alignDown_add hypos) }

end Tiled

/-- **Which sources are fetched, and what of them.** A rectangle that is not empty is fetched
exactly if it ends on the largest surface and is linear, or of a format that has tiles in the
arrangement. A linear source is fetched as it is, a tiled one in the least box of whole tiles
around it. -/
theorem resolve_of_mem_catalog {f : Format} (hf : f ∈ Format.catalog) (arrangement : Arrangement)
    {src : Rect} (hsrc : src.isEmpty = false) :
    ((∃ t, resolve f.code arrangement src = .ok t) ↔
      (src.x.toNat + src.w.toNat ≤ 8192 ∧ src.y.toNat + src.h.toNat ≤ 8192) ∧
        (arrangement = .linear ∨ ∃ shape, f.layout.HasTiles arrangement shape)) ∧
    ∀ t, resolve f.code arrangement src = .ok t →
      (arrangement = .linear ∧ t.box.x1 = src.x ∧ t.box.y1 = src.y ∧
        t.box.width = src.w ∧ t.box.height = src.h) ∨
      (arrangement ≠ .linear ∧ ∃ shape, f.layout.HasTiles arrangement shape ∧
        t.IsLeast shape f.layout.pairsTiles src) := by
  have hlayout : f.code.readLayout = .ok f.layout :=
    FormatCode.readLayout_eq_ok_iff.mpr ⟨f, hf, rfl, rfl⟩
  obtain ⟨hw, hh⟩ := Rect.isEmpty_eq_false_iff.mp hsrc
  constructor
  · constructor
    · rintro ⟨t, ht⟩
      obtain ⟨hbounds, ⟨hlinear, -⟩ | ⟨-, layout, family, shape, hl, hfamily, hfind, -⟩⟩ :=
        resolve_eq_ok_iff.mp ht
      · exact ⟨hbounds, .inl hlinear⟩
      · obtain rfl := Outcome.eq_of_eq_ok hlayout hl
        exact ⟨hbounds, .inr ⟨shape, PixelLayout.hasTiles_iff.mpr ⟨family, hfamily, hfind⟩⟩⟩
    · rintro ⟨hbounds, htiles⟩
      by_cases hlinear : arrangement = .linear
      · exact ⟨_, resolve_eq_ok_iff.mpr ⟨hbounds, .inl ⟨hlinear, rfl⟩⟩⟩
      · obtain ⟨shape, htiles⟩ := htiles.resolve_left hlinear
        obtain ⟨family, hfamily, hfind⟩ := PixelLayout.hasTiles_iff.mp htiles
        exact ⟨_, resolve_eq_ok_iff.mpr
          ⟨hbounds, .inr ⟨hlinear, f.layout, family, shape, hlayout, hfamily, hfind, rfl⟩⟩⟩
  · intro t ht
    obtain ⟨⟨hright, hbottom⟩,
      ⟨hlinear, rfl⟩ | ⟨hne, layout, family, shape, hl, hfamily, hfind, rfl⟩⟩ :=
        resolve_eq_ok_iff.mp ht
    · obtain ⟨hr, hb⟩ := toNat_edges hright hbottom
      have hwidth : src.right - src.x = src.w := by
        rw [← UInt32.toNat_inj, UInt32.toNat_sub_of_le _ _ (UInt32.le_iff_toNat_le.mpr (by omega))]
        omega
      have hheight : src.bottom - src.y = src.h := by
        rw [← UInt32.toNat_inj, UInt32.toNat_sub_of_le _ _ (UInt32.le_iff_toNat_le.mpr (by omega))]
        omega
      exact .inl ⟨hlinear, rfl, rfl, hwidth, hheight⟩
    · obtain rfl := Outcome.eq_of_eq_ok hlayout hl
      have htiles := PixelLayout.hasTiles_iff.mpr ⟨family, hfamily, hfind⟩
      refine .inr ⟨hne, shape, htiles, ?_⟩
      rw [TileFamily.pairsTiles_of_ofLayout? htiles.2.1]
      exact isLeast_tiled htiles.1 hright hbottom hw hh

/-- A rectangle in the last columns of the largest surface, which a single tile holds. -/
def lastColumns : Rect := ⟨8161, 8, 31, 16⟩

/-- The tile beside it is fetched as well, **beyond the far edge** of the largest surface. -/
theorem resolve_of_mem_catalog_lastColumns :
    Format.nv12 ∈ Format.catalog ∧ lastColumns.isEmpty = false ∧
      ∃ t shape, resolve Format.nv12.code .decoderPacked32x8 lastColumns = .ok t ∧
        t.box = ⟨8160, 8, 8224, 24⟩ ∧
        Format.nv12.layout.HasTiles .decoderPacked32x8 shape ∧
        t.IsLeast shape Format.nv12.layout.pairsTiles lastColumns := by
  have hsrc : lastColumns.isEmpty = false := by decide
  obtain ⟨hiff, hfetch⟩ :=
    resolve_of_mem_catalog Format.nv12_mem_catalog .decoderPacked32x8 hsrc
  obtain ⟨t, ht⟩ := hiff.mpr ⟨by decide, .inr ⟨⟨.quarterSemiPlanar, .decoderPacked32x8, 32, 8,
    .decoderPacked, some 0x25⟩, by decide, by decide, rfl⟩⟩
  have hbox : t.box = ⟨8160, 8, 8224, 24⟩ := by
    cases ht
    rfl
  obtain ⟨hlinear, -⟩ | ⟨-, shape, htiles, hleast⟩ := hfetch t ht
  · cases hlinear
  · exact ⟨Format.nv12_mem_catalog, hsrc, t, shape, ht, hbox, htiles, hleast⟩

end TileFetch

end Blitter
