import Blitter.Proofs.Outcome
import Blitter.Proofs.Rect
import Blitter.Tile

/-!
# Boxes of whole tiles

A source is fetched in a box of whole tiles around its rectangle (`TileFetch.Boxes`): the box
starts on a tile, no further out than the rectangle, and is some number of tiles wide and high. A
linear source is its own box, of tiles of one pixel. How pixels are fetched depends on the format
and the arrangement and not on the rectangle (`TileFetch.mode_eq_of_resolve`).
-/

namespace Blitter

/-! ### Rounding to tiles -/

section Align

variable {v a : UInt32}

theorem toNat_alignDown : (alignDown v a).toNat = v.toNat / a.toNat * a.toNat := by
  have hle : v.toNat / a.toNat * a.toNat ≤ v.toNat := Nat.div_mul_le_self _ _
  rw [alignDown, UInt32.toNat_mul, UInt32.toNat_div]
  exact Nat.mod_eq_of_lt (Nat.lt_of_le_of_lt hle v.toNat_lt)

theorem dvd_alignDown : a.toNat ∣ (alignDown v a).toNat := by
  rw [toNat_alignDown]
  exact Nat.dvd_mul_left _ _

theorem alignDown_le : (alignDown v a).toNat ≤ v.toNat := by
  rw [toNat_alignDown]
  exact Nat.div_mul_le_self _ _

variable (ha : 0 < a.toNat)
include ha

theorem lt_alignDown_add : v.toNat < (alignDown v a).toNat + a.toNat := by
  rw [toNat_alignDown]
  exact Nat.lt_div_mul_add ha

variable {limit : Nat} (hlimit : limit < 2 ^ 32) (hdvd : a.toNat ∣ limit) (hv : v.toNat ≤ limit)
include hlimit hdvd hv

/-- Rounding up **to a tile** stays within every limit that is a whole number of tiles. -/
theorem alignUp_spec :
    a.toNat ∣ (alignUp v a).toNat ∧ v.toNat ≤ (alignUp v a).toNat ∧
      (alignUp v a).toNat ≤ limit := by
  have hmod : (v % a).toNat = v.toNat % a.toNat := UInt32.toNat_mod v a
  have hdivmod := Nat.div_add_mod' v.toNat a.toNat
  unfold alignUp
  split
  case isTrue h =>
    have hzero : v.toNat % a.toNat = 0 := by rw [← hmod, h, UInt32.toNat_zero]
    have heq : (v / a * a).toNat = v.toNat := by
      have hdown : (v / a * a).toNat = v.toNat / a.toNat * a.toNat := toNat_alignDown
      rw [hdown]
      omega
    rw [heq]
    exact ⟨Nat.dvd_of_mod_eq_zero hzero, Nat.le_refl _, hv⟩
  case isFalse h =>
    have hpos : 0 < v.toNat % a.toNat := by
      refine Nat.pos_of_ne_zero fun h0 => h (UInt32.toNat_inj.mp ?_)
      rw [hmod, h0, UInt32.toNat_zero]
    -- the next tile is still inside the limit, which is not inside this one
    have hnext : (v.toNat / a.toNat + 1) * a.toNat ≤ limit := by
      obtain ⟨tiles, rfl⟩ := hdvd
      rw [Nat.mul_comm a.toNat tiles] at hv ⊢
      refine Nat.mul_le_mul_right _ (Nat.div_lt_of_lt_mul ?_)
      refine Nat.lt_of_le_of_ne (Nat.mul_comm tiles _ ▸ hv) fun heq => ?_
      rw [heq, Nat.mul_mod_right] at hpos
      exact Nat.lt_irrefl 0 hpos
    have hmod' := Nat.mod_lt v.toNat ha
    have heq : ((v / a + 1) * a).toNat = (v.toNat / a.toNat + 1) * a.toNat := by
      have hsucc : (v / a + 1).toNat = v.toNat / a.toNat + 1 := by
        have hle := Nat.le_mul_of_pos_right (v.toNat / a.toNat + 1) ha
        rw [UInt32.toNat_add, UInt32.toNat_div, UInt32.toNat_one]
        exact Nat.mod_eq_of_lt (Nat.lt_of_le_of_lt (hle.trans hnext) hlimit)
      rw [UInt32.toNat_mul, hsucc]
      exact Nat.mod_eq_of_lt (Nat.lt_of_le_of_lt hnext hlimit)
    rw [heq]
    refine ⟨Nat.dvd_mul_left _ _, ?_, hnext⟩
    rw [Nat.add_mul, Nat.one_mul]
    omega

end Align

/-- From the tile that `lo` is in to the end of the tile before `hi` there is **a whole number of
tiles**. -/
theorem dvd_alignUp_sub_alignDown {a : UInt32} (lo hi : UInt32) (ha : 0 < a.toNat)
    (hdvd : a.toNat ∣ 8192) (hlt : lo.toNat < hi.toNat) (hhi : hi.toNat ≤ 8192) :
    (alignDown lo a).toNat < (alignUp hi a).toNat ∧ (alignUp hi a).toNat ≤ 8192 ∧
      a.toNat ∣ (alignUp hi a).toNat - (alignDown lo a).toNat := by
  obtain ⟨hup, hle, hlimit⟩ := alignUp_spec ha (by decide) hdvd hhi
  have hdown : (alignDown lo a).toNat ≤ lo.toNat := alignDown_le
  exact ⟨by omega, hlimit, Nat.dvd_sub hup dvd_alignDown⟩

/-! ### Fetching -/

/-- What every tile of the table keeps to. -/
structure TileShape.Regular (t : TileShape) : Prop where
  mode : t.mode ≠ .linear
  width_pos : 0 < t.width.toNat
  height_pos : 0 < t.height.toNat
  width_le : t.width.toNat ≤ 32
  height_le : t.height.toNat ≤ 32
  width_dvd : t.width.toNat ∣ 8192
  height_dvd : t.height.toNat ∣ 8192

theorem TileShape.regular_of_mem {t : TileShape} (h : t ∈ table) : t.Regular := by
  have hall : ∀ t ∈ table, t.mode ≠ .linear ∧ 0 < t.width.toNat ∧ 0 < t.height.toNat ∧
      t.width.toNat ≤ 32 ∧ t.height.toNat ≤ 32 ∧ t.width.toNat ∣ 8192 ∧ t.height.toNat ∣ 8192 := by
    decide +kernel
  obtain ⟨hmode, hw, hh, hwle, hhle, hwdvd, hhdvd⟩ := hall t h
  exact ⟨hmode, hw, hh, hwle, hhle, hwdvd, hhdvd⟩

namespace TileFetch

variable {format : FormatCode} {arrangement : Arrangement} {src : Rect} {t : TileFetch}

/-- **How a source is fetched**: as it is, or in the tiles that its format and arrangement have in
the table. -/
theorem resolve_eq_ok_iff :
    resolve format arrangement src = .ok t ↔
      (src.x.toNat + src.w.toNat ≤ 8192 ∧ src.y.toNat + src.h.toNat ≤ 8192) ∧
        (arrangement = .linear ∧ t = linear src ∨
          arrangement ≠ .linear ∧ ∃ layout family shape, format.readLayout = .ok layout ∧
            TileFamily.ofLayout? layout = some family ∧
            TileShape.find? family arrangement = some shape ∧ t = tiled shape src) := by
  have hmax : maxDimension.toNat < 2 ^ 32 - 1 := by decide
  have hbound : ¬ (maxDimension < src.right ∨ maxDimension < src.bottom) ↔
      src.x.toNat + src.w.toNat ≤ 8192 ∧ src.y.toNat + src.h.toNat ≤ 8192 := by
    rw [not_or, UInt32.not_lt, UInt32.not_lt]
    exact and_congr (clampedSum_le_iff hmax) (clampedSum_le_iff hmax)
  rw [resolve, ite_rejectGeometry_eq_ok_iff, hbound]
  refine and_congr_right fun _ => ?_
  split
  case isTrue h =>
    simp only [h, true_and, ne_eq, not_true_eq_false, false_and, or_false, Except.ok.injEq,
      eq_comm]
  case isFalse h =>
    rw [Outcome.bind_eq_ok_iff]
    constructor
    · rintro ⟨layout, hlayout, hmatch⟩
      split at hmatch
      case h_1 shape hshape =>
        obtain ⟨family, hfamily, hfind⟩ := Option.bind_eq_some_iff.mp hshape
        cases hmatch
        exact .inr ⟨h, layout, family, shape, hlayout, hfamily, hfind, rfl⟩
      case h_2 => exact absurd hmatch reject_ne_ok
    · rintro (⟨hlinear, -⟩ | ⟨-, layout, family, shape, hlayout, hfamily, hfind, rfl⟩)
      · exact absurd hlinear h
      · refine ⟨layout, hlayout, ?_⟩
        simp only [hfamily, Option.bind_some, hfind]
        rfl

/-- A source is tiled exactly when its arrangement is not linear. -/
theorem isTiled_of_resolve (h : resolve format arrangement src = .ok t) :
    t.isTiled = (arrangement != .linear) := by
  obtain ⟨-, ⟨rfl, rfl⟩ | ⟨hne, _, _, shape, -, -, hfind, rfl⟩⟩ := resolve_eq_ok_iff.mp h
  · rfl
  · have hregular := TileShape.regular_of_mem (List.mem_of_find?_eq_some hfind)
    exact (bne_iff_ne.mpr hregular.mode).trans (bne_iff_ne.mpr hne).symm

/-- The way of fetching **does not depend on the rectangle**. -/
theorem mode_eq_of_resolve (h : resolve format arrangement src = .ok t) {src' : Rect}
    {t' : TileFetch} (h' : resolve format arrangement src' = .ok t') : t.mode = t'.mode := by
  obtain ⟨-, ⟨hl, rfl⟩ | ⟨hne, layout, family, shape, hlayout, hfamily, hfind, rfl⟩⟩ :=
    resolve_eq_ok_iff.mp h
  · obtain ⟨-, ⟨-, rfl⟩ | ⟨hne, -⟩⟩ := resolve_eq_ok_iff.mp h'
    · rfl
    · exact absurd hl hne
  · obtain ⟨-, ⟨hl, -⟩ | ⟨-, layout', family', shape', hlayout', hfamily', hfind', rfl⟩⟩ :=
      resolve_eq_ok_iff.mp h'
    · exact absurd hl hne
    · obtain rfl := Outcome.eq_of_eq_ok hlayout hlayout'
      obtain rfl := Option.some.inj (hfamily.symm.trans hfamily')
      obtain rfl := Option.some.inj (hfind.symm.trans hfind')
      rfl

/-- Another rectangle of the same source **is fetched as well**, if it is not beyond the largest
surface. -/
theorem exists_resolve_of_resolve (h : resolve format arrangement src = .ok t) {src' : Rect}
    (hx : src'.x.toNat + src'.w.toNat ≤ 8192) (hy : src'.y.toNat + src'.h.toNat ≤ 8192) :
    ∃ t', resolve format arrangement src' = .ok t' := by
  obtain ⟨-, ⟨hl, -⟩ | ⟨hne, layout, family, shape, hlayout, hfamily, hfind, -⟩⟩ :=
    resolve_eq_ok_iff.mp h
  · exact ⟨_, resolve_eq_ok_iff.mpr ⟨⟨hx, hy⟩, .inl ⟨hl, rfl⟩⟩⟩
  · exact ⟨_, resolve_eq_ok_iff.mpr
      ⟨⟨hx, hy⟩, .inr ⟨hne, layout, family, shape, hlayout, hfamily, hfind, rfl⟩⟩⟩

/-- What is fetched is a **box of whole tiles** around the rectangle, small enough for the fields
of its registers. -/
structure Boxes (t : TileFetch) (src : Rect) : Prop where
  x_le : t.box.x1.toNat ≤ src.x.toNat
  y_le : t.box.y1.toNat ≤ src.y.toNat
  x_lt : src.x.toNat < t.box.x1.toNat + t.tileWidth.toNat
  y_lt : src.y.toNat < t.box.y1.toNat + t.tileHeight.toNat
  width : 0 < t.box.width.toNat ∧ t.box.width.toNat ≤ 8192 + 32
  height : 0 < t.box.height.toNat ∧ t.box.height.toNat ≤ 8192
  dvd_x : t.tileWidth.toNat ∣ t.box.x1.toNat
  dvd_y : t.tileHeight.toNat ∣ t.box.y1.toNat
  dvd_width : t.tileWidth.toNat ∣ t.box.width.toNat
  dvd_height : t.tileHeight.toNat ∣ t.box.height.toNat
  tileWidth : 0 < t.tileWidth.toNat ∧ t.tileWidth.toNat ≤ 32
  tileHeight : 0 < t.tileHeight.toNat ∧ t.tileHeight.toNat ≤ 32

section Boxes

variable (hright : src.x.toNat + src.w.toNat ≤ 8192) (hbottom : src.y.toNat + src.h.toNat ≤ 8192)
include hright hbottom

theorem toNat_edges : src.right.toNat = src.x.toNat + src.w.toNat ∧
    src.bottom.toNat = src.y.toNat + src.h.toNat := by
  constructor
  · rw [Rect.right, clampedSum, if_pos (by omega), UInt32.toNat_add]
    exact Nat.mod_eq_of_lt (by omega)
  · rw [Rect.bottom, clampedSum, if_pos (by omega), UInt32.toNat_add]
    exact Nat.mod_eq_of_lt (by omega)

variable (hw : 0 < src.w.toNat) (hh : 0 < src.h.toNat)
include hw hh

theorem boxes_linear : (linear src).Boxes src := by
  obtain ⟨hr, hb⟩ := toNat_edges hright hbottom
  have hone : (linear src).tileWidth.toNat = 1 ∧ (linear src).tileHeight.toNat = 1 := ⟨rfl, rfl⟩
  have hwidth : (linear src).box.width.toNat = src.w.toNat := by
    show (src.right - src.x).toNat = src.w.toNat
    rw [UInt32.toNat_sub_of_le _ _ (UInt32.le_iff_toNat_le.mpr (by omega)), hr]
    omega
  have hheight : (linear src).box.height.toNat = src.h.toNat := by
    show (src.bottom - src.y).toNat = src.h.toNat
    rw [UInt32.toNat_sub_of_le _ _ (UInt32.le_iff_toNat_le.mpr (by omega)), hb]
    omega
  exact
    { x_le := Nat.le_refl _
      y_le := Nat.le_refl _
      x_lt := Nat.lt_succ_self _
      y_lt := Nat.lt_succ_self _
      width := by omega
      height := by omega
      dvd_x := Nat.one_dvd _
      dvd_y := Nat.one_dvd _
      dvd_width := Nat.one_dvd _
      dvd_height := Nat.one_dvd _
      tileWidth := by omega
      tileHeight := by omega }

/-- The far edge of a tiled box is that of the rectangle's last tile, or of one tile more. -/
theorem boxes_tiled {shape : TileShape} (hshape : shape.Regular) : (tiled shape src).Boxes src := by
  obtain ⟨hr, hb⟩ := toNat_edges hright hbottom
  obtain ⟨hx, hx2, hxdvd⟩ := dvd_alignUp_sub_alignDown src.x src.right hshape.width_pos
    hshape.width_dvd (by omega) (by omega)
  obtain ⟨hy, hy2, hydvd⟩ := dvd_alignUp_sub_alignDown src.y src.bottom hshape.height_pos
    hshape.height_dvd (by omega) (by omega)
  have hle := hshape.width_le
  have hheight : (tiled shape src).box.height.toNat =
      (alignUp src.bottom shape.height).toNat - (alignDown src.y shape.height).toNat :=
    UInt32.toNat_sub_of_le _ _ (UInt32.le_iff_toNat_le.mpr (Nat.le_of_lt hy))
  have hwidth : ∃ tile, (tile = 0 ∨ tile = shape.width.toNat) ∧
      (tiled shape src).box.width.toNat =
        (alignUp src.right shape.width).toNat - (alignDown src.x shape.width).toNat + tile := by
    unfold tiled Box.width
    dsimp only
    split
    · have hedge : (alignUp src.right shape.width + shape.width).toNat =
          (alignUp src.right shape.width).toNat + shape.width.toNat := by
        rw [UInt32.toNat_add]
        exact Nat.mod_eq_of_lt (by omega)
      refine ⟨shape.width.toNat, .inr rfl, ?_⟩
      rw [UInt32.toNat_sub_of_le _ _ (UInt32.le_iff_toNat_le.mpr (by omega)), hedge]
      omega
    · exact ⟨0, .inl rfl, UInt32.toNat_sub_of_le _ _ (UInt32.le_iff_toNat_le.mpr (Nat.le_of_lt hx))⟩
  obtain ⟨tile, htile, hwidth⟩ := hwidth
  exact
    { x_le := alignDown_le
      y_le := alignDown_le
      x_lt := lt_alignDown_add hshape.width_pos
      y_lt := lt_alignDown_add hshape.height_pos
      width := by omega
      height := by omega
      dvd_x := dvd_alignDown
      dvd_y := dvd_alignDown
      dvd_width := by
        rw [hwidth]
        refine Nat.dvd_add hxdvd ?_
        rcases htile with rfl | rfl
        · exact Nat.dvd_zero _
        · exact Nat.dvd_refl _
      dvd_height := hheight ▸ hydvd
      tileWidth := ⟨hshape.width_pos, hshape.width_le⟩
      tileHeight := ⟨hshape.height_pos, hshape.height_le⟩ }

end Boxes

theorem boxes_of_resolve (h : resolve format arrangement src = .ok t) (hw : 0 < src.w.toNat)
    (hh : 0 < src.h.toNat) : t.Boxes src := by
  obtain ⟨⟨hright, hbottom⟩, ⟨-, rfl⟩ | ⟨-, _, _, shape, -, -, hfind, rfl⟩⟩ :=
    resolve_eq_ok_iff.mp h
  · exact boxes_linear hright hbottom hw hh
  · exact boxes_tiled hright hbottom hw hh
      (TileShape.regular_of_mem (List.mem_of_find?_eq_some hfind))

/-- The side codes of the tile control word **give back the sides** of a tile. -/
theorem two_pow_decode_controlWord (h : resolve format arrangement src = .ok t)
    (htiled : t.isTiled = true) :
    2 ^ ((Register.tileWidth.decode t.controlWord).toNat + 1) = t.tileWidth.toNat ∧
      2 ^ ((Register.tileHeight.decode t.controlWord).toNat + 1) = t.tileHeight.toNat := by
  obtain ⟨-, ⟨-, rfl⟩ | ⟨-, _, _, shape, -, -, hfind, rfl⟩⟩ := resolve_eq_ok_iff.mp h
  · cases htiled
  · have hall : ∀ shape ∈ TileShape.table,
        let word := Register.tileWidth.encode (sideCode shape.width) |||
          Register.tileHeight.encode (sideCode shape.height)
        2 ^ ((Register.tileWidth.decode word).toNat + 1) = shape.width.toNat ∧
          2 ^ ((Register.tileHeight.decode word).toNat + 1) = shape.height.toNat := by
      decide +kernel
    exact hall shape (List.mem_of_find?_eq_some hfind)

end TileFetch

end Blitter
