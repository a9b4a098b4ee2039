import Blitter.Proofs.Compiler.Admission
import Blitter.Proofs.Frame
import Blitter.Proofs.ReadPipe
import Blitter.Proofs.Register.Setting
import Blitter.Proofs.Tile

/-!
# Programs are read back

What a program puts into registers is what is read from them. Fields are masked when a word is put
together, so that this holds only as far as values fit their fields: rectangles of an admitted
layer stay below 8192, and boxes of tiles exceed that by at most one tile (`TileFetch.Boxes`).
There is one law for each part of the engine: a read pipe is set to fetch its source
(`Pipe.fetches_of_carries`), the write pipe writes to its target (`Target.writesTo_of_carries`) and
a copy is what was to be copied (`Compiler.copySetting_of_carries`).
-/

namespace Blitter

/-- A multiple that is divided and multiplied is what it was. -/
theorem div_mul_cancel_of_dvd {a b : UInt32} (h : b.toNat ∣ a.toNat) : a / b * b = a := by
  apply UInt32.toNat_inj.mp
  have hdown : (a / b * b).toNat = a.toNat / b.toNat * b.toNat := toNat_alignDown
  rw [hdown, Nat.div_mul_cancel h]

/-- A source has a compressed format exactly when it is compressed. -/
theorem TileFetch.isSome_compression_of_resolve {format : FormatCode} {arrangement : Arrangement}
    {src : Rect} {t : TileFetch} (h : resolve format arrangement src = .ok t) :
    t.compression.isSome = t.isCompressed := by
  obtain ⟨-, ⟨-, rfl⟩ | ⟨-, _, _, shape, -, -, hfind, rfl⟩⟩ := resolve_eq_ok_iff.mp h
  · rfl
  · have hall : ∀ shape ∈ TileShape.table, shape.compression.isSome = shape.mode.isCompressed := by
      decide
    exact hall shape (List.mem_of_find?_eq_some hfind)

/-! ### Read pipes -/

namespace Pipe

/-- The rotation and the compression in the control word of a graphics pipe. -/
private theorem control_fields (r : Rotation) (tiled compressed color scaled : Bool) :
    let control := Register.pipeEnable ||| Register.pipeRotation.encode r.code |||
      (if tiled then Register.pipeTiled else 0) |||
      (if compressed then Register.pipeCompressed else 0) |||
      (if color then Register.pipeColor else 0) ||| (if scaled then Register.pipeScaler else 0)
    Register.pipeRotation.decode control = r.code ∧
      (control &&& Register.pipeCompressed != 0) = compressed := by
  revert tiled compressed color scaled
  cases r <;> decide +kernel

/-- The frame word **tells how pixels are fetched**, and of which compressed format they are. -/
theorem decode_frameWord (s : Source) :
    Register.frameFetchMode.decode (frameWord s) = s.fetch.mode.code ∧
      Register.frameCompression.decode (frameWord s) = (s.fetch.compression.getD 0).toUInt32 := by
  have hmode : s.fetch.mode.code.toNat < 2 ^ Register.frameFetchMode.width.toNat := by
    cases s.fetch.mode <;> decide
  have hcompression : (s.fetch.compression.getD 0).toUInt32.toNat <
      2 ^ Register.frameCompression.width.toNat := by
    rw [UInt8.toNat_toUInt32]
    exact UInt8.toNat_lt _
  rw [frameWord, Field.decode_or, Field.decode_or, Field.decode_or, Field.decode_or,
    Field.decode_encode (by decide) hmode, Field.decode_encode (by decide) hcompression,
    Field.decode_encode_eq_zero (by decide), Field.decode_encode_eq_zero (by decide),
    Field.decode_encode_eq_zero (by decide), Field.decode_encode_eq_zero (by decide),
    UInt32.zero_or, UInt32.or_zero, UInt32.zero_or, UInt32.zero_or]
  exact ⟨rfl, rfl⟩

variable {p : Pipe} {s : Source}

/-- The program of a graphics pipe, group by group. -/
theorem writes_of_ne_simple (hk : p.kind ≠ .simple) :
    p.writes s = [p.put Register.pipeLayout s.layout.toWord, p.put Register.pipeFrame (frameWord s)] ++
      p.planeWrites s ++ (p.cropWrites s ++ p.tileWrites s ++ p.colorWrites s ++ p.scaleWrites s ++
        [p.put Register.pipeControl (controlWord s)]) := by
  unfold writes
  cases hkind : p.kind with
  | simple => exact absurd hkind hk
  | rotating | upright => rfl

/-- The bits of the word that switches scaling on and off. -/
private theorem scale_bits (x y : Bool) :
    let word := (if x then Register.scaleX else 0) ||| (if y then Register.scaleY else 0)
    (word &&& Register.scaleX != 0) = x ∧ (word &&& Register.scaleY != 0) = y := by
  cases x <;> cases y <;> decide

/-- The word that switches scaling on and off, along each axis. -/
theorem put_scaleControl_mem_scaleWrites :
    p.put Register.pipeScaleControl ((if s.layer.scalesX then Register.scaleX else 0) |||
      (if s.layer.scalesY then Register.scaleY else 0)) ∈ p.scaleWrites s := by
  simp only [scaleWrites]
  cases s.layer.scalesX <;> cases s.layer.scalesY <;> simp

/-- A simple pipe is given the source rectangle itself. -/
theorem writes_of_eq_simple (hk : p.kind = .simple) :
    p.writes s = [p.put Register.pipeLayout s.layout.toWord, p.put Register.pipeFrame (frameWord s)] ++
      p.planeWrites s ++
      [ p.put Register.pipeSourcePosition (packPosition s.layer.src.x s.layer.src.y),
        p.put Register.pipeSourceSize (packSize s.layer.src.w s.layer.src.h),
        p.put Register.pipeControl Register.pipeEnable ] := by
  unfold writes
  rw [hk]

variable {rf : RegisterFile} {width height : UInt32} (h : rf.Carries (p.writes s))

section Words

include h

theorem pipeWord_of_mem {reg : Nat} {value : UInt32} (hw : p.put reg value ∈ p.writes s) :
    rf.pipeWord p reg = value := h _ _ hw

theorem pipeWord_control : rf.pipeWord p Register.pipeControl = p.controlOf s :=
  pipeWord_of_mem h (p.put_control_mem_writes s)

theorem pipeWord_frame : rf.pipeWord p Register.pipeFrame = frameWord s :=
  pipeWord_of_mem h (p.put_frame_mem_writes s)

theorem pipeWord_layout : rf.pipeWord p Register.pipeLayout = s.layout.toWord :=
  pipeWord_of_mem h (by simp [writes])

theorem carries_planeWrites : rf.Carries (p.planeWrites s) := by
  refine h.mono fun w hw => ?_
  unfold writes
  exact List.mem_append_left _ (List.mem_append_right _ hw)

end Words

section Graphics

variable (hk : p.kind ≠ .simple)
include hk

theorem controlOf_of_ne_simple : p.controlOf s = controlWord s := by
  unfold controlOf
  cases hkind : p.kind with
  | simple => exact absurd hkind hk
  | rotating | upright => rfl

theorem useOf_of_ne_simple : p.useOf s =
    ⟨s.layout.planes.length, s.fetch.isTiled, s.layout.yuv, s.layer.scalesX || s.layer.scalesY⟩ := by
  unfold useOf
  cases hkind : p.kind with
  | simple => exact absurd hkind hk
  | rotating | upright => rfl

include h

theorem pipeWord_of_mem_group {reg : Nat} {value : UInt32}
    (hw : p.put reg value ∈ p.cropWrites s ∨ p.put reg value ∈ p.tileWrites s ∨
      p.put reg value ∈ p.scaleWrites s) : rf.pipeWord p reg = value := by
  refine pipeWord_of_mem h ?_
  rw [writes_of_ne_simple hk]
  simp only [List.mem_append]
  tauto

/-- The scaling of a graphics pipe is **that of the layer**. -/
theorem scaling_of_carries : rf.scaling p = (s.layer.scalesX, s.layer.scalesY) := by
  have hscaled : (rf.pipeWord p Register.pipeControl &&& Register.pipeScaler != 0) =
      (s.layer.scalesX || s.layer.scalesY) := by
    rw [pipeWord_control h]
    exact congrArg PipeUse.scaled ((p.ofWords_controlOf s).2.trans (useOf_of_ne_simple hk))
  have hword := pipeWord_of_mem_group h hk (.inr (.inr put_scaleControl_mem_scaleWrites))
  obtain ⟨hx, hy⟩ := scale_bits s.layer.scalesX s.layer.scalesY
  unfold RegisterFile.scaling
  rw [hword, hx, hy]
  split
  case isTrue hoff =>
    rw [hoff, bne_self_eq_false, eq_comm, Bool.or_eq_false_iff] at hscaled
    rw [hscaled.1, hscaled.2]
  case isFalse => rfl

variable (hfits : Compiler.RectsFit width height s.layer) (hb : s.fetch.Boxes s.layer.src)
include hfits hb

/-- A graphics pipe fetches **the box of tiles** around the source rectangle. -/
theorem fetchedBox_of_carries : rf.fetchedBox p =
    ⟨s.fetch.box.x1, s.fetch.box.y1, s.fetch.box.width, s.fetch.box.height⟩ := by
  have hposition : rf.pipeWord p Register.pipeSourcePosition =
      packPosition s.fetch.box.x1 s.fetch.box.y1 :=
    pipeWord_of_mem_group h hk (.inl (by simp [cropWrites]))
  have hsize : rf.pipeWord p Register.pipeSourceSize =
      packSize s.fetch.box.width s.fetch.box.height :=
    pipeWord_of_mem_group h hk (.inl (by simp [cropWrites]))
  have hx := hb.x_le
  have hy := hb.y_le
  have hwidth := hb.width
  have hheight := hb.height
  have hright := hfits.src_right
  have hbottom := hfits.src_bottom
  rw [RegisterFile.fetchedBox, hposition, hsize]
  exact Rect.ofWords_pack (by omega) (by omega) ⟨hwidth.1, by omega⟩ ⟨hheight.1, by omega⟩

/-- What is left of the box after cropping is **the source rectangle**. -/
theorem sourceRect_of_carries : rf.sourceRect p = s.layer.src := by
  have hposition : rf.pipeWord p Register.pipeCropPosition =
      packPosition (s.layer.src.x - s.fetch.box.x1) (s.layer.src.y - s.fetch.box.y1) :=
    pipeWord_of_mem_group h hk (.inl (by simp [cropWrites]))
  have hsize : rf.pipeWord p Register.pipeCropSize = packSize s.layer.src.w s.layer.src.h :=
    pipeWord_of_mem_group h hk (.inl (by simp [cropWrites]))
  obtain ⟨hwpos, hhpos, hwle, hhle⟩ := hfits.src
  have hright := hfits.src_right
  have hbottom := hfits.src_bottom
  have hx : (s.layer.src.x - s.fetch.box.x1).toNat = s.layer.src.x.toNat - s.fetch.box.x1.toNat :=
    UInt32.toNat_sub_of_le _ _ (UInt32.le_iff_toNat_le.mpr hb.x_le)
  have hy : (s.layer.src.y - s.fetch.box.y1).toNat = s.layer.src.y.toNat - s.fetch.box.y1.toNat :=
    UInt32.toNat_sub_of_le _ _ (UInt32.le_iff_toNat_le.mpr hb.y_le)
  have hcrop := Rect.ofWords_pack (x := s.layer.src.x - s.fetch.box.x1)
    (y := s.layer.src.y - s.fetch.box.y1) (w := s.layer.src.w) (h := s.layer.src.h) (by omega)
    (by omega) ⟨hwpos, by omega⟩ ⟨hhpos, by omega⟩
  have hread : rf.sourceRect p =
      { Rect.ofWords (rf.pipeWord p Register.pipeCropPosition)
          (rf.pipeWord p Register.pipeCropSize) with
        x := (rf.fetchedBox p).x + (s.layer.src.x - s.fetch.box.x1)
        y := (rf.fetchedBox p).y + (s.layer.src.y - s.fetch.box.y1) } := by
    unfold RegisterFile.sourceRect
    cases hkind : p.kind with
    | simple => exact absurd hkind hk
    | rotating | upright =>
      simp only [hposition, hsize, hcrop]
  rw [hread, hposition, hsize, hcrop, fetchedBox_of_carries h hk hfits hb]
  simp only [UInt32.add_comm _ (_ - _), UInt32.sub_add_cancel]

/-- Counted in tiles, the box **is the box that is fetched**. -/
theorem tileBox_of_carries
    (hfetch : TileFetch.resolve s.layer.format s.layer.arrangement s.layer.src = .ok s.fetch)
    (htiled : s.fetch.isTiled = true) : rf.tileBox p = rf.fetchedBox p := by
  have hgroup {reg : Nat} {value : UInt32} (hw : p.put reg value ∈
      [ p.put Register.pipeTileControl s.fetch.controlWord,
        p.put Register.pipeTilePosition
          (packPosition (s.fetch.box.x1 / s.fetch.tileWidth) (s.fetch.box.y1 / s.fetch.tileHeight)),
        p.put Register.pipeTileSize
          (packSize (s.fetch.box.width / s.fetch.tileWidth)
            (s.fetch.box.height / s.fetch.tileHeight)) ]) : rf.pipeWord p reg = value := by
    refine pipeWord_of_mem_group h hk (.inr (.inl ?_))
    rw [tileWrites, if_pos htiled]
    exact hw
  have hcontrol := hgroup List.mem_cons_self
  have hposition := hgroup (List.mem_cons_of_mem _ List.mem_cons_self)
  have hsize := hgroup (List.mem_cons_of_mem _ (List.mem_cons_of_mem _ List.mem_cons_self))
  obtain ⟨hw, hh⟩ := TileFetch.two_pow_decode_controlWord hfetch htiled
  have hsides : rf.tileSide p Register.tileWidth = s.fetch.tileWidth ∧
      rf.tileSide p Register.tileHeight = s.fetch.tileHeight := by
    unfold RegisterFile.tileSide
    rw [hcontrol, hw, hh]
    exact ⟨UInt32.ofNat_toNat, UInt32.ofNat_toNat⟩
  have hx := hb.x_le
  have hy := hb.y_le
  have hwidth := hb.width
  have hheight := hb.height
  have hright := hfits.src_right
  have hbottom := hfits.src_bottom
  have htiles : Rect.ofWords (rf.pipeWord p Register.pipeTilePosition)
      (rf.pipeWord p Register.pipeTileSize) =
        ⟨s.fetch.box.x1 / s.fetch.tileWidth, s.fetch.box.y1 / s.fetch.tileHeight,
          s.fetch.box.width / s.fetch.tileWidth, s.fetch.box.height / s.fetch.tileHeight⟩ := by
    have hle (a b : UInt32) : (a / b).toNat ≤ a.toNat := by
      rw [UInt32.toNat_div]
      exact Nat.div_le_self _ _
    have hpos {a b : UInt32} (ha : 0 < a.toNat) (hdvd : b.toNat ∣ a.toNat) :
        0 < (a / b).toNat := by
      rw [UInt32.toNat_div]
      exact Nat.div_pos (Nat.le_of_dvd ha hdvd) (Nat.pos_of_dvd_of_pos hdvd ha)
    rw [hposition, hsize]
    exact Rect.ofWords_pack ((hle _ _).trans_lt (by omega)) ((hle _ _).trans_lt (by omega))
      ⟨hpos hwidth.1 hb.dvd_width, (hle _ _).trans (by omega)⟩
      ⟨hpos hheight.1 hb.dvd_height, (hle _ _).trans (by omega)⟩
  unfold RegisterFile.tileBox
  rw [htiles, hsides.1, hsides.2, fetchedBox_of_carries h hk hfits hb]
  simp only [div_mul_cancel_of_dvd, hb.dvd_x, hb.dvd_y, hb.dvd_width, hb.dvd_height]

end Graphics

section Simple

variable (hk : p.kind = .simple)
include h hk

theorem scaling_of_carries_simple (hcheck : p.check s = .ok ()) :
    rf.scaling p = (s.layer.scalesX, s.layer.scalesY) := by
  obtain ⟨-, -, hx, hy⟩ := plain_of_check hcheck hk
  have hcontrol : rf.pipeWord p Register.pipeControl = Register.pipeEnable := by
    rw [pipeWord_control h, controlOf, hk]
  rw [RegisterFile.scaling, hcontrol, if_pos (by decide), hx, hy]

theorem sourceRect_of_carries_simple (hfits : Compiler.RectsFit width height s.layer) :
    rf.sourceRect p = s.layer.src := by
  have hgroup {w : RegisterWrite} (hw : w ∈
      [ p.put Register.pipeSourcePosition (packPosition s.layer.src.x s.layer.src.y),
        p.put Register.pipeSourceSize (packSize s.layer.src.w s.layer.src.h),
        p.put Register.pipeControl Register.pipeEnable ]) : w ∈ p.writes s := by
    rw [writes_of_eq_simple hk]
    exact List.mem_append_right _ hw
  have hposition := pipeWord_of_mem h (hgroup List.mem_cons_self)
  have hsize := pipeWord_of_mem h (hgroup (List.mem_cons_of_mem _ List.mem_cons_self))
  obtain ⟨hwpos, hhpos, hwle, hhle⟩ := hfits.src
  have hright := hfits.src_right
  have hbottom := hfits.src_bottom
  unfold RegisterFile.sourceRect
  rw [hk]
  dsimp only
  rw [RegisterFile.fetchedBox, hposition, hsize]
  exact Rect.ofWords_pack (by omega) (by omega) ⟨hwpos, by omega⟩ ⟨hhpos, by omega⟩

end Simple

/-- The bits of the control word that tell **how a source is turned and fetched**. -/
theorem controlOf_eq (hcheck : p.check s = .ok ()) :
    Register.pipeRotation.decode (p.controlOf s) = s.layer.rotation.code ∧
      (p.controlOf s &&& Register.pipeTiled != 0) = s.fetch.isTiled ∧
      (p.controlOf s &&& Register.pipeCompressed != 0) = s.fetch.isCompressed := by
  by_cases hk : p.kind = .simple
  · obtain ⟨htiled, hrotation, -, -⟩ := plain_of_check hcheck hk
    have hmode : s.fetch.mode = .linear := by
      rw [← bne_eq_false_iff_eq]
      exact htiled
    have hplain : s.fetch.isCompressed = false := by
      rw [TileFetch.isCompressed, hmode]
      rfl
    have hcontrol : p.controlOf s = Register.pipeEnable := by rw [controlOf, hk]
    rw [hcontrol, hrotation, htiled, hplain]
    decide
  · obtain ⟨hrotation, hcompressed⟩ := control_fields s.layer.rotation s.fetch.isTiled
      s.fetch.isCompressed s.layout.yuv (s.layer.scalesX || s.layer.scalesY)
    have htiled := congrArg PipeUse.tiled ((p.ofWords_controlOf s).2.trans (useOf_of_ne_simple hk))
    rw [controlOf_of_ne_simple hk] at htiled ⊢
    exact ⟨hrotation, htiled, hcompressed⟩

/-- The compressed format of a source is **read from two words**. -/
theorem compression_of_carries (h : rf.Carries (p.writes s)) (hcheck : p.check s = .ok ())
    (hsome : s.fetch.compression.isSome = s.fetch.isCompressed) :
    rf.compression p = s.fetch.compression := by
  obtain ⟨-, -, hcompressed⟩ := controlOf_eq hcheck
  rw [← hsome] at hcompressed
  rw [RegisterFile.compression, pipeWord_control h, pipeWord_frame h, (decode_frameWord s).2]
  cases hc : s.fetch.compression with
  | none =>
    rw [hc] at hcompressed
    rw [if_pos (bne_eq_false_iff_eq.mp hcompressed)]
  | some code =>
    rw [hc] at hcompressed
    rw [if_neg (bne_iff_ne.mp hcompressed), Option.getD_some, UInt8.toUInt8_toUInt32]

/-- **A pipe fetches the source** that its program is for. -/
theorem fetches_of_carries {c : Compiler} (h : rf.Carries (p.writes s))
    (hadmitted : c.Admitted width height s) (hcheck : p.check s = .ok ()) : rf.Fetches p s := by
  obtain ⟨-, -, hfetch⟩ := Source.ofLayer_eq_ok_iff.mp hadmitted.found
  obtain ⟨f, hf, hlayout⟩ := hadmitted.exists_mem_catalog
  obtain ⟨hrotation, htiled, -⟩ := controlOf_eq hcheck
  have hfits := hadmitted.fits
  have hb := TileFetch.boxes_of_resolve hfetch hfits.src.w_pos hfits.src.h_pos
  have hgraphics (ht : s.fetch.isTiled = true) : p.kind ≠ .simple := by
    intro hk
    rw [(plain_of_check hcheck hk).1] at ht
    cases ht
  exact
    { enabled := by
        rw [pipeWord_control h]
        exact (p.ofWords_controlOf s).1
      layout := pipeWord_layout h
      layout_eq := by
        rw [pipeWord_layout h, hlayout]
        exact PixelLayout.ofWord_toWord f hf
      rotation := by
        rw [pipeWord_control h]
        exact hrotation
      planes := by
        rw [pipeWord_frame h]
        exact decode_framePlanes_frameWord s
      address := fun n hn => ((carries_planeWrites h).plane hn).1
      stride := fun n hn => ((carries_planeWrites h).plane hn).2
      source := by
        by_cases hk : p.kind = .simple
        · exact sourceRect_of_carries_simple h hk hfits
        · exact sourceRect_of_carries h hk hfits hb
      mode := by
        rw [pipeWord_frame h]
        exact (decode_frameWord s).1
      tiled := by
        rw [pipeWord_control h]
        exact htiled
      compression :=
        compression_of_carries h hcheck (TileFetch.isSome_compression_of_resolve hfetch)
      box := fun ht => ⟨tileBox_of_carries h (hgraphics ht) hfits hb hfetch ht,
        fetchedBox_of_carries h (hgraphics ht) hfits hb⟩
      scaling := by
        by_cases hk : p.kind = .simple
        · exact scaling_of_carries_simple h hk hcheck
        · exact scaling_of_carries h hk }

end Pipe

/-! ### The write pipe -/

/-- The bits of the write pipe's control word. -/
private theorem Target.control_fields (r : Rotation) (planarity : Planarity) :
    let control := Register.outEnable ||| Register.outRotation.encode r.code |||
      Register.outPlanes.encode (UInt32.ofNat planarity.planes.length)
    control &&& Register.outEnable ≠ 0 ∧ Register.outRotation.decode control = r.code := by
  cases r <;> cases planarity <;> decide

/-- **The write pipe writes to the target** that its program is for. -/
theorem Target.writesTo_of_carries {t : Target} {rf : RegisterFile} (h : rf.Carries t.writes)
    (ht : Target.ofOutput t.output = .ok t) : rf.WritesTo t := by
  obtain ⟨hw, hh, -, -⟩ := Target.ofOutput_eq_ok_iff.mp ht
  obtain ⟨f, hf, hformat⟩ := Target.exists_mem_catalog ht
  obtain ⟨henable, hrotation⟩ := control_fields t.output.rotation t.layout.planarity
  have hlayout : rf.read Register.outLayout = t.layout.toWord := h _ _ (by simp [writes])
  have hsize : rf.read Register.outSize = packSize t.output.width t.output.height :=
    h _ _ (by simp [writes])
  have hcontrol : rf.read Register.outControl = t.controlWord := h _ _ t.put_control_mem_writes
  have hplanes : rf.Carries t.planeWrites := by
    refine h.mono fun w hw => ?_
    exact List.mem_append_left _ (List.mem_append_right _ hw)
  exact
    { enabled := hcontrol ▸ henable
      layout := hlayout
      layout_eq := by
        rw [hlayout, hformat]
        exact PixelLayout.ofWord_toWord f hf
      size := by
        rw [hsize]
        exact unpackSize_packSize (by omega) (by omega)
      rotation := hcontrol ▸ hrotation
      planes := by
        rw [hcontrol]
        exact t.decode_outPlanes_controlWord
      address := fun n hn => (hplanes.plane hn).1
      stride := fun n hn => (hplanes.plane hn).2 }

/-! ### Copies -/

namespace Compiler

/-- A copy that fits its fields. -/
theorem checkCopy_eq_ok_iff {k : Copy} :
    checkCopy k = .ok () ↔ (0 < k.width.toNat ∧ k.width.toNat ≤ 65536) ∧
      (0 < k.height.toNat ∧ k.height.toNat ≤ 8192) ∧
        k.width ≤ k.srcStride ∧ k.width ≤ k.dstStride := by
  have hmax : maxDimension.toNat = 8192 := rfl
  have hlong : Register.copyMaxWidth.toNat = 65536 := rfl
  rw [checkCopy, ite_rejectGeometry_eq_ok_iff, ite_rejectGeometry_eq_ok_iff,
    ite_rejectGeometry_eq_ok_iff]
  simp only [not_or, UInt32.not_lt, UInt32.le_iff_toNat_le, ← UInt32.toNat_inj, UInt32.toNat_zero,
    hmax, hlong, and_true]
  omega

/-- **What is copied** is read from the registers as it was asked for. -/
theorem copySetting_of_carries {k : Copy} {rf : RegisterFile} (h : rf.Carries (copyWrites k))
    (hk : checkCopy k = .ok ()) : rf.copySetting = k := by
  obtain ⟨hw, hh, -⟩ := checkCopy_eq_ok_iff.mp hk
  have hsourceLow : rf.read Register.copySourceLow = lowWord k.src := h _ _ (by simp [copyWrites])
  have hsourceHigh : rf.read Register.copySourceHigh = highWord k.src :=
    h _ _ (by simp [copyWrites])
  have htargetLow : rf.read Register.copyTargetLow = lowWord k.dst := h _ _ (by simp [copyWrites])
  have htargetHigh : rf.read Register.copyTargetHigh = highWord k.dst :=
    h _ _ (by simp [copyWrites])
  have hsize : rf.read Register.copySize = packSize k.width k.height :=
    h _ _ (by simp [copyWrites])
  have hsource : rf.read Register.copySourceStride = k.srcStride := h _ _ (by simp [copyWrites])
  have htarget : rf.read Register.copyTargetStride = k.dstStride := h _ _ (by simp [copyWrites])
  unfold RegisterFile.copySetting RegisterFile.address
  rw [hsourceLow, hsourceHigh, htargetLow, htargetHigh, hsize, hsource, htarget,
    joinWords_highWord_lowWord, joinWords_highWord_lowWord,
    unpackSize_packSize hw ⟨hh.1, by omega⟩]

end Compiler

end Blitter
