import Blitter.Proofs.Compiler.OneStrip
import Blitter.Proofs.Format.Catalog

/-!
# Fills as compositions

A fill is compiled on its own: its rectangle is in memory coordinates, and its pass is put together
apart from those of compositions. It comes to the same as composing a color. The rectangle is cut
out of the surface as an output of its own (`Target.IsCutout`), and composed onto that output
without any layer the color takes one pass, which makes **the writes of the fill but for the
operation** (`Compiler.fill_isComposition`).
-/

namespace Blitter

/-- The pass makes the writes of the other, which composes, **with a fill as the operation** in the
work mode. -/
structure Pass.IsFillOf (fill composed : Pass) : Prop where
  commandId : fill.commandId = composed.commandId
  writes : ∃ number rest,
    composed.writes = number ::
        put Register.workMode (Register.workOperation.encode Operation.compose.code) :: rest ∧
      fill.writes = number ::
        put Register.workMode (Register.workOperation.encode Operation.fill.code) :: rest ∧
      ∀ w ∈ number :: rest, w.offset ≠ UInt32.ofNat Register.workMode

/-- What is composed, made a fill, sets **another operation** and makes the same writes. -/
theorem Frame.Sound.isFillOf {g : Generation} {f : Frame} (h : f.Sound g)
    (hcompose : f.operation = .compose) (hwhole : f.isStrip = false) :
    Pass.IsFillOf { f with operation := .fill }.pass f.pass := by
  have hcomposed := f.writes_pass
  have hfill := Frame.writes_pass { f with operation := .fill }
  rw [hwhole, hcompose] at hcomposed
  refine ⟨rfl, _, f.bodyWrites, hcomposed, ?_, h.offset_ne_workMode⟩
  rw [hfill, hwhole]
  simp only [headerWrites, Bool.false_eq_true, if_false, UInt32.or_zero]
  rfl

/-- A rectangle of a surface made **an output of its own**, which starts at the rectangle's first
pixel in every plane and is not rotated. -/
structure Target.IsCutout (t : Target) (r : Rect) (part : Output) : Prop where
  rest : part =
    { t.output with width := r.w, height := r.h, rotation := .none, address := part.address }
  rows : ∀ p ∈ t.layout.planes, t.layout.planeRows p ∣ r.y.toNat
  columns : ∀ p ∈ t.layout.planes, 8 ∣ r.x.toNat * t.layout.planeBits p
  used : ∀ p ∈ t.layout.planes,
    (part.address.get p).toNat = (t.output.address.get p).toNat +
      (r.y.toNat / t.layout.planeRows p * (t.output.stride.get p).toNat +
        r.x.toNat * t.layout.planeBits p / 8)
  unused : ∀ p, p ∉ t.layout.planes → part.address.get p = t.output.address.get p

/-- **What is asked of a fill**: an output of a size and in a format that can be written, and a
rectangle in it that is not empty, starts with a whole sample and a whole byte in every plane, and
does so at an address. -/
structure Fill.Fits (fill : Fill) (output : Output) (f : Format) : Prop where
  mem_catalog : f ∈ Format.catalog
  code : f.code = output.format
  writable : f.writable = true
  width : 0 < output.width.toNat ∧ output.width.toNat ≤ 8192
  height : 0 < output.height.toNat ∧ output.height.toNat ≤ 8192
  nonempty : 0 < fill.rect.w.toNat ∧ 0 < fill.rect.h.toNat
  right : fill.rect.x.toNat + fill.rect.w.toNat ≤ output.memorySize.1.toNat
  bottom : fill.rect.y.toNat + fill.rect.h.toNat ≤ output.memorySize.2.toNat
  columns : f.layout.columnAlign ∣ fill.rect.x.toNat
  rows : f.layout.rowAlign ∣ fill.rect.y.toNat
  addresses : ∀ p ∈ f.layout.planes,
    (output.address.get p).toNat +
      (fill.rect.y.toNat / f.layout.planeRows p * (output.stride.get p).toNat +
        fill.rect.x.toNat * f.layout.planeBits p / 8) < 2 ^ 64

theorem Fill.Fits.ofOutput_eq_ok {fill : Fill} {output : Output} {f : Format}
    (h : fill.Fits output f) :
    Target.ofOutput output = .ok ⟨output, f.layout, .ofLayout f.layout⟩ := by
  rw [Target.ofOutput_eq_ok_iff, FormatCode.writeLayout_eq_ok_iff]
  exact ⟨h.width, h.height, rfl, f, h.mem_catalog, h.code, h.writable, rfl, rfl⟩

namespace Compiler

variable {c : Compiler} {fill : Fill} {output : Output}

/-! ### The part of a surface that is filled -/

/-- **Which rectangles are filled.** -/
theorem exists_fillTarget_iff :
    (∃ target, fillTarget fill output = .ok target) ↔ ∃ f, fill.Fits output f := by
  constructor
  · rintro ⟨target, h⟩
    obtain ⟨whole, address, hwhole, hnonempty, hinside, haligned, haddress, -⟩ :=
      fillTarget_eq_ok_iff.mp h
    obtain ⟨hwidth, hheight, -⟩ := Target.ofOutput_eq_ok_iff.mp hwhole
    obtain ⟨f, hf, hcode, hwritable, rfl⟩ := Target.exists_format_of_ofOutput hwhole
    have haddresses := (exists_moveAddresses_iff f.layout.nodup_planes).mp ⟨address, haddress⟩
    exact ⟨f,
      { mem_catalog := hf
        code := hcode
        writable := hwritable
        width := hwidth
        height := hheight
        nonempty := hnonempty
        right := hinside.1
        bottom := hinside.2
        columns := haligned.1
        rows := haligned.2
        addresses := haddresses }⟩
  · rintro ⟨f, h⟩
    obtain ⟨address, haddress⟩ := (exists_moveAddresses_iff f.layout.nodup_planes).mpr h.addresses
    exact ⟨_, fillTarget_eq_ok_iff.mpr ⟨_, address, h.ofOutput_eq_ok, h.nonempty,
      ⟨h.right, h.bottom⟩, ⟨h.columns, h.rows⟩, haddress, rfl⟩⟩

/-- What is filled is **cut out** of the surface, and can be written itself. -/
theorem isCutout_of_fillTarget {target : Target} (h : fillTarget fill output = .ok target) :
    ∃ whole, Target.ofOutput output = .ok whole ∧ target.layout = whole.layout ∧
      whole.IsCutout fill.rect target.output ∧ Target.ofOutput target.output = .ok target := by
  obtain ⟨whole, address, hwhole, ⟨hw, hh⟩, ⟨hright, hbottom⟩, ⟨hcolumns, hrows⟩, haddress, rfl⟩ :=
    fillTarget_eq_ok_iff.mp h
  obtain ⟨hwle, hhle⟩ := Target.toNat_memorySize_le hwhole
  obtain ⟨-, -, houtput, hlayout⟩ := Target.ofOutput_eq_ok_iff.mp hwhole
  subst houtput
  refine ⟨whole, hwhole, rfl, ?_, Target.ofOutput_eq_ok_iff.mpr ⟨⟨hw, ?_⟩, ⟨hh, ?_⟩, rfl, hlayout⟩⟩
  · exact
      { rest := rfl
        rows := fun p _ => whole.layout.planeRows_dvd hrows p
        columns := fun p hp => whole.layout.eight_dvd_mul_planeBits hcolumns hp
        used := fun p hp => toNat_get_moveAddresses haddress whole.layout.nodup_planes hp
        unused := fun p hp => get_moveAddresses_of_notMem haddress hp }
  · show fill.rect.w.toNat ≤ 8192
    omega
  · show fill.rect.h.toNat ≤ 8192
    omega

/-! ### The frame of a fill -/

/-- A color composed without any layer onto what is not rotated takes **one pass**. -/
theorem compose_of_composeFrame {target : Target} {color : UInt32} {f : Frame}
    (ht : Target.ofOutput target.output = .ok target)
    (hrotation : target.output.rotation = .none)
    (hf : c.composeFrame 0 false [] target (some color) none true = .ok f) :
    c.compose { layers := [], output := target.output, background := some color } =
      .ok { operation := .compose, inStrips := false, passes := [f.pass] } := by
  have hreserved : c.reserves
      { layers := [], output := target.output, background := some color } = true :=
    Bool.or_true _
  have hlayers : c.resolveLayers
      { layers := [], output := target.output, background := some color } = .ok [] := rfl
  obtain ⟨hsplit, -⟩ := split_whole_iff.mpr ⟨target, [], ht, hlayers,
    needsStrips_nil_of_rotation_eq_none hrotation, rfl⟩
  refine compose_eq_ok_iff.mpr ⟨_, [f], hsplit, ?_, rfl⟩
  rw [hreserved]
  exact Outcome.bind_eq_ok_iff.mpr ⟨f, hf, rfl⟩

/-- **A fill is the composition of its color onto the part of the surface that it addresses.** A
fill is accepted exactly if its rectangle fits. The part that it addresses starts, in every plane,
at a whole number of rows and of bytes. Composed onto that part without any layer the color takes
one pass, not in strips, and the pass of the fill makes the same writes but for the operation. -/
theorem fill_isComposition (c : Compiler) (fill : Fill) (output : Output) :
    ((∃ program, c.fill fill output = .ok program) ↔ ∃ f, fill.Fits output f) ∧
    ∀ program, c.fill fill output = .ok program → ∃ whole part pass composed,
      Target.ofOutput output = .ok whole ∧ whole.IsCutout fill.rect part ∧
      program = { operation := .fill, inStrips := false, passes := [pass] } ∧
      c.compose { layers := [], output := part, background := some fill.color } =
        .ok { operation := .compose, inStrips := false, passes := [composed] } ∧
      pass.IsFillOf composed := by
  constructor
  · rw [← exists_fillTarget_iff]
    constructor
    · rintro ⟨program, h⟩
      obtain ⟨f, hf, -⟩ := fill_eq_ok_iff.mp h
      obtain ⟨target, -, htarget, -⟩ := fillFrame_eq_ok_iff.mp hf
      exact ⟨target, htarget⟩
    · rintro ⟨target, htarget⟩
      obtain ⟨composed, hcomposed⟩ :=
        exists_composeFrame_reserved (c := c) 0 false target (some fill.color)
      exact ⟨_, fill_eq_ok_iff.mpr
        ⟨_, fillFrame_eq_ok_iff.mpr ⟨target, composed, htarget, hcomposed, rfl⟩, rfl⟩⟩
  · intro program h
    obtain ⟨f, hf, rfl⟩ := fill_eq_ok_iff.mp h
    obtain ⟨target, composed, htarget, hcomposed, rfl⟩ := fillFrame_eq_ok_iff.mp hf
    obtain ⟨whole, hwhole, -, hcutout, ht⟩ := isCutout_of_fillTarget htarget
    have hrotation : target.output.rotation = .none := by
      rw [hcutout.rest]
    have hsound := sound_of_composeFrame hcomposed
    refine ⟨whole, target.output, _, composed.pass, hwhole, hcutout, rfl,
      compose_of_composeFrame ht hrotation hcomposed, ?_⟩
    obtain ⟨_, _, _, -, -, -, rfl⟩ := composeFrame_eq_ok_iff.mp hcomposed
    exact hsound.isFillOf rfl rfl

/-- A surface of 640 by 480 pixels in memory, for a picture that is turned. -/
def turnedScreen : Output :=
  { format := Format.nv12.code, width := 480, height := 640, rotation := .rot90
    address := forPlanes 0x10000000 0x1004B000 0, stride := forPlanes 640 640 0 }

/-- A rectangle that starts with a whole sample. -/
def greyFill : Fill := { color := 0xFF808080, rect := ⟨10, 20, 100, 50⟩ }

theorem fits_greyFill : greyFill.Fits turnedScreen Format.nv12 where
  mem_catalog := Format.nv12_mem_catalog
  code := rfl
  writable := rfl
  width := by decide
  height := by decide
  nonempty := by decide
  right := by decide
  bottom := by decide
  columns := by decide
  rows := by decide
  addresses := by decide

/-- The rectangle is in the coordinates of memory, so that the turn does not matter. -/
theorem fill_isComposition_greyFill :
    ∃ program whole part pass composed,
      (ofGeneration .lite).fill greyFill turnedScreen = .ok program ∧
      Target.ofOutput turnedScreen = .ok whole ∧ whole.IsCutout greyFill.rect part ∧
      program.passes = [pass] ∧
      (ofGeneration .lite).compose
          { layers := [], output := part, background := some greyFill.color } =
        .ok { operation := .compose, inStrips := false, passes := [composed] } ∧
      pass.IsFillOf composed := by
  obtain ⟨hiff, hfill⟩ := fill_isComposition (ofGeneration .lite) greyFill turnedScreen
  obtain ⟨program, h⟩ := hiff.mpr ⟨Format.nv12, fits_greyFill⟩
  obtain ⟨whole, part, pass, composed, hwhole, hcutout, rfl, hcompose, hpass⟩ := hfill program h
  exact ⟨_, whole, part, pass, composed, h, hwhole, hcutout, rfl, hcompose, hpass⟩

end Compiler

end Blitter
