import Blitter.Proofs.InWords.Source
import Blitter.Proofs.Strip.Clip

/-!
# Cutting into strips, in words

Strips are numbered, laid out and clipped to with sums and differences of columns that nothing
checks: they have results because a strip ends inside the picture, a destination lies in the picture
and a source in the largest surface. A strip of any width has them, a width of zero included. What
is left to fail when a picture is cut is an address that is moved on to a strip (`plan_eq`).
-/

namespace Blitter

namespace InWords

/-! ### Strips of a picture -/

/-- Strip `i` of a picture that is cut every `step` columns. -/
def stripAt (width step : UInt32) (i : Nat) : InWords Strip := do
  let number ← ofIndex i
  let x ← mul number step
  let left ← sub width x
  return { index := i, x, width := min step left }

/-- `Blitter.stripsOf` in words. -/
def stripsOf (width stripWidth : UInt32) : InWords (List Strip) := do
  let step := max stripWidth 1
  let count ← divUp width step
  (List.range count.toNat).mapM (stripAt width step)

section Strips

variable (width stripWidth : UInt32)

theorem toNat_step : (max stripWidth 1).toNat = stripStep stripWidth := UInt32.toNat_max _ _

/-- A strip that starts inside the picture is laid out **in words**. -/
theorem stripAt_eq {i : Nat} (hi : i * stripStep stripWidth < width.toNat) :
    stripAt width (max stripWidth 1) i =
      .ok { index := i, x := .ofNat (i * stripStep stripWidth)
            width := .ofNat
              (min (stripStep stripWidth) (width.toNat - i * stripStep stripWidth)) } := by
  have hwidth := width.toNat_lt
  have hstep := toNat_step stripWidth
  have hsteplt := (max stripWidth 1).toNat_lt
  have hle := Nat.le_mul_of_pos_right i (stripStep_pos stripWidth)
  have hword : UInt32.ofNat (stripStep stripWidth) = max stripWidth 1 := by
    rw [← hstep, UInt32.ofNat_toNat]
  have hmul : mul (.ofNat i) (max stripWidth 1) = .ok (.ofNat (i * stripStep stripWidth)) := by
    rw [← hword]
    exact mul_ofNat (by omega) (by omega) (by omega)
  have hsub : sub width (.ofNat (i * stripStep stripWidth)) =
      .ok (.ofNat (width.toNat - i * stripStep stripWidth)) := sub_word width (by omega)
  have hmin : min (max stripWidth 1) (.ofNat (width.toNat - i * stripStep stripWidth)) =
      .ofNat (min (stripStep stripWidth) (width.toNat - i * stripStep stripWidth)) := by
    rw [← UInt32.toNat_inj, UInt32.toNat_min, hstep,
      UInt32.toNat_ofNat_of_lt' (by show _ < 4294967296; omega),
      UInt32.toNat_ofNat_of_lt' (by show _ < 4294967296; omega)]
  rw [stripAt, ofIndex_eq (by omega), ok_bind, hmul, ok_bind, hsub, ok_bind, hmin]
  rfl

/-- **Strips of any width are cut in words.** -/
theorem stripsOf_eq : stripsOf width stripWidth = .ok (Blitter.stripsOf width stripWidth) := by
  have hpos : 0 < (max stripWidth 1).toNat := toNat_step stripWidth ▸ stripStep_pos stripWidth
  have hcount := toNat_quotientUp (a := width) hpos
  rw [toNat_step, ← length_stripsOf] at hcount
  unfold stripsOf
  dsimp only
  rw [divUp_eq hpos, ok_bind, hcount, mapM_eq_ok fun i hi =>
    stripAt_eq width stripWidth (lt_length_stripsOf_iff.mp (List.mem_range.mp hi)), length_stripsOf]
  rfl

end Strips

/-- There are no more strips than columns, so that the number of a strip is **a word**. -/
theorem index_lt_of_mem_stripsOf {width stripWidth : UInt32} {s : Strip}
    (h : s ∈ Blitter.stripsOf width stripWidth) : s.index < 2 ^ 32 := by
  obtain ⟨i, hi, rfl⟩ := List.mem_iff_getElem.mp h
  have hinside := lt_length_stripsOf_iff.mp hi
  have hle := Nat.le_mul_of_pos_right i (stripStep_pos stripWidth)
  have hlt := width.toNat_lt
  rw [index_getElem_stripsOf]
  omega

/-! ### Outputs -/

/-- `Output.stripStart` in words. -/
def stripStart (o : Output) (s : Strip) : InWords UInt32 :=
  if o.rotation.runsBackward then do
    let stop ← add s.x s.width
    sub o.width stop
  else return s.x

/-- `Target.stripOffset` in words. -/
def stripOffset (t : Target) (s : Strip) (plane : Nat) : InWords UInt64 := do
  let start ← stripStart t.output s
  if t.output.rotation.swapsAxes then
    let lines ← divLong start.toUInt64 (.ofNat (t.layout.planeRows plane))
    lineBytes t.output.stride lines plane
  else columnBytes t.layout start plane

/-- The step that a strip has to start at: of rows if the rotation swaps the axes, else of
columns. -/
def stripAlign (t : Target) : InWords UInt32 :=
  if t.output.rotation.swapsAxes then .ok (.ofNat t.layout.rowAlign) else columnAlign t.layout

/-- `Target.strip` in words. -/
def strip (t : Target) (s : Strip) : InWords Output := do
  let start ← stripStart t.output s
  let align ← stripAlign t
  let rest ← rem start align
  if rest ≠ 0 then
    of (rejectGeometry
      (.stripSplitsSample s.index t.output.rotation.swapsAxes start t.output.format))
  else
    let address ← moveAddresses (fun p old => stripOffset t s p >>= advance old)
      t.layout.planeNumbers t.output.address
    return { t.output with width := s.width, address }

section Output

variable {t : Target} {s : Strip} (hs : s.Within t.output.width)
include hs

/-- A strip ends inside the picture, so that what is behind it is **not below zero**. -/
theorem stripStart_eq : stripStart t.output s = .ok (t.output.stripStart s) := by
  have hle := hs.le_width
  have hlt := t.output.width.toNat_lt
  have hright : add s.x s.width = .ok s.right := defined_eq_ok (by omega)
  unfold stripStart Output.stripStart
  split
  · rw [hright, ok_bind]
    exact defined_eq_ok (by rw [hs.toNat_right]; exact hle)
  · rfl

theorem stripOffset_eq (p : Fin 3) : stripOffset t s p = .ok (.ofNat (t.stripOffset s p)) ∧
    t.stripOffset s p < 2 ^ 64 := by
  have hlt := (t.output.stripStart s).toNat_lt
  have hrows := t.layout.planeRows_le p
  have hle := Nat.div_le_self (t.output.stripStart s).toNat (t.layout.planeRows p)
  unfold stripOffset Target.stripOffset
  rw [stripStart_eq hs, ok_bind]
  dsimp only
  split
  · rw [← UInt64.ofNat_uInt32ToNat,
      divLong_ofNat (by omega) (by omega) (t.layout.planeRows_pos p), ok_bind]
    exact lineBytes_eq (Nat.lt_of_le_of_lt hle hlt) t.output.stride p
  · exact columnBytes_eq t.layout _ p

/-- **A strip of the output is worked out in words**, the sums of its addresses aside. -/
theorem strip_eq : strip t s = of (t.strip s) := by
  have hlt := (t.output.stripStart s).toNat_lt
  have hrow := t.layout.rowAlign_le
  have hrow0 := t.layout.rowAlign_pos
  have hcolumn := t.layout.columnAlign_le
  have hcolumn0 := t.layout.columnAlign_pos
  -- the step is a word, whichever it is, and not zero
  obtain ⟨align, halign, hpos, hle, hmodel⟩ : ∃ align : Nat,
      stripAlign t = .ok (.ofNat align) ∧ 0 < align ∧ align ≤ 16 ∧
      (if t.output.rotation.swapsAxes then t.layout.rowAlign else t.layout.columnAlign) =
        align := by
    unfold stripAlign
    split
    · exact ⟨_, rfl, hrow0, by omega, rfl⟩
    · exact ⟨_, columnAlign_eq _, hcolumn0, hcolumn, rfl⟩
  have hrem := rem_word (t.output.stripStart s) (by omega) hpos
  have hmod := Nat.mod_lt (t.output.stripStart s).toNat hpos
  unfold strip Target.strip
  rw [stripStart_eq hs, ok_bind, halign, ok_bind, hrem, ok_bind]
  dsimp only
  rw [hmodel]
  have hrest : (t.output.stripStart s).toNat % align < 2 ^ 32 := by omega
  simp only [ne_eq, ofNat_eq_zero_iff hrest]
  refine ite_eq_of (fun _ => rfl) fun _ => ?_
  refine bind_eq_of ?_ fun _ _ => rfl
  rw [t.layout.planeNumbers_eq]
  refine moveAddresses_eq (fun p _ old => ?_) _
  obtain ⟨hoffset, hfits⟩ := stripOffset_eq hs p
  exact bind_advance hfits hoffset old

end Output

/-! ### Layers -/

/-- The columns of a shift that addresses are moved by: whole bytes and whole color samples of a
linear source. -/
def movedColumns (s : Source) (shift : UInt32) : InWords UInt32 :=
  if s.layer.arrangement = .linear then do
    let align ← columnAlign s.layout
    let rest ← rem shift align
    sub shift rest
  else return 0

/-- `Source.shiftColumns` in words. -/
def shiftColumns (s : Source) (clipped : Layer) (shift width : UInt32) : InWords Layer := do
  let moved ← movedColumns s shift
  let address ← moveAddresses (fun p old => columnBytes s.layout moved p >>= advance old)
    s.layout.planeNumbers clipped.address
  let rest ← sub shift moved
  let x ← add clipped.src.x rest
  return { clipped with address, src := { clipped.src with x, w := width } }

/-- `Layer.shiftRows` in words. -/
def shiftRows (clipped : Layer) (shift height : UInt32) : InWords Layer := do
  let y ← add clipped.src.y shift
  return { clipped with src := { clipped.src with y, h := height } }

/-- `Strip.overlap?` in words. -/
def overlap? (s : Strip) (r : Rect) : InWords (Option (UInt32 × UInt32)) := do
  let stop ← add s.x s.width
  let x0 := max r.x s.x
  let x1 := min r.right stop
  return if x0 < x1 then some (x0, x1) else none

/-- `Source.clip` in words. -/
def clip (source : Source) (s : Strip) : InWords (Option Layer) := do
  let layer := source.layer
  match ← overlap? s layer.dst with
  | none => return none
  | some (x0, x1) =>
    let width ← sub x1 x0
    let cutLeft ← sub x0 layer.dst.x
    let cutRight ← sub layer.dst.right x1
    let x ← sub x0 s.x
    let clipped := { layer with dst := { layer.dst with x, w := width } }
    some <$> match layer.rotation with
      | .none | .vFlip => shiftColumns source clipped cutLeft width
      | .hFlip | .rot180 => shiftColumns source clipped cutRight width
      | .rot90 | .hFlip90 => shiftRows clipped cutRight width
      | .rot270 | .vFlip90 => shiftRows clipped cutLeft width

/-- A sum that is worked out where it fits a word. -/
theorem add_eq_of_fit32 {a b : UInt32} (h : a.toNat + b.toNat < 2 ^ 32) :
    add a b = of (fit32 (a.toNat + b.toNat)) := by
  rw [add, defined_eq_ok h, fit32, if_pos (by omega), UInt32.ofNat_add, UInt32.ofNat_toNat,
    UInt32.ofNat_toNat]
  rfl

/-- What is mapped over an outcome is mapped over what is equal to it. -/
theorem map_eq_of {α β : Type} {x : InWords α} {x' : Outcome α} {f : α → β} (h : x = of x') :
    f <$> x = of (f <$> x') := by
  subst h
  cases x' <;> rfl

section Layer

variable {source : Source} {layer : Layer} {shift width : UInt32}

theorem shiftRows_eq (h : layer.src.y.toNat + shift.toNat < 2 ^ 32) :
    shiftRows layer shift width = of (layer.shiftRows shift width) :=
  bind_eq_of (add_eq_of_fit32 h) fun _ _ => rfl

theorem exists_movedColumns (source : Source) (shift : UInt32) :
    ∃ moved, movedColumns source shift = .ok moved ∧ moved.toNat ≤ shift.toNat ∧
      source.wholeColumns shift.toNat = moved.toNat := by
  have hshift := shift.toNat_lt
  have halign := source.layout.columnAlign_le
  unfold movedColumns Source.wholeColumns
  split
  · have hle := Nat.mod_le shift.toNat source.layout.columnAlign
    have hrem := rem_word shift (by omega) source.layout.columnAlign_pos
    have hsub := sub_word shift hle
    have hnat := UInt32.toNat_ofNat_of_lt' (Nat.lt_of_le_of_lt
      (Nat.sub_le shift.toNat (shift.toNat % source.layout.columnAlign)) hshift)
    rw [columnAlign_eq, ok_bind, hrem, ok_bind, hsub]
    exact ⟨_, rfl, by omega, hnat.symm⟩
  · exact ⟨0, rfl, Nat.zero_le _, rfl⟩

/-- The columns that addresses are moved by are some of the shift, and the rectangle is moved by
the others. -/
theorem shiftColumns_eq (h : layer.src.x.toNat + shift.toNat < 2 ^ 32) :
    shiftColumns source layer shift width = of (source.shiftColumns layer shift width) := by
  obtain ⟨moved, hmoved, hle, hmodel⟩ := exists_movedColumns source shift
  unfold Source.wholeColumns at hmodel
  unfold shiftColumns Source.shiftColumns
  rw [hmoved, ok_bind]
  dsimp only
  rw [hmodel]
  refine bind_eq_of ?_ fun address _ => ?_
  · rw [source.layout.planeNumbers_eq]
    refine moveAddresses_eq (fun p _ old => ?_) _
    obtain ⟨hoffset, hfits⟩ := columnBytes_eq source.layout moved p
    exact bind_advance hfits hoffset old
  · -- what is left of the shift moves the rectangle
    have hrest : sub shift moved = .ok (shift - moved) := defined_eq_ok hle
    have hnat : (shift - moved).toNat = shift.toNat - moved.toNat :=
      UInt32.toNat_sub_of_le _ _ (UInt32.le_iff_toNat_le.mpr hle)
    rw [hrest, ok_bind, ← hnat]
    exact bind_eq_of (add_eq_of_fit32 (by omega)) fun _ _ => rfl

end Layer

section Clip

variable {width height : UInt32} {s : Strip} (hs : s.Within width)
include hs

theorem overlap?_eq (r : Rect) : overlap? s r = .ok (s.overlap? r) := by
  have hle := hs.le_width
  have hlt := width.toNat_lt
  have hadd : add s.x s.width = .ok s.right := defined_eq_ok (by omega)
  rw [overlap?, hadd]
  rfl

/-- The columns shared with a strip are **between the edges of both**. -/
theorem sub_eq_of_overlap? {r : Rect} {x0 x1 : UInt32} (hr : r.ColumnsFit)
    (h : s.overlap? r = some (x0, x1)) :
    sub x1 x0 = .ok (x1 - x0) ∧ sub x0 r.x = .ok (x0 - r.x) ∧
      sub r.right x1 = .ok (r.right - x1) ∧ sub x0 s.x = .ok (x0 - s.x) := by
  have hright := hr.toNat_right
  have hstop := hs.toNat_right
  simp only [Strip.overlap?, Option.ite_none_right_eq_some, Option.some.injEq,
    Prod.mk.injEq] at h
  obtain ⟨hlt, rfl, rfl⟩ := h
  have hleft : (max r.x s.x).toNat = max r.x.toNat s.x.toNat := UInt32.toNat_max _ _
  have hfar : (min r.right s.right).toNat = min r.right.toNat s.right.toNat :=
    UInt32.toNat_min _ _
  rw [UInt32.lt_iff_toNat_lt] at hlt
  exact ⟨defined_eq_ok (by omega), defined_eq_ok (by omega), defined_eq_ok (by omega),
    defined_eq_ok (by omega)⟩

/-- **A layer that fits the picture is clipped in words**, the sums of its addresses aside. -/
theorem clip_eq {source : Source} (h : Compiler.RectsFit width height source.layer) :
    clip source s = of (source.clip s) := by
  have hsrcx := h.src_right
  have hsrcy := h.src_bottom
  have hdst := h.dst_right
  have hw := h.dst.w_le
  have hlt := width.toNat_lt
  have hfit : source.layer.dst.ColumnsFit := by
    unfold Rect.ColumnsFit
    omega
  unfold clip Source.clip
  dsimp only
  rw [overlap?_eq hs, ok_bind]
  cases ho : s.overlap? source.layer.dst with
  | none => rfl
  | some edges =>
    obtain ⟨x0, x1⟩ := edges
    obtain ⟨hcuts, hleft, hright⟩ := Strip.cuts_of_overlap? hs hfit ho
    obtain ⟨hwidth, hcutLeft, hcutRight, hx⟩ := sub_eq_of_overlap? hs hfit ho
    have hcut := hcuts.width
    dsimp only
    rw [hwidth, ok_bind, hcutLeft, ok_bind, hcutRight, ok_bind, hx, ok_bind]
    -- neither cut is wider than the destination
    have hnear {n : Nat} (hn : n ≤ 8192) : n + (x0 - source.layer.dst.x).toNat < 2 ^ 32 := by omega
    have hfar {n : Nat} (hn : n ≤ 8192) : n + (source.layer.dst.right - x1).toNat < 2 ^ 32 := by
      omega
    have hcolumn : source.layer.src.x.toNat ≤ 8192 := by omega
    have hrow : source.layer.src.y.toNat ≤ 8192 := by omega
    cases source.layer.rotation
    case none | vFlip => exact map_eq_of (shiftColumns_eq (hnear hcolumn))
    case hFlip | rot180 => exact map_eq_of (shiftColumns_eq (hfar hcolumn))
    case rot90 | hFlip90 => exact map_eq_of (shiftRows_eq (hfar hrow))
    case rot270 | vFlip90 => exact map_eq_of (shiftRows_eq (hnear hrow))

end Clip

/-! ### Plans -/

/-- `Strip.job` in words. -/
def job (s : Strip) (sources : List Source) (target : Target) : InWords StripJob := do
  let clipped ← sources.mapM fun source => clip source s
  let output ← strip target s
  return { strip := s, layers := clipped.filterMap id, output }

/-- `Blitter.plan` in words. -/
def plan (sources : List Source) (target : Target) (limits : StripLimits) :
    InWords (List StripJob) := do
  let strips ← stripsOf target.output.width limits.width
  strips.mapM fun s => job s sources target

/-- **A plan is made in words**, the sums of addresses aside. -/
theorem plan_eq {sources : List Source} {target : Target} {limits : StripLimits}
    (h : ∀ source ∈ sources,
      Compiler.RectsFit target.output.width target.output.height source.layer) :
    plan sources target limits = of (Blitter.plan sources target limits) := by
  unfold plan
  rw [stripsOf_eq, ok_bind]
  refine mapM_eq_of fun s hs => ?_
  have hwithin := within_of_mem_stripsOf hs
  exact bind_eq_of (mapM_eq_of fun source hm => clip_eq hwithin (h source hm)) fun _ _ =>
    bind_eq_of (strip_eq hwithin) fun _ _ => rfl

end InWords

end Blitter
