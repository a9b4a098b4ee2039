import Blitter.Proofs.Compiler.Admission
import Blitter.Proofs.InWords.Layout
import Blitter.Proofs.ReadPipe

/-!
# Looking up sources, in words

The box that a source is fetched in takes rounding to tiles, differences of edges and a count of
tiles; the scaler's limits take products of sizes. None of it is checked where it is done. Boxes are
made only of rectangles whose far edges, which stop at the largest word, are within the largest
surface, and sizes are compared only after they were found to be no larger than that. So looking up
a source in words is looking it up (`ofLayer_eq`), and so is admitting the layers of a request
(`resolveLayers_eq`).
-/

namespace Blitter

namespace InWords

/-! ### Boxes of tiles -/

/-- `TileFamily.ofLayout?` in words. -/
def tileFamily (l : PixelLayout) : InWords (Option TileFamily) := do
  let bits ← bitsPerPixel l
  return if l.yuv then
      if l.planarity = .semiPlanar ∧ l.chroma = .quarter then some .quarterSemiPlanar else none
    else if bits = 32 then some .rgb32
    else if bits = 16 then some .rgb16
    else none

/-- `Blitter.alignDown` in words. -/
def alignDown (v a : UInt32) : InWords UInt32 := do
  let tiles ← div v a
  mul tiles a

/-- `Blitter.alignUp` in words. -/
def alignUp (v a : UInt32) : InWords UInt32 := do
  let tiles ← divUp v a
  mul tiles a

/-- The box between those edges. Its width and height are worked out with it. -/
def box (x1 y1 x2 y2 : UInt32) : InWords Box := do
  let _ ← sub x2 x1
  let _ ← sub y2 y1
  return ⟨x1, y1, x2, y2⟩

/-- `TileFetch.linear` in words. -/
def linear (src : Rect) : InWords TileFetch := do
  let box ← box src.x src.y src.right src.bottom
  return { tileWidth := 1, tileHeight := 1, box, mode := .linear, compression := none }

/-- The far edge of a tiled box: one tile further out where the tiles have to come in pairs and
their number is odd. -/
def farEdge (shape : TileShape) (x1 x2 : UInt32) : InWords UInt32 :=
  if shape.family = .quarterSemiPlanar then do
    let width ← sub x2 x1
    let tiles ← div width shape.width
    let odd ← rem tiles 2
    if odd = 1 then add x2 shape.width else return x2
  else return x2

/-- `TileFetch.tiled` in words. -/
def tiled (shape : TileShape) (src : Rect) : InWords TileFetch := do
  let x1 ← alignDown src.x shape.width
  let y1 ← alignDown src.y shape.height
  let x2 ← alignUp src.right shape.width
  let y2 ← alignUp src.bottom shape.height
  let x2 ← farEdge shape x1 x2
  let box ← box x1 y1 x2 y2
  return { tileWidth := shape.width, tileHeight := shape.height, box, mode := shape.mode
           compression := shape.compression }

/-- `TileFetch.resolve` in words. -/
def resolve (format : FormatCode) (arrangement : Arrangement) (src : Rect) : InWords TileFetch :=
  if maxDimension < src.right ∨ maxDimension < src.bottom then
    of (rejectGeometry (.sourceBeyond src))
  else if arrangement = .linear then linear src
  else do
    let layout ← of format.readLayout
    let family ← tileFamily layout
    match family.bind fun f => TileShape.find? f arrangement with
    | some shape => tiled shape src
    | none => of (reject (.unsupportedArrangement format arrangement))

section Tiles

theorem tileFamily_eq (l : PixelLayout) : tileFamily l = .ok (TileFamily.ofLayout? l) := by
  have hle := l.bitsPerPixel_le
  -- a number of bits is compared as a word or as it is
  have hbits {n : Nat} (hn : n < 2 ^ 32) : UInt32.ofNat l.bitsPerPixel = UInt32.ofNat n ↔
      l.bitsPerPixel = n := by
    rw [← UInt32.toNat_inj, UInt32.toNat_ofNat_of_lt' (by show _ < 4294967296; omega),
      UInt32.toNat_ofNat_of_lt' hn]
  have h32 : UInt32.ofNat l.bitsPerPixel = 32 ↔ l.bitsPerPixel = 32 := hbits (n := 32) (by decide)
  have h16 : UInt32.ofNat l.bitsPerPixel = 16 ↔ l.bitsPerPixel = 16 := hbits (n := 16) (by decide)
  unfold tileFamily TileFamily.ofLayout?
  simp only [bitsPerPixel_eq, ok_bind, h32, h16]
  rfl

variable {v a : UInt32} (ha : 0 < a.toNat)
include ha

theorem alignDown_eq : alignDown v a = .ok (Blitter.alignDown v a) := by
  have hle : v.toNat / a.toNat * a.toNat ≤ v.toNat := Nat.div_mul_le_self _ _
  have hlt := v.toNat_lt
  unfold alignDown mul
  rw [div_eq ha, ok_bind, UInt32.toNat_div]
  exact defined_eq_ok (by omega)

/-- Rounding up stays in words where there is a whole number of tiles that is **large enough and
in words** itself. -/
theorem alignUp_eq (limit : Nat) (hlimit : limit < 2 ^ 32) (hdvd : a.toNat ∣ limit)
    (hv : v.toNat ≤ limit) : alignUp v a = .ok (Blitter.alignUp v a) := by
  have hvalue : quotientUp v a * a = Blitter.alignUp v a := apply_ite (· * a) _ _ _
  have hle : (v.toNat + a.toNat - 1) / a.toNat * a.toNat ≤ limit := by
    obtain ⟨tiles, rfl⟩ := hdvd
    rw [Nat.mul_comm a.toNat tiles] at hv ⊢
    refine Nat.mul_le_mul_right _ (Nat.le_of_lt_succ (Nat.div_lt_of_lt_mul ?_))
    rw [Nat.mul_succ, Nat.mul_comm a.toNat tiles]
    omega
  unfold alignUp mul
  rw [divUp_eq ha, ok_bind, toNat_quotientUp ha, hvalue]
  exact defined_eq_ok (by omega)

end Tiles

theorem box_eq {x1 y1 x2 y2 : UInt32} (hx : x1.toNat ≤ x2.toNat) (hy : y1.toNat ≤ y2.toNat) :
    box x1 y1 x2 y2 = .ok ⟨x1, y1, x2, y2⟩ := by
  unfold box sub
  rw [defined_eq_ok hx, ok_bind, defined_eq_ok hy]
  rfl

/-- The far edge is moved **by a tile at most**, and not back. -/
theorem exists_farEdge {shape : TileShape} (h : shape.Regular) {x1 x2 : UInt32}
    (hle : x1.toNat ≤ x2.toNat) (hlimit : x2.toNat ≤ 8192) :
    ∃ far, farEdge shape x1 x2 = .ok far ∧ x2.toNat ≤ far.toNat ∧
      (if shape.family == .quarterSemiPlanar && (x2 - x1) / shape.width % 2 == 1
        then x2 + shape.width else x2) = far := by
  have hwidth := h.width_le
  have hadd : (x2 + shape.width).toNat = x2.toNat + shape.width.toNat := by
    rw [UInt32.toNat_add]
    exact Nat.mod_eq_of_lt (by omega)
  unfold farEdge
  by_cases hfamily : shape.family = .quarterSemiPlanar
  case neg =>
    rw [if_neg hfamily, beq_eq_false_iff_ne.mpr hfamily]
    exact ⟨x2, rfl, Nat.le_refl _, rfl⟩
  case pos =>
    rw [if_pos hfamily, beq_iff_eq.mpr hfamily, sub, defined_eq_ok hle, ok_bind,
      div_eq h.width_pos, ok_bind, rem_eq (by decide), ok_bind]
    simp only [Bool.true_and, beq_iff_eq]
    split
    · exact ⟨_, defined_eq_ok (by omega), by omega, rfl⟩
    · exact ⟨x2, rfl, Nat.le_refl _, rfl⟩

section Resolve

variable {src : Rect} (hright : src.x.toNat + src.w.toNat ≤ 8192)
  (hbottom : src.y.toNat + src.h.toNat ≤ 8192)
include hright hbottom

theorem linear_eq : linear src = .ok (TileFetch.linear src) := by
  obtain ⟨hr, hb⟩ := TileFetch.toNat_edges hright hbottom
  rw [linear, box_eq (by omega) (by omega)]
  rfl

theorem tiled_eq {shape : TileShape} (h : shape.Regular) :
    tiled shape src = .ok (TileFetch.tiled shape src) := by
  obtain ⟨hr, hb⟩ := TileFetch.toNat_edges hright hbottom
  obtain ⟨-, hxle, hxlimit⟩ := alignUp_spec h.width_pos (by decide) h.width_dvd
    (show src.right.toNat ≤ 8192 by omega)
  obtain ⟨-, hyle, -⟩ := alignUp_spec h.height_pos (by decide) h.height_dvd
    (show src.bottom.toNat ≤ 8192 by omega)
  have hx : (Blitter.alignDown src.x shape.width).toNat ≤ src.x.toNat := alignDown_le
  have hy : (Blitter.alignDown src.y shape.height).toNat ≤ src.y.toNat := alignDown_le
  -- the tiles end behind the rectangle, which starts behind the tiles
  have hacross : (Blitter.alignDown src.x shape.width).toNat ≤
      (Blitter.alignUp src.right shape.width).toNat := by omega
  obtain ⟨far, hfar, hbehind, hvalue⟩ := exists_farEdge h hacross hxlimit
  unfold tiled TileFetch.tiled
  dsimp only
  rw [alignDown_eq h.width_pos, ok_bind, alignDown_eq h.height_pos, ok_bind,
    alignUp_eq h.width_pos 8192 (by decide) h.width_dvd (by omega), ok_bind,
    alignUp_eq h.height_pos 8192 (by decide) h.height_dvd (by omega), ok_bind, hfar, ok_bind,
    box_eq (by omega) (by omega), hvalue]
  rfl

end Resolve

/-- **Any rectangle is boxed in words**, however large it is. -/
theorem resolve_eq (format : FormatCode) (arrangement : Arrangement) (src : Rect) :
    resolve format arrangement src = of (TileFetch.resolve format arrangement src) := by
  have hmax : maxDimension.toNat < 2 ^ 32 - 1 := by decide
  unfold resolve TileFetch.resolve
  refine ite_eq_of (fun _ => rfl) fun hbound => ?_
  rw [not_or, UInt32.not_lt, UInt32.not_lt] at hbound
  have hright := (clampedSum_le_iff hmax).mp hbound.1
  have hbottom := (clampedSum_le_iff hmax).mp hbound.2
  refine ite_eq_of (fun _ => linear_eq hright hbottom) fun _ => ?_
  refine bind_eq_of rfl fun layout _ => ?_
  rw [tileFamily_eq, ok_bind]
  cases hshape : (TileFamily.ofLayout? layout).bind fun f => TileShape.find? f arrangement with
  | none => rfl
  | some shape =>
    obtain ⟨_, -, hfind⟩ := Option.bind_eq_some_iff.mp hshape
    exact tiled_eq hright hbottom (TileShape.regular_of_mem (List.mem_of_find?_eq_some hfind))

/-! ### Sources -/

/-- `Source.ofLayer` in words. -/
def ofLayer (layer : Layer) : InWords Source := do
  let layout ← of layer.format.readLayout
  let fetch ← resolve layer.format layer.arrangement layer.src
  return { layer, layout, fetch }

/-- **Any layer is looked up in words.** -/
theorem ofLayer_eq (layer : Layer) : ofLayer layer = of (Source.ofLayer layer) :=
  bind_eq_of rfl fun _ _ => bind_eq_of (resolve_eq _ _ _) fun _ _ => rfl

/-- `Scaler.check` in words. -/
def checkScale (src dst : UInt32) : InWords Unit :=
  if src = 0 ∨ dst = 0 then of (rejectGeometry (.emptyScale src dst))
  else do
    let most ← mul dst (.ofNat Scaler.maxShrink)
    if most < src then of (rejectGeometry (.scaleRatio src dst))
    else
      let most ← mul src (.ofNat Scaler.maxStretch)
      if most < dst then of (rejectGeometry (.scaleRatio src dst))

/-- `Pipe.check` in words. -/
def checkPipe (p : Pipe) (s : Source) : InWords Unit := do
  of (p.require .yuv s.layout.yuv)
  of (p.require .tiled s.fetch.isTiled)
  of (p.require .rotate (s.layer.rotation != .none))
  if s.layer.scalesX || s.layer.scalesY then
    of (p.require .scale true)
    checkScale s.layer.turnedSize.1 s.layer.dst.w
    checkScale s.layer.turnedSize.2 s.layer.dst.h

section Scale

/-- A product with a number that is worked out where it fits a word. -/
theorem mul_eq_of_fit32 {w : UInt32} {n : Nat} (hw : w.toNat ≤ 8192) (hn : n ≤ 16) :
    mul w (.ofNat n) = of (fit32 (w.toNat * n)) := by
  have hle : w.toNat * n ≤ 8192 * 16 := Nat.mul_le_mul hw hn
  have hmul := mul_ofNat (m := w.toNat) (n := n) (by omega) (by omega) (by omega)
  rw [UInt32.ofNat_toNat] at hmul
  rw [hmul, fit32, if_pos (by omega)]
  rfl

theorem checkScale_eq {src dst : UInt32} (hsrc : src.toNat ≤ 8192) (hdst : dst.toNat ≤ 8192) :
    checkScale src dst = of (Scaler.check src dst) := by
  refine ite_eq_of (fun _ => rfl) fun _ => ?_
  refine bind_eq_of (mul_eq_of_fit32 hdst (by decide)) fun _ _ => ?_
  refine ite_eq_of (fun _ => rfl) fun _ => ?_
  refine bind_eq_of (mul_eq_of_fit32 hsrc (by decide)) fun _ _ => ?_
  exact ite_eq_of (fun _ => rfl) fun _ => rfl

theorem checkPipe_eq {p : Pipe} {s : Source} (hsrc : s.layer.src.Sized)
    (hdst : s.layer.dst.Sized) : checkPipe p s = of (p.check s) := by
  obtain ⟨hw, hh⟩ := Layer.toNat_turnedSize_le hsrc
  refine bind_eq_of rfl fun _ _ => bind_eq_of rfl fun _ _ => bind_eq_of rfl fun _ _ => ?_
  refine ite_eq_of (fun _ => ?_) fun _ => rfl
  refine bind_eq_of rfl fun _ _ => ?_
  exact bind_eq_of (checkScale_eq hw hdst.w_le) fun _ _ => checkScale_eq hh hdst.h_le

end Scale

/-! ### The layers of a request -/

/-- `Compiler.resolveLayer` in words. -/
def resolveLayer (c : Compiler) (width height : UInt32) (before : List Layer) (l : Layer) :
    InWords Source :=
  let number := l.pipe.toNat
  match c.pipes[number]? with
  | none => of (reject (.pipeIndex number c.pipes.length))
  | some pipe =>
    if before.any fun b => b.pipe == l.pipe then of (reject (.duplicatePipe number))
    else if before.any fun b => b.depth == l.depth then of (rejectGeometry (.sharedDepth l.depth))
    else do
      of (Compiler.checkRects width height l)
      let source ← ofLayer l
      checkPipe pipe source
      return source

/-- `Compiler.resolveAfter` in words. -/
def resolveAfter (c : Compiler) (width height : UInt32) :
    (before : List Layer) → List Layer → InWords (List Source)
  | _, [] => .ok []
  | before, l :: ls => do
    let source ← resolveLayer c width height before l
    let sources ← resolveAfter c width height (before ++ [l]) ls
    return source :: sources

/-- `Compiler.resolveLayers` in words. -/
def resolveLayers (c : Compiler) (r : Request) : InWords (List Source) :=
  resolveAfter c r.output.width r.output.height [] r.enabledLayers

section Layers

variable {c : Compiler} {width height : UInt32}

/-- A layer is scaled only after its rectangles were found to be small enough. -/
theorem resolveLayer_eq (before : List Layer) (l : Layer) :
    resolveLayer c width height before l = of (c.resolveLayer width height before l) := by
  unfold resolveLayer Compiler.resolveLayer
  dsimp only
  cases c.pipes[l.pipe.toNat]? with
  | none => rfl
  | some pipe =>
    refine ite_eq_of (fun _ => rfl) fun _ => ite_eq_of (fun _ => rfl) fun _ => ?_
    refine bind_eq_of rfl fun _ hrects => bind_eq_of (ofLayer_eq l) fun source hsource => ?_
    obtain ⟨rfl, -, -⟩ := Source.ofLayer_eq_ok_iff.mp hsource
    obtain ⟨hsrc, hdst⟩ := Compiler.sized_of_checkRects hrects
    exact bind_eq_of (checkPipe_eq hsrc hdst) fun _ _ => rfl

theorem resolveAfter_eq (before layers : List Layer) :
    resolveAfter c width height before layers =
      of (c.resolveAfter width height before layers) := by
  induction layers generalizing before with
  | nil => rfl
  | cons l layers ih =>
    exact bind_eq_of (resolveLayer_eq before l) fun _ _ => bind_eq_of (ih _) fun _ _ => rfl

/-- **The layers of any request are checked in words.** -/
theorem resolveLayers_eq (r : Request) : resolveLayers c r = of (c.resolveLayers r) :=
  resolveAfter_eq [] r.enabledLayers

end Layers

end InWords

end Blitter
