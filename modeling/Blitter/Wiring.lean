import Blitter.Failure

/-!
# Wiring of the compositor

The compositor has a sub-frame for each of five read pipes and a path of six slots, counted from
the bottom of the stack. Slot 0 belongs to the background, so the blending of a pipe's layer is
set in the slot above the pipe's own number, while the slot of the layer's depth names the pipe.
`Wiring.ofLayers` fills both in from a list of layers.
-/

namespace Blitter

/-- The number of sub-frames. -/
def subframeCount : Nat := 5

/-- The number of path slots. -/
def slotCount : Nat := 6

/-- The registers of a **sub-frame**. -/
structure Subframe where
  control : UInt32
  position : UInt32
  size : UInt32
  alpha : UInt32
  colorKey : Option ColorKey
  deriving DecidableEq, Repr

namespace Subframe

/-- The sub-frame of a pipe without a layer. -/
def off : Subframe := ⟨0, 0, 0, 0, none⟩

/-- The sub-frame is switched on. -/
def isEnabled (s : Subframe) : Bool := s.control &&& Register.subframeEnable != 0

/-- The sub-frame of a layer. -/
def ofLayer (l : Layer) : Subframe :=
  { control :=
      (if l.blend = .none then Register.subframeGlobalAlpha else 0) |||
        (if l.colorKey.isSome then Register.subframeColorKey else 0) ||| Register.subframeEnable
    position := packPosition l.dst.x l.dst.y
    size := packSize l.dst.w l.dst.h
    alpha := l.alpha.toUInt32
    colorKey := l.colorKey }

end Subframe

/-- The state of the **compositor**. -/
structure Wiring where
  subframes : Vector Subframe subframeCount
  path : Vector UInt32 slotCount
  background : Option UInt32
  porterDuff : Option PorterDuff
  /-- The size word of the picture. -/
  size : UInt32
  deriving DecidableEq

namespace Wiring

/-- The compositor of an empty picture. -/
def empty (background : Option UInt32) (width height : UInt32) : Wiring :=
  { subframes := Vector.replicate subframeCount .off
    path := Vector.replicate slotCount Register.pathUnused
    background, porterDuff := none, size := packSize width height }

/-- Adds a layer on pipe `pipe` at depth `depth`. -/
def addAt (w : Wiring) (l : Layer) (pipe : Fin subframeCount) (depth : Fin slotCount) : Wiring :=
  let number := UInt32.ofNat pipe
  let path := w.path.set depth (Register.pathLayer.insert w.path[depth] number)
  let slot := pipe.succ
  let blend := Register.pathBlend.insert path[slot] number
  let blend := if l.blend = .premultiplied then blend ||| Register.pathPremultiplied else blend
  { w with path := path.set slot blend, subframes := w.subframes.set pipe (.ofLayer l) }

/-- Adds a layer; a layer on a pipe or at a depth that the compositor does not have is turned
down. -/
def add (w : Wiring) (l : Layer) : Outcome Wiring :=
  if hp : l.pipe.toNat < subframeCount then
    if hd : l.depth.toNat < slotCount then .ok (w.addAt l ⟨_, hp⟩ ⟨_, hd⟩)
    else reject (.layerIndex l.pipe.toNat l.depth.toNat)
  else reject (.layerIndex l.pipe.toNat l.depth.toNat)

/-- The sub-frame of the pipe is switched on. -/
def hasLayer (w : Wiring) (pipe : UInt8) : Bool :=
  match w.subframes[pipe.toNat]? with
  | some s => s.isEnabled
  | none => false

/-- Sets an operator between two layers, both of which have to be there. -/
def setOperator (w : Wiring) (pd : PorterDuff) : Outcome Wiring :=
  if !w.hasLayer pd.srcPipe then rejectGeometry (.operandNotEnabled pd.srcPipe)
  else if !w.hasLayer pd.dstPipe then rejectGeometry (.operandNotEnabled pd.dstPipe)
  else .ok { w with porterDuff := some pd }

/-- **Wires up** the enabled layers of a picture of the given size. -/
def ofLayers (layers : List Layer) (background : Option UInt32) (porterDuff : Option PorterDuff)
    (width height : UInt32) : Outcome Wiring := do
  let wired ← (layers.filter Layer.enabled).foldlM add (empty background width height)
  match porterDuff with
  | some pd => wired.setOperator pd
  | none => return wired

/-! ### Register writes -/

/-- The writes of sub-frame `n`. Its control word is last, so that a layer is switched on when
all else is in place. -/
def subframeWrites (n : Nat) (s : Subframe) : List RegisterWrite :=
  let reg := Register.subframe n
  let place :=
    if s.isEnabled then
      [ put (reg Register.subframePosition) s.position,
        put (reg Register.subframeSize) s.size,
        put (reg Register.subframeAlpha) s.alpha ] ++
      match s.colorKey with
      | some key =>
        [put (reg Register.subframeKeyMin) key.min, put (reg Register.subframeKeyMax) key.max]
      | none => []
    else []
  place ++ [put (reg Register.subframeControl) s.control]

/-- The word of the operator register. -/
def operatorWord : Option PorterDuff → UInt32
  | some pd =>
    Register.operatorEnable ||| Register.operatorSource.encode pd.srcPipe.toUInt32 |||
      Register.operatorTarget.encode pd.dstPipe.toUInt32 |||
      Register.operatorMode.encode pd.mode.code
  | none => 0

/-- The writes for the compositor. -/
def writes (w : Wiring) : List RegisterWrite :=
  [put Register.mixSize w.size, put Register.mixBackground (w.background.getD 0)] ++
    w.subframes.toList.zipIdx.flatMap (fun (s, n) => subframeWrites n s) ++
    w.path.toList.zipIdx.map (fun (word, z) => put (Register.pathSlot z) word) ++
    [ put Register.mixOperator (operatorWord w.porterDuff),
      put Register.mixControl (Register.mixEnable |||
        (if w.background.isSome then Register.mixBackgroundEnable else 0)) ]

end Wiring

end Blitter
