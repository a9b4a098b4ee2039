import Blitter.Proofs.Frame
import Blitter.Proofs.InWords.Layout
import Blitter.Proofs.ReadPipe

/-!
# Passes, in words

Writing the registers of a frame takes the offset of each register, worked out from the number of
the channel, pipe, plane or entry that it belongs to, and here and there arithmetic on what is
written: where the crop is inside the fetched box, how many tiles the box has, the steps of the
scaler, and numbers of planes cut to words. For a source that lies inside its box, as one that was
looked up does, all of it has results (`pass_eq`).

What is written is put together from fields. That takes no more than shifts by less than a word and
masks of ones, which any field has (`encode_eq`, `insert_eq`), and it is taken apart by the same
means (`decode_eq`).
-/

namespace Blitter

namespace InWords

/-! ### Fields -/

/-- `Field.max` in words. -/
def fieldMax (f : Field) : InWords UInt32 :=
  if 32 ≤ f.width then .ok 0xFFFFFFFF
  else do
    let above ← shiftLeft 1 f.width
    sub above 1

/-- `Field.encode` in words. -/
def encode (f : Field) (value : UInt32) : InWords UInt32 := do
  let max ← fieldMax f
  shiftLeft (value &&& max) f.shift

/-- `Field.decode` in words. -/
def decode (f : Field) (word : UInt32) : InWords UInt32 := do
  let lowest ← shiftRight word f.shift
  let max ← fieldMax f
  return lowest &&& max

/-- `Field.insert` in words. -/
def insert (f : Field) (word value : UInt32) : InWords UInt32 := do
  let max ← fieldMax f
  let mask ← shiftLeft max f.shift
  let placed ← encode f value
  return (word &&& ~~~mask) ||| placed

section Field

variable (f : Field)

/-- A field that is shorter than a word is **a one shifted by less than a word**, less one. -/
theorem fieldMax_eq : fieldMax f = .ok f.max := by
  unfold fieldMax Field.max
  split
  case isTrue => rfl
  case isFalse h =>
    have hlt : f.width < 32 := UInt32.not_le.mp h
    have hnat : f.width.toNat < 32 := UInt32.lt_iff_toNat_lt.mp hlt
    have hpos : (1 : UInt32).toNat ≤ ((1 : UInt32) <<< f.width).toNat := by
      have hpow : 2 ^ f.width.toNat < 2 ^ 32 := Nat.pow_lt_pow_right (by decide) hnat
      rw [UInt32.toNat_shiftLeft, Nat.mod_eq_of_lt hnat, UInt32.toNat_one, Nat.shiftLeft_eq,
        Nat.one_mul, Nat.mod_eq_of_lt hpow]
      exact Nat.one_le_two_pow
    rw [shiftLeft, defined_eq_ok hlt, ok_bind]
    exact defined_eq_ok hpos

theorem encode_eq (value : UInt32) : encode f value = .ok (f.encode value) := by
  rw [encode, fieldMax_eq, ok_bind]
  exact defined_eq_ok f.shift_lt

theorem decode_eq (word : UInt32) : decode f word = .ok (f.decode word) := by
  rw [decode, shiftRight, defined_eq_ok f.shift_lt, ok_bind, fieldMax_eq, ok_bind]
  rfl

theorem insert_eq (word value : UInt32) : insert f word value = .ok (f.insert word value) := by
  rw [insert, fieldMax_eq, ok_bind, shiftLeft, defined_eq_ok f.shift_lt, ok_bind, encode_eq]
  rfl

end Field

/-! ### Writes -/

/-- The write of a value to a register, both worked out in words. -/
def put (offset value : InWords UInt32) : InWords RegisterWrite := do
  let offset ← offset
  let value ← value
  return ⟨offset, value⟩

/-- The offset of entry `n` of registers that start at `base` and are `stride` apart. -/
def entry (base stride n : Nat) : InWords UInt32 := do
  let number ← ofIndex n
  let distance ← mul number (.ofNat stride)
  add (.ofNat base) distance

/-- The offset of a register inside a block. -/
def inBlock (block reg : InWords UInt32) : InWords UInt32 := do
  let base ← block
  let reg ← reg
  add base reg

section Writes

variable {α β : Type}

theorem put_eq (offset : Nat) (value : UInt32) :
    put (.ok (.ofNat offset)) (.ok value) = .ok (Blitter.put offset value) := rfl

theorem entry_eq {base stride n : Nat} (hn : n < 2 ^ 16) (hstride : stride < 2 ^ 15)
    (hbase : base < 2 ^ 31) : entry base stride n = .ok (.ofNat (base + n * stride)) := by
  have hmul := Nat.mul_lt_mul'' hn hstride
  unfold entry
  rw [ofIndex_eq (by omega), ok_bind, mul_ofNat (by omega) (by omega) (by omega), ok_bind,
    add_ofNat (by omega)]

theorem inBlock_eq {base reg : Nat} (h : base + reg < 2 ^ 32) :
    inBlock (.ok (.ofNat base)) (.ok (.ofNat reg)) = .ok (.ofNat (base + reg)) :=
  add_ofNat h

/-- Writes for the items of a list have results if those for each item do. -/
theorem flatMap_eq_ok {as : List α} {f : α → List (InWords β)} {g : α → List β}
    (h : ∀ a ∈ as, f a = (g a).map .ok) : as.flatMap f = (as.flatMap g).map .ok := by
  rw [List.map_flatMap]
  exact List.flatMap_congr h

/-- The same for numbered items, whose numbers are those of places in the list. -/
theorem flatMap_zipIdx_eq_ok {as : List α} {f : α × Nat → List (InWords β)} {g : α × Nat → List β}
    (h : ∀ a n, n < as.length → f (a, n) = (g (a, n)).map .ok) :
    as.zipIdx.flatMap f = (as.zipIdx.flatMap g).map .ok :=
  flatMap_eq_ok fun (a, n) hmem => h a n (List.mem_zipIdx' hmem).1

end Writes

/-! ### Channels -/

/-- `Allocation.channelWrites` in words, for channel `n` of those at `base`. -/
def channelWrites (a : Allocation) (base n : Nat) (s : Share) : List (InWords RegisterWrite) :=
  let register (reg : Nat) := inBlock (entry base 0x10 n) (.ok (.ofNat reg))
  [ put (register Register.channelWatermark) (.ok s.watermark),
    put (register Register.channelData) (.ok s.data),
    put (register Register.channelCommand) (.ok s.command),
    put (register Register.channelBurst) (.ok (a.burstWord s)) ]

/-- `Allocation.readWrites` in words. -/
def readWrites (a : Allocation) : List (InWords RegisterWrite) :=
  put (.ok (.ofNat Register.readControl))
      (.ok (if a.forCopy then Register.readControlCopy else 0)) ::
    a.shares.zipIdx.flatMap fun (s, n) => channelWrites a 0x110 n s

/-- `Allocation.writeWrites` in words. -/
def writeWrites (a : Allocation) : List (InWords RegisterWrite) :=
  put (.ok (.ofNat Register.writeControl)) (.ok 0) ::
    a.shares.zipIdx.flatMap fun (s, n) => channelWrites a 0x210 n s

section Channels

variable {a : Allocation}

theorem channelWrites_eq {base n : Nat} (hbase : base < 2 ^ 16) (hn : n < 2 ^ 16) (s : Share) :
    channelWrites a base n s =
      (a.channelWrites (fun reg => base + n * 0x10 + reg) s).map .ok := by
  unfold channelWrites
  simp (disch := first | decide | omega) only [entry_eq]
  have hregister {reg : Nat} (hreg : reg < 0x10) :
      inBlock (.ok (.ofNat (base + n * 0x10))) (.ok (.ofNat reg)) =
        .ok (.ofNat (base + n * 0x10 + reg)) :=
    inBlock_eq (by omega)
  simp (disch := decide) only [hregister, put_eq]
  rfl

variable (h : a.shares.length < 2 ^ 16)
include h

theorem readWrites_eq : readWrites a = a.readWrites.map .ok := by
  unfold readWrites Allocation.readWrites
  rw [List.map_cons, put_eq]
  refine congrArg _ (flatMap_zipIdx_eq_ok fun s n hn => ?_)
  exact channelWrites_eq (by decide) (hn.trans h) s

theorem writeWrites_eq : writeWrites a = a.writeWrites.map .ok := by
  unfold writeWrites Allocation.writeWrites
  rw [List.map_cons, put_eq]
  refine congrArg _ (flatMap_zipIdx_eq_ok fun s n hn => ?_)
  exact channelWrites_eq (by decide) (hn.trans h) s

end Channels

/-! ### Color conversion -/

/-- `ColorMatrix.writes` in words. -/
def matrixWrites (register : Nat → InWords UInt32) (matrix : List Int) :
    List (InWords RegisterWrite) :=
  matrix.zipIdx.map fun (c, n) => put (register n) (.ok (ColorMatrix.word c))

theorem matrixWrites_eq {register : Nat → InWords UInt32} {register' : Nat → Nat}
    {matrix : List Int}
    (h : ∀ n, n < matrix.length → register n = .ok (.ofNat (register' n))) :
    matrixWrites register matrix = (ColorMatrix.writes register' matrix).map .ok := by
  unfold matrixWrites ColorMatrix.writes
  rw [List.map_map]
  refine List.map_congr_left fun (c, n) hmem => ?_
  show put (register n) _ = _
  rw [h n (List.mem_zipIdx' hmem).1]
  rfl

/-! ### Read pipes -/

/-- The offset of a register of a pipe. -/
def pipeRegister (p : Pipe) (reg : InWords UInt32) : InWords UInt32 :=
  inBlock (entry 0x1000 0x400 p.index) reg

/-- `Pipe.put` in words. -/
def putPipe (p : Pipe) (reg : Nat) (value : InWords UInt32) : InWords RegisterWrite :=
  put (pipeRegister p (.ok (.ofNat reg))) value

/-- `Pipe.planeWrites` in words. -/
def planeWrites (p : Pipe) (s : Source) : List (InWords RegisterWrite) :=
  s.layout.planeNumbers.flatMap fun plane =>
    [ put (pipeRegister p (entry 0x020 8 plane)) (lowWord <$> get s.layer.address plane),
      put (pipeRegister p (entry 0x024 8 plane)) (highWord <$> get s.layer.address plane),
      put (pipeRegister p (entry 0x040 4 plane)) (get s.layer.stride plane) ]

/-- `Pipe.cropWrites` in words. -/
def cropWrites (p : Pipe) (s : Source) : List (InWords RegisterWrite) :=
  let box := s.fetch.box
  let src := s.layer.src
  [ putPipe p Register.pipeSourcePosition (.ok (packPosition box.x1 box.y1)),
    putPipe p Register.pipeSourceSize (.ok (packSize box.width box.height)),
    putPipe p Register.pipeCropPosition do
      let x ← sub src.x box.x1
      let y ← sub src.y box.y1
      return packPosition x y,
    putPipe p Register.pipeCropSize (.ok (packSize src.w src.h)) ]

/-- `Pipe.tileWrites` in words. -/
def tileWrites (p : Pipe) (s : Source) : List (InWords RegisterWrite) :=
  if s.fetch.isTiled then
    let box := s.fetch.box
    let tw := s.fetch.tileWidth
    let th := s.fetch.tileHeight
    [ putPipe p Register.pipeTileControl (.ok s.fetch.controlWord),
      putPipe p Register.pipeTilePosition do
        let x ← div box.x1 tw
        let y ← div box.y1 th
        return packPosition x y,
      putPipe p Register.pipeTileSize do
        let w ← div box.width tw
        let h ← div box.height th
        return packSize w h ]
  else []

/-- `Pipe.colorWrites` in words. -/
def colorWrites (p : Pipe) (s : Source) : List (InWords RegisterWrite) :=
  if s.layout.yuv then
    putPipe p Register.pipeColorControl (.ok Register.colorEnable) ::
      matrixWrites (fun n => pipeRegister p (entry 0x060 4 n))
        (ColorMatrix.yuvToRgb s.layer.colorSpace)
  else [putPipe p Register.pipeColorControl (.ok 0)]

/-- `Scaler.step` in words. -/
def step (src dst : UInt32) : InWords UInt32 := do
  let fixed ← mulLong src.toUInt64 65536
  let step ← divLong fixed (max dst 1).toUInt64
  narrow step

/-- `Pipe.scaleWrites` in words. -/
def scaleWrites (p : Pipe) (s : Source) : List (InWords RegisterWrite) :=
  let l := s.layer
  if l.scalesX || l.scalesY then
    [ putPipe p Register.pipeScaleControl
        (.ok ((if l.scalesX then Register.scaleX else 0) |||
          (if l.scalesY then Register.scaleY else 0))),
      putPipe p Register.pipeScaleSize (.ok (packSize l.dst.w l.dst.h)),
      putPipe p Register.pipeScaleStepX (step l.turnedSize.1 l.dst.w),
      putPipe p Register.pipeScaleStepY (step l.turnedSize.2 l.dst.h),
      putPipe p Register.pipeScalePhaseX (.ok 0),
      putPipe p Register.pipeScalePhaseY (.ok 0) ] ++
    Scaler.tapTable.zipIdx.flatMap fun (taps, phase) =>
      [ put (pipeRegister p (entry 0x200 4 phase)) (.ok taps),
        put (pipeRegister p (entry 0x240 4 phase)) (.ok taps) ]
  else [putPipe p Register.pipeScaleControl (.ok 0)]

/-- `Pipe.frameWord` in words. -/
def frameWord (s : Source) : InWords UInt32 := do
  let planes ← ofIndex s.layout.planes.length
  return Register.framePlanes.encode planes |||
    Register.frameFetchMode.encode s.fetch.mode.code |||
    Register.frameCompression.encode (s.fetch.compression.getD 0).toUInt32

/-- `Pipe.writes` in words. -/
def fetchWrites (p : Pipe) (s : Source) : List (InWords RegisterWrite) :=
  [ putPipe p Register.pipeLayout (.ok s.layout.toWord),
    putPipe p Register.pipeFrame (frameWord s) ] ++
    planeWrites p s ++
    match p.kind with
    | .simple =>
      [ putPipe p Register.pipeSourcePosition (.ok (packPosition s.layer.src.x s.layer.src.y)),
        putPipe p Register.pipeSourceSize (.ok (packSize s.layer.src.w s.layer.src.h)),
        putPipe p Register.pipeControl (.ok Register.pipeEnable) ]
    | .rotating | .upright =>
      cropWrites p s ++ tileWrites p s ++ colorWrites p s ++ scaleWrites p s ++
        [putPipe p Register.pipeControl (.ok (Pipe.controlWord s))]

/-- `Pipe.offWrites` in words. -/
def offWrites (p : Pipe) : List (InWords RegisterWrite) :=
  [putPipe p Register.pipeControl (.ok 0)]

section Pipes

variable {p : Pipe} (hp : p.index < 5)
include hp

theorem pipeRegister_eq {reg : Nat} (hreg : reg < 0x400) :
    pipeRegister p (.ok (.ofNat reg)) = .ok (.ofNat (Register.inBlock p.base reg)) := by
  unfold pipeRegister
  rw [entry_eq (by omega) (by decide) (by decide)]
  exact inBlock_eq (by omega)

theorem putPipe_eq {reg : Nat} (hreg : reg < 0x400) (value : UInt32) :
    putPipe p reg (.ok value) = .ok (p.put reg value) := by
  rw [putPipe, pipeRegister_eq hp hreg]
  rfl

/-- The register of an entry of a pipe's block. -/
theorem pipeRegister_entry_eq {base stride n : Nat} (hn : n < 16) (hstride : stride ≤ 8)
    (hbase : base < 0x300) :
    pipeRegister p (entry base stride n) =
      .ok (.ofNat (Register.inBlock p.base (base + n * stride))) := by
  have hmul : n * stride ≤ 16 * 8 := Nat.mul_le_mul (Nat.le_of_lt hn) hstride
  rw [entry_eq (by omega) (by omega) (by omega)]
  exact pipeRegister_eq hp (by omega)

theorem planeWrites_eq (s : Source) : planeWrites p s = (p.planeWrites s).map .ok := by
  unfold planeWrites Pipe.planeWrites
  rw [s.layout.planeNumbers_eq, List.flatMap_map]
  refine flatMap_eq_ok fun plane _ => ?_
  have hplane : plane.val < 16 := plane.isLt.trans (by decide)
  simp (disch := first | decide | omega) only [pipeRegister_entry_eq hp, get_eq plane.isLt]
  rfl

theorem colorWrites_eq (s : Source) : colorWrites p s = (p.colorWrites s).map .ok := by
  have hlength : (ColorMatrix.yuvToRgb s.layer.colorSpace).length = 12 := by
    cases s.layer.colorSpace <;> rfl
  unfold colorWrites Pipe.colorWrites
  split
  · rw [putPipe_eq hp (by decide), List.map_cons]
    exact congrArg _ (matrixWrites_eq fun n hn =>
      pipeRegister_entry_eq hp (by omega) (by decide) (by decide))
  · rw [putPipe_eq hp (by decide)]
    rfl

theorem offWrites_eq : offWrites p = p.offWrites.map .ok := by
  unfold offWrites
  rw [putPipe_eq hp (by decide)]
  rfl

variable {s : Source}

/-- The crop is **inside the box** that is fetched. -/
theorem cropWrites_eq (hbox : s.fetch.Boxes s.layer.src) :
    cropWrites p s = (p.cropWrites s).map .ok := by
  have hx := hbox.x_le
  have hy := hbox.y_le
  unfold cropWrites
  simp only [sub, defined_eq_ok hx, defined_eq_ok hy, ok_bind]
  show [_, _, putPipe p _ (.ok _), _] = _
  simp (disch := decide) only [putPipe_eq hp]
  rfl

theorem tileWrites_eq (hbox : s.fetch.Boxes s.layer.src) :
    tileWrites p s = (p.tileWrites s).map .ok := by
  unfold tileWrites Pipe.tileWrites
  split
  · simp only [div_eq hbox.tileWidth.1, div_eq hbox.tileHeight.1, ok_bind]
    show [_, putPipe p _ (.ok _), putPipe p _ (.ok _)] = _
    simp (disch := decide) only [putPipe_eq hp]
    rfl
  · rfl

omit hp in
/-- A step from a size that fits a surface **is a word**. -/
theorem step_eq {src dst : UInt32} (hsrc : src.toNat ≤ 8192) :
    step src dst = .ok (Scaler.step src dst) := by
  have hmax : (max dst 1).toNat = max dst.toNat 1 := UInt32.toNat_max _ _
  have hlt := (max dst 1).toNat_lt
  have hdiv := Nat.div_le_self (src.toNat * 65536) (max dst.toNat 1)
  have hfixed : mulLong src.toUInt64 65536 = .ok (.ofNat (src.toNat * 65536)) := by
    rw [← UInt64.ofNat_uInt32ToNat]
    exact mulLong_ofNat (n := 65536) (by omega) (by decide)
  unfold step
  rw [hfixed, ok_bind, ← UInt64.ofNat_uInt32ToNat, hmax,
    divLong_ofNat (by omega) (by omega) (by omega), ok_bind, narrow_ofNat (by omega)]
  rfl

theorem scaleWrites_eq (hsrc : s.layer.src.Sized) :
    scaleWrites p s = (p.scaleWrites s).map .ok := by
  obtain ⟨hacross, hdown⟩ := Layer.toNat_turnedSize_le hsrc
  unfold scaleWrites Pipe.scaleWrites
  dsimp only
  split
  · rw [List.map_append]
    refine congrArg₂ _ ?_ (flatMap_zipIdx_eq_ok fun taps phase hphase => ?_)
    · simp (disch := decide) only [step_eq hacross, step_eq hdown, putPipe_eq hp]
      rfl
    · have hlt : phase < 16 := hphase
      simp (disch := first | decide | omega) only [pipeRegister_entry_eq hp]
      rfl
  · rw [putPipe_eq hp (by decide)]
    rfl

omit hp in
theorem frameWord_eq (s : Source) : frameWord s = .ok (Pipe.frameWord s) := by
  have hle := s.layout.length_planes_le
  rw [frameWord, ofIndex_eq (by omega)]
  rfl

/-- **What a pipe is set to for a source is worked out in words**, if the source is one that was
looked up and is not too large. -/
theorem fetchWrites_eq (hbox : s.fetch.Boxes s.layer.src) (hsrc : s.layer.src.Sized) :
    fetchWrites p s = (p.writes s).map .ok := by
  unfold fetchWrites Pipe.writes
  simp (disch := decide) only [frameWord_eq, putPipe_eq hp, planeWrites_eq hp, List.map_append]
  cases p.kind with
  | simple => rfl
  | rotating | upright =>
    simp only [cropWrites_eq hp hbox, tileWrites_eq hp hbox, colorWrites_eq hp,
      scaleWrites_eq hp hsrc, List.map_append]
    rfl

end Pipes

/-! ### The compositor -/

/-- `Wiring.subframeWrites` in words. -/
def subframeWrites (n : Nat) (s : Subframe) : List (InWords RegisterWrite) :=
  let register (reg : Nat) := inBlock (entry 0x3100 0x20 n) (.ok (.ofNat reg))
  let place :=
    if s.isEnabled then
      [ put (register Register.subframePosition) (.ok s.position),
        put (register Register.subframeSize) (.ok s.size),
        put (register Register.subframeAlpha) (.ok s.alpha) ] ++
      match s.colorKey with
      | some key =>
        [ put (register Register.subframeKeyMin) (.ok key.min),
          put (register Register.subframeKeyMax) (.ok key.max) ]
      | none => []
    else []
  place ++ [put (register Register.subframeControl) (.ok s.control)]

/-- `Wiring.writes` in words. -/
def wiringWrites (w : Wiring) : List (InWords RegisterWrite) :=
  [ put (.ok (.ofNat Register.mixSize)) (.ok w.size),
    put (.ok (.ofNat Register.mixBackground)) (.ok (w.background.getD 0)) ] ++
    w.subframes.toList.zipIdx.flatMap (fun (s, n) => subframeWrites n s) ++
    w.path.toList.zipIdx.map (fun (word, z) => put (entry 0x3200 4 z) (.ok word)) ++
    [ put (.ok (.ofNat Register.mixOperator)) (.ok (Wiring.operatorWord w.porterDuff)),
      put (.ok (.ofNat Register.mixControl)) (.ok (Register.mixEnable |||
        (if w.background.isSome then Register.mixBackgroundEnable else 0))) ]

theorem subframeWrites_eq {n : Nat} (hn : n < 5) (s : Subframe) :
    subframeWrites n s = (Wiring.subframeWrites n s).map .ok := by
  have hregister {reg : Nat} (hreg : reg < 0x20) :
      inBlock (entry 0x3100 0x20 n) (.ok (.ofNat reg)) =
        .ok (.ofNat (Register.subframe n reg)) := by
    rw [entry_eq (by omega) (by decide) (by decide)]
    exact inBlock_eq (by omega)
  unfold subframeWrites Wiring.subframeWrites
  simp (disch := decide) only [hregister, put_eq]
  cases s.isEnabled <;> cases s.colorKey <;> rfl

/-- **What the compositor is set to is worked out in words.** -/
theorem wiringWrites_eq (w : Wiring) : wiringWrites w = w.writes.map .ok := by
  have hsubframes : w.subframes.toList.zipIdx.flatMap (fun (s, n) => subframeWrites n s) =
      (w.subframes.toList.zipIdx.flatMap fun (s, n) => Wiring.subframeWrites n s).map .ok :=
    flatMap_zipIdx_eq_ok fun s n hn => subframeWrites_eq (by rwa [Vector.length_toList] at hn) s
  have hpath : w.path.toList.zipIdx.map (fun (word, z) => put (entry 0x3200 4 z) (.ok word)) =
      (w.path.toList.zipIdx.map fun (word, z) => Blitter.put (Register.pathSlot z) word).map
        .ok := by
    rw [List.map_map]
    refine List.map_congr_left fun (word, z) hmem => ?_
    have hz := (List.mem_zipIdx' hmem).1
    rw [Vector.length_toList] at hz
    have hlt : z < 6 := hz
    show put (entry 0x3200 4 z) _ = _
    rw [entry_eq (by omega) (by decide) (by decide)]
    rfl
  unfold wiringWrites Wiring.writes
  rw [hsubframes, hpath]
  simp only [List.map_append]
  rfl

/-! ### The write pipe -/

/-- `Target.colorWrites` in words. -/
def outColorWrites (t : Target) : List (InWords RegisterWrite) :=
  if t.layout.yuv then
    put (.ok (.ofNat Register.outColorControl)) (.ok Register.colorEnable) ::
      matrixWrites (entry 0x4014 4) (ColorMatrix.rgbToYuv t.output.colorSpace)
  else [put (.ok (.ofNat Register.outColorControl)) (.ok 0)]

/-- `Target.planeWrites` in words. -/
def outPlaneWrites (t : Target) : List (InWords RegisterWrite) :=
  t.layout.planeNumbers.flatMap fun plane =>
    [ put (entry 0x4050 8 plane) (lowWord <$> get t.output.address plane),
      put (entry 0x4054 8 plane) (highWord <$> get t.output.address plane),
      put (entry 0x4070 4 plane) (get t.output.stride plane) ]

/-- `Target.controlWord` in words. -/
def outControlWord (t : Target) : InWords UInt32 := do
  let planes ← ofIndex t.layout.planes.length
  return Register.outEnable ||| Register.outRotation.encode t.output.rotation.code |||
    Register.outPlanes.encode planes

/-- `Target.writes` in words. -/
def outWrites (t : Target) : List (InWords RegisterWrite) :=
  [ put (.ok (.ofNat Register.outLayout)) (.ok t.layout.toWord),
    put (.ok (.ofNat Register.outSize)) (.ok (packSize t.output.width t.output.height)),
    put (.ok (.ofNat Register.outBypass))
      (.ok (Register.outBypassStages.encode t.bypass.code)) ] ++
  outColorWrites t ++ outPlaneWrites t ++
    [put (.ok (.ofNat Register.outControl)) (outControlWord t)]

section Target

variable (t : Target)

theorem outColorWrites_eq : outColorWrites t = t.colorWrites.map .ok := by
  have hlength : (ColorMatrix.rgbToYuv t.output.colorSpace).length = 12 := by
    cases t.output.colorSpace <;> rfl
  unfold outColorWrites Target.colorWrites
  split
  · exact congrArg _ (matrixWrites_eq fun n hn => entry_eq (by omega) (by decide) (by decide))
  · rfl

theorem outPlaneWrites_eq : outPlaneWrites t = t.planeWrites.map .ok := by
  unfold outPlaneWrites Target.planeWrites
  rw [t.layout.planeNumbers_eq, List.flatMap_map]
  refine flatMap_eq_ok fun plane _ => ?_
  have hplane : plane.val < 2 ^ 16 := plane.isLt.trans (by decide)
  simp (disch := first | decide | omega) only [entry_eq hplane, get_eq plane.isLt]
  rfl

/-- **What the write pipe is set to is worked out in words.** -/
theorem outWrites_eq : outWrites t = t.writes.map .ok := by
  have hle := t.layout.length_planes_le
  have hcontrol : outControlWord t = .ok t.controlWord := by
    rw [outControlWord, ofIndex_eq (by omega)]
    rfl
  unfold outWrites Target.writes
  rw [outColorWrites_eq, outPlaneWrites_eq, hcontrol]
  simp only [List.map_append]
  rfl

end Target

/-! ### Passes -/

/-- `Blitter.headerWrites` in words: the global registers are a block that starts at zero. -/
def headerWrites (commandId : UInt32) (operation : Operation) (isStrip : Bool) :
    List (InWords RegisterWrite) :=
  [ put (add 0 (.ofNat Register.commandId)) (.ok commandId),
    put (add 0 (.ofNat Register.workMode)) (.ok (Register.workOperation.encode operation.code |||
      (if isStrip then Register.workStrip else 0))) ]

/-- `Frame.pipeWrites` in words. -/
def pipeWrites (f : Frame) : List (InWords RegisterWrite) :=
  f.pipes.flatMap fun p =>
    match f.sourceOf? p with
    | some s => fetchWrites p s
    | none => offWrites p

/-- `Frame.pass` in words. -/
def pass (f : Frame) : InWords Pass := do
  let writes ← (headerWrites f.commandId f.operation f.isStrip ++ readWrites f.read ++
    writeWrites f.write ++ pipeWrites f ++ wiringWrites f.wiring ++ outWrites f.target).mapM id
  return { commandId := f.commandId, writes }

theorem headerWrites_eq (commandId : UInt32) (operation : Operation) (isStrip : Bool) :
    headerWrites commandId operation isStrip =
      (Blitter.headerWrites commandId operation isStrip).map .ok := rfl

/-- Writes that all have results are made. -/
theorem mapM_id_map_ok (ws : List RegisterWrite) :
    (ws.map fun w => (.ok w : InWords RegisterWrite)).mapM id = .ok ws := by
  rw [List.mapM_map]
  exact (mapM_eq_ok (g := id) fun _ _ => rfl).trans (congrArg _ (List.map_id ws))

/-- **The pass of a frame is worked out in words**, if its sources are ones that were looked up and
are not too large. -/
theorem pass_eq {g : Generation} {f : Frame} (hsound : f.Sound g)
    (h : ∀ s ∈ f.sources, s.fetch.Boxes s.layer.src ∧ s.layer.src.Sized) :
    pass f = .ok f.pass := by
  have hread : f.read.shares.length < 2 ^ 16 := by
    rw [hsound.read]
    cases g <;> decide
  have hwrite : f.write.shares.length < 2 ^ 16 := by
    rw [hsound.write]
    cases g <;> decide
  have hindex : ∀ p ∈ f.pipes, p.index < 5 := by
    rw [hsound.pipes]
    cases g <;> decide
  have hpipes : pipeWrites f = f.pipeWrites.map .ok := by
    refine flatMap_eq_ok fun p hp => ?_
    cases hs : f.sourceOf? p with
    | none => exact offWrites_eq (hindex p hp)
    | some s =>
      obtain ⟨hbox, hsrc⟩ := h s (List.mem_of_find?_eq_some hs)
      exact fetchWrites_eq (hindex p hp) hbox hsrc
  unfold pass
  rw [headerWrites_eq, readWrites_eq hread, writeWrites_eq hwrite, hpipes, wiringWrites_eq,
    outWrites_eq]
  simp only [← List.map_append]
  rw [mapM_id_map_ok]
  rfl

end InWords

end Blitter
