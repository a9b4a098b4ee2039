import Blitter.Request
import Blitter.Text.Quoted

/-!
# Failures

Why a request is turned down. A `Rejection` is a cause with the values it speaks of;
`Rejection.message` words it, `Rejection.kind` classes it and `Rejection.status` numbers it for
callers that want an integer. Apart from these stands `Failure.overflow`: a number did not fit
the word that has to hold it, and no answer is given at all.

Numbers are worked out as natural numbers and put into words by `fit32` and `fit64`, which are
where an overflow shows.
-/

namespace Blitter

/-- Which of a layer's two rectangles is meant. -/
inductive RectRole where
  | source
  | destination
  deriving DecidableEq, Repr

/-- The word for the rectangle in messages. -/
def RectRole.text : RectRole → String
  | source => "source"
  | destination => "destination"

/-- What a read pipe may be unable to do. -/
inductive Capability where
  | scale
  | rotate
  | yuv
  | tiled
  | crop
  deriving DecidableEq, Repr

/-- The words for the capability in messages. -/
def Capability.text : Capability → String
  | scale => "scale"
  | rotate => "rotate"
  | yuv => "fetch YUV formats"
  | tiled => "fetch tiled or compressed buffers"
  | crop => "crop"

/-- What is wrong with the sizes and places in a request. -/
inductive GeometryFault where
  | sourceBeyond (src : Rect)
  | emptyScale (src dst : UInt32)
  | scaleRatio (src dst : UInt32)
  | sharedDepth (depth : UInt8)
  | layerSize (pipe : Nat) (role : RectRole) (w h : UInt32)
  | layerSourceBeyond (pipe : Nat) (src : Rect)
  | destinationOutside (pipe : Nat) (dst : Rect) (width height : UInt32)
  | operandNotEnabled (pipe : UInt8)
  | stripSplitsSample (index : Nat) (onRows : Bool) (start : UInt32) (format : FormatCode)
  | fillOutside (rect : Rect) (width height : UInt32)
  | fillSplitsSample (x y : UInt32) (format : FormatCode)
  | copyWidth (width : UInt32)
  | copyHeight (height : UInt32)
  | copyStrides (src dst width : UInt32)
  | emptyChain
  deriving DecidableEq

/-- The wording of a geometry fault. -/
def GeometryFault.message : GeometryFault → String
  | sourceBeyond src => "source " ++ src.text ++ " beyond " ++ toString maxDimension ++ " pixels"
  | emptyScale src dst => "empty scaler input/output " ++ toString src ++ "->" ++ toString dst
  | scaleRatio src dst =>
    "scale ratio " ++ toString src ++ "->" ++ toString dst ++ " out of range"
  | sharedDepth depth => "z-order " ++ toString depth ++ " used by more than one layer"
  | layerSize pipe role w h =>
    "plane " ++ toString pipe ++ " " ++ role.text ++ " rect " ++ toString w ++ "x" ++ toString h
  | layerSourceBeyond pipe src =>
    "plane " ++ toString pipe ++ " source " ++ src.text ++ " beyond " ++ toString maxDimension ++
      " pixels"
  | destinationOutside pipe dst width height =>
    "plane " ++ toString pipe ++ " destination " ++ dst.text ++ " outside " ++ toString width ++
      "x" ++ toString height ++ " output"
  | operandNotEnabled pipe =>
    "porter-duff operand plane " ++ toString pipe ++ " is not an enabled layer"
  | stripSplitsSample index onRows start format =>
    "slice " ++ toString index ++ " starts at " ++ (if onRows then "row" else "column") ++ " " ++
      toString start ++ " of the " ++ format.text ++ " output, inside a chroma sample"
  | fillOutside rect width height =>
    "fill rect " ++ rect.text ++ " outside " ++ toString width ++ "x" ++ toString height ++
      " surface"
  | fillSplitsSample x y format =>
    "fill rect at (" ++ toString x ++ ", " ++ toString y ++ ") splits a chroma sample of " ++
      format.text
  | copyWidth width => "fastcopy width " ++ toString width ++ " bytes out of range"
  | copyHeight height => "fastcopy height " ++ toString height ++ " out of range"
  | copyStrides src dst width =>
    "fastcopy strides " ++ toString src ++ "/" ++ toString dst ++ " shorter than row of " ++
      toString width ++ " bytes"
  | emptyChain => "empty command chain"

/-- The three classes of rejection. -/
inductive RejectionKind where
  /-- The request cannot be expressed on this hardware. -/
  | invalidConfiguration
  /-- A command buffer ran out of space, or there were too few of them. -/
  | resourceExhaustion
  /-- The engine reported an error or did not report in time. -/
  | hardwareTimeout
  deriving DecidableEq, Repr

/-- The number of the class: a negative system error number. -/
def RejectionKind.status : RejectionKind → Int
  | invalidConfiguration => -22
  | resourceExhaustion => -12
  | hardwareTimeout => -110

/-- Why a request, or the binding of a device, is **turned down**. -/
inductive Rejection where
  | unknownCompatible (text : String)
  | unknownFormatName (text : String)
  | unsupportedFormat (format : FormatCode)
  | unsupportedWriteFormat (format : FormatCode)
  | unsupportedArrangement (format : FormatCode) (arrangement : Arrangement)
  | pipeIndex (pipe count : Nat)
  | layerIndex (layer depth : Nat)
  | duplicatePipe (pipe : Nat)
  | missingCapability (pipe : Nat) (what : Capability)
  | rotatedPacked (rotation : Rotation)
  | scaledStrip (pipe : Nat)
  | scaledBothWays (pipe : Nat)
  | outputSize (width height : UInt32)
  | geometry (fault : GeometryFault)
  | noActiveChannel
  | bufferIndex (id count : Nat)
  | bufferFull (id needed remaining : Nat)
  | tooManyPasses (passes buffers : Nat)
  | timeout (milliseconds : UInt64)
  | engineFault (status : UInt32)
  deriving DecidableEq

namespace Rejection

/-- The wording of a rejection. -/
def message : Rejection → String
  | unknownCompatible text => "no engine generation matches compatible string " ++ Text.quoted text
  | unknownFormatName text => "unknown pixel format name " ++ Text.quoted text
  | unsupportedFormat format => "unknown or unsupported pixel format " ++ format.text
  | unsupportedWriteFormat format =>
    "pixel format " ++ format.text ++ " cannot be written by the write pipe"
  | unsupportedArrangement format arrangement =>
    "modifier " ++ arrangement.text ++ " is not supported for format " ++ format.text
  | pipeIndex pipe count =>
    "plane index " ++ toString pipe ++ " out of range (" ++ toString count ++ " pipes)"
  | layerIndex layer depth =>
    "compositor layer " ++ toString layer ++ " / z-order " ++ toString depth ++ " out of range"
  | duplicatePipe pipe => "two enabled layers target plane " ++ toString pipe
  | missingCapability pipe what => "pipe " ++ toString pipe ++ " cannot " ++ what.text
  | rotatedPacked rotation =>
    "rotated output (" ++ rotation.text ++ ") is not supported for packed YUV 4:2:2"
  | scaledStrip pipe =>
    "layer on plane " ++ toString pipe ++ " is horizontally scaled but the request needs slicing"
  | scaledBothWays pipe =>
    "layer on plane " ++ toString pipe ++
      " scales in both directions without a deep line buffer"
  | outputSize width height =>
    "invalid output size " ++ toString width ++ "x" ++ toString height
  | geometry fault => "invalid geometry: " ++ fault.message
  | noActiveChannel => "no active DMA channel"
  | bufferIndex id count =>
    "command buffer " ++ toString id ++ " out of range (" ++ toString count ++ " buffers)"
  | bufferFull id needed remaining =>
    "command buffer " ++ toString id ++ " full: need " ++ toString needed ++ " words, " ++
      toString remaining ++ " left"
  | tooManyPasses passes buffers =>
    toString passes ++ " passes exceed the " ++ toString buffers ++ " available command buffers"
  | timeout milliseconds => "engine did not complete within " ++ toString milliseconds ++ " ms"
  | engineFault status =>
    "engine reported error status 0x" ++ Text.hex .upper 8 status.toNat

/-- The class of a rejection. -/
def kind : Rejection → RejectionKind
  | bufferFull .. | tooManyPasses .. => .resourceExhaustion
  | timeout _ | engineFault _ => .hardwareTimeout
  | _ => .invalidConfiguration

/-- The number of a rejection: that of its class. -/
def status (r : Rejection) : Int := r.kind.status

/-- The wording followed by the number. -/
def messageWithStatus (r : Rejection) : String :=
  r.message ++ " (status " ++ toString r.status ++ ")"

end Rejection

/-- The two ways in which no result comes about. -/
inductive Failure where
  | rejected (why : Rejection)
  /-- A number does not fit its word. -/
  | overflow
  deriving DecidableEq

/-- A result or a failure. -/
abbrev Outcome := Except Failure

/-- The request is turned down. -/
def reject {α : Type} (why : Rejection) : Outcome α := .error (.rejected why)

/-- The request is turned down for its geometry. -/
def rejectGeometry {α : Type} (fault : GeometryFault) : Outcome α := reject (.geometry fault)

/-- A result in two steps is a result of the second step for a result of the first. -/
theorem Outcome.bind_eq_ok_iff {α β : Type} {x : Outcome α} {f : α → Outcome β} {b : β} :
    (x >>= f) = .ok b ↔ ∃ a, x = .ok a ∧ f a = .ok b := by
  cases x with
  | error e =>
    constructor
    · intro h
      cases h
    · rintro ⟨_, h, _⟩
      cases h
  | ok a =>
    constructor
    · intro h
      exact ⟨a, rfl, h⟩
    · rintro ⟨_, ⟨⟩, h⟩
      exact h

/-- The 32-bit word for a number that fits one. -/
def fit32 (n : Nat) : Outcome UInt32 :=
  if n < 0x100000000 then .ok (UInt32.ofNat n) else .error .overflow

/-- The 64-bit word for a number that fits one. -/
def fit64 (n : Nat) : Outcome UInt64 :=
  if n < 0x10000000000000000 then .ok (UInt64.ofNat n) else .error .overflow

theorem fit32_eq_ok_iff {n : Nat} {w : UInt32} : fit32 n = .ok w ↔ w.toNat = n := by
  unfold fit32
  split
  case isTrue h =>
    simp only [Except.ok.injEq]
    constructor
    · rintro rfl
      exact UInt32.toNat_ofNat_of_lt' h
    · rintro rfl
      exact UInt32.ofNat_toNat
  case isFalse h =>
    have := w.toNat_lt
    simp only [reduceCtorEq, false_iff]
    omega

theorem fit64_eq_ok_iff {n : Nat} {w : UInt64} : fit64 n = .ok w ↔ w.toNat = n := by
  unfold fit64
  split
  case isTrue h =>
    simp only [Except.ok.injEq]
    constructor
    · rintro rfl
      exact UInt64.toNat_ofNat_of_lt' h
    · rintro rfl
      exact UInt64.ofNat_toNat
  case isFalse h =>
    have := w.toNat_lt
    simp only [reduceCtorEq, false_iff]
    omega

end Blitter
