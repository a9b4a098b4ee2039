import Blitter.Frame

/-!
# Compiling requests

A compiler is bound to one generation of the engine. It checks a request, looks up what the
request needs and turns it into a program: one pass, or one for each strip. Compiling touches
nothing; a request that cannot be done is turned down before the engine hears of it.

A composition is first split into frames (`Compiler.split`). Its program and the events that are
reported on the way are two views of those frames.
-/

namespace Blitter

/-- A **program**: passes to be run one after the other. -/
structure Program where
  operation : Operation
  /-- The composition is cut into strips. -/
  inStrips : Bool
  passes : List Pass
  deriving DecidableEq

/-- The number of register writes in all passes. -/
def Program.writeCount (p : Program) : Nat :=
  (p.passes.map fun pass => pass.writes.length).foldr (· + ·) 0

/-- A compiler for one generation. -/
structure Compiler where
  generation : Generation
  limits : StripLimits
  /-- Programs are replayed from command buffers, which are fetched through the last read
  channel. -/
  replays : Bool
  deriving DecidableEq

namespace Compiler

/-- The read pipes of the engine. -/
def pipes (c : Compiler) : List Pipe := c.generation.pipes

/-! ### Checking layers -/

/-- Turns down a rectangle that is empty or larger than a size field carries. -/
def checkRect (pipe : Nat) (role : RectRole) (r : Rect) : Outcome Unit :=
  if r.isEmpty || maxDimension < r.w || maxDimension < r.h then
    rejectGeometry (.layerSize pipe role r.w r.h)
  else .ok ()

/-- Turns down a layer whose rectangles do not fit: each within the size fields, the source within
the largest surface and the destination within the picture. -/
def checkRects (width height : UInt32) (l : Layer) : Outcome Unit := do
  let pipe := l.pipe.toNat
  checkRect pipe .source l.src
  checkRect pipe .destination l.dst
  if !Rect.contains ⟨0, 0, maxDimension, maxDimension⟩ l.src then
    rejectGeometry (.layerSourceBeyond pipe l.src)
  else if !Rect.contains ⟨0, 0, width, height⟩ l.dst then
    rejectGeometry (.destinationOutside pipe l.dst width height)

/-- Checks a layer against the pipes and against the layers before it, and looks up what it
needs. -/
def resolveLayer (c : Compiler) (width height : UInt32) (before : List Layer) (l : Layer) :
    Outcome Source :=
  let number := l.pipe.toNat
  match c.pipes[number]? with
  | none => reject (.pipeIndex number c.pipes.length)
  | some pipe =>
    if before.any fun b => b.pipe == l.pipe then reject (.duplicatePipe number)
    else if before.any fun b => b.depth == l.depth then rejectGeometry (.sharedDepth l.depth)
    else do
      checkRects width height l
      let source ← Source.ofLayer l
      pipe.check source
      return source

/-- Checks and looks up layers, in order, after the layers `before`. -/
def resolveAfter (c : Compiler) (width height : UInt32) :
    (before : List Layer) → List Layer → Outcome (List Source)
  | _, [] => .ok []
  | before, l :: ls => do
    let source ← c.resolveLayer width height before l
    let sources ← c.resolveAfter width height (before ++ [l]) ls
    return source :: sources

/-- Checks and looks up the enabled layers of a request. -/
def resolveLayers (c : Compiler) (r : Request) : Outcome (List Source) :=
  c.resolveAfter r.output.width r.output.height [] r.enabledLayers

/-! ### Composition -/

/-- The split of the write channels for an output. -/
def writeAllocation (c : Compiler) (t : Target) : Outcome Allocation :=
  allocate (c.generation.writeWeights t) c.generation.writePools false

/-- A frame that composes. -/
def composeFrame (c : Compiler) (commandId : UInt32) (isStrip : Bool) (sources : List Source)
    (target : Target) (background : Option UInt32) (porterDuff : Option PorterDuff)
    (reserved : Bool) : Outcome Frame := do
  let read ←
    allocate (c.generation.readWeights sources reserved) c.generation.readPools false
  let write ← c.writeAllocation target
  let wiring ← Wiring.ofLayers (sources.map Source.layer) background porterDuff
    target.output.width target.output.height
  return { commandId, operation := .compose, isStrip, read, write, pipes := c.pipes, sources,
           wiring, target }

/-- The last read channel is needed whatever the layers: for commands or for the background. -/
def reserves (c : Compiler) (r : Request) : Bool := c.replays || r.background.isSome

/-- The operator of a request, where both of its layers are present. -/
def operatorFor (porterDuff : Option PorterDuff) (sources : List Source) : Option PorterDuff :=
  porterDuff.filter fun pd =>
    [pd.srcPipe, pd.dstPipe].all fun p => sources.any fun s => s.layer.pipe == p

/-- The frame of one strip. A strip without layers still needs a channel to fetch through. -/
def stripFrame (c : Compiler) (r : Request) (target : Target) (job : StripJob) :
    Outcome Frame := do
  let sources ← job.layers.mapM Source.ofLayer
  c.composeFrame (UInt32.ofNat job.strip.index) true sources { target with output := job.output }
    r.background (operatorFor r.porterDuff sources) (c.reserves r || sources.isEmpty)

/-- A composition **split into frames**: one that does all of it, or one for each strip. -/
inductive Split where
  | whole (frame : Outcome Frame)
  | strips (stripWidth width : UInt32) (frames : List (Outcome Frame))

/-- Checks a composition request and splits it. -/
def split (c : Compiler) (r : Request) : Outcome Split := do
  let target ← Target.ofOutput r.output
  let sources ← c.resolveLayers r
  if ← needsStrips sources target c.limits then
    let jobs ← plan sources target c.limits
    return .strips c.limits.width r.output.width (jobs.map (c.stripFrame r target))
  else
    return .whole (c.composeFrame 0 false sources target r.background r.porterDuff (c.reserves r))

/-- The program of a split composition, if all its frames came about. -/
def Split.program : Split → Outcome Program
  | .whole frame => do
    let f ← frame
    return { operation := .compose, inStrips := false, passes := [f.pass] }
  | .strips _ _ frames => do
    let fs ← frames.mapM id
    return { operation := .compose, inStrips := true, passes := fs.map Frame.pass }

/-- **Compiles a composition.** -/
def compose (c : Compiler) (r : Request) : Outcome Program := do
  let s ← c.split r
  s.program

/-- The events of frames up to the first that did not come about, followed by `closing` if all of
them did. -/
def framesEvents (closing : List Event) : List (Outcome Frame) → List Event
  | [] => closing
  | .ok f :: fs => f.events ++ framesEvents closing fs
  | .error _ :: _ => []

/-- What is reported while a composition is compiled. -/
def Split.events : Split → List Event
  | .whole frame => framesEvents [] [frame]
  | .strips stripWidth width frames =>
    let count := toString frames.length
    { level := .debug, part := "g2d::stroke"
      message := "stroke: " ++ count ++ " slices of " ++ toString stripWidth ++ " over width " ++
        toString width } ::
    framesEvents
      [{ level := .debug, part := "g2d::compose"
         message := "compose: " ++ count ++ " stroke passes" }] frames

/-- What is reported while a request is compiled. -/
def composeEvents (c : Compiler) (r : Request) : List Event :=
  match c.split r with
  | .ok s => s.events
  | .error _ => []

/-! ### Filling -/

/-- The distance in bytes from the start of a plane to a pixel in memory. -/
def pixelOffset (t : Target) (x y : UInt32) (plane : Fin 3) : Nat :=
  y.toNat / t.layout.planeRows plane * (t.output.stride.get plane).toNat +
    x.toNat * t.layout.planeBits plane / 8

/-- The part of a surface that a fill covers, as an output of its own. The rectangle is in memory
coordinates, so that the part is not rotated. -/
def fillTarget (fill : Fill) (output : Output) : Outcome Target := do
  let whole ← Target.ofOutput output
  let (width, height) := output.memorySize
  let rect := fill.rect
  if rect.isEmpty || !Rect.contains ⟨0, 0, width, height⟩ rect then
    rejectGeometry (.fillOutside rect width height)
  else if rect.x.toNat % whole.layout.columnAlign ≠ 0 ∨ rect.y.toNat % whole.layout.rowAlign ≠ 0 then
    rejectGeometry (.fillSplitsSample rect.x rect.y output.format)
  else
    let address ←
      moveAddresses (pixelOffset whole rect.x rect.y) whole.layout.planes output.address
    return { whole with
      output := { output with width := rect.w, height := rect.h, rotation := .none, address } }

/-- The frame that fills a part of a surface. -/
def fillFrame (c : Compiler) (fill : Fill) (output : Output) : Outcome Frame := do
  let target ← fillTarget fill output
  let read ← allocate (c.generation.readWeights [] true) c.generation.readPools false
  let write ← c.writeAllocation target
  let wiring ← Wiring.ofLayers [] (some fill.color) none fill.rect.w fill.rect.h
  return { commandId := 0, operation := .fill, isStrip := false, read, write, pipes := c.pipes,
           sources := [], wiring, target }

/-- **Compiles a fill.** -/
def fill (c : Compiler) (fill : Fill) (output : Output) : Outcome Program := do
  let f ← c.fillFrame fill output
  return { operation := .fill, inStrips := false, passes := [f.pass] }

/-- What is reported while a fill is compiled. -/
def fillEvents (c : Compiler) (fill : Fill) (output : Output) : List Event :=
  framesEvents [] [c.fillFrame fill output]

/-! ### Copying -/

/-- Turns down a copy whose rows or strides the engine cannot express. -/
def checkCopy (k : Copy) : Outcome Unit :=
  if k.width = 0 ∨ Register.copyMaxWidth < k.width then rejectGeometry (.copyWidth k.width)
  else if k.height = 0 ∨ maxDimension < k.height then rejectGeometry (.copyHeight k.height)
  else if k.srcStride < k.width ∨ k.dstStride < k.width then
    rejectGeometry (.copyStrides k.srcStride k.dstStride k.width)
  else .ok ()

/-- The split of the read channels for a copy. -/
def copyRead (c : Compiler) : Outcome Allocation :=
  allocate (List.replicate c.generation.readChannels 0) c.generation.readPools true

/-- The split of the write channels for a copy. -/
def copyWrite (c : Compiler) : Outcome Allocation :=
  allocate (List.replicate c.generation.writeChannels 0) c.generation.writePools true

/-- The writes that describe a copy. -/
def copyWrites (k : Copy) : List RegisterWrite :=
  [ put Register.copySourceLow (lowWord k.src),
    put Register.copySourceHigh (highWord k.src),
    put Register.copyTargetLow (lowWord k.dst),
    put Register.copyTargetHigh (highWord k.dst),
    put Register.copySize (packSize k.width k.height),
    put Register.copySourceStride k.srcStride,
    put Register.copyTargetStride k.dstStride ]

/-- **Compiles a raw copy.** -/
def copy (c : Compiler) (k : Copy) : Outcome Program := do
  checkCopy k
  let read ← c.copyRead
  let write ← c.copyWrite
  return { operation := .copy, inStrips := false
           passes := [
            { commandId := 0
              writes := headerWrites 0 .copy false ++ read.readWrites ++ write.writeWrites ++
                copyWrites k }] }

/-- What is reported while a copy is compiled. -/
def copyEvents (c : Compiler) (k : Copy) : List Event :=
  match checkCopy k, c.copyRead with
  | .ok _, .ok read => [read.event]
  | _, _ => []

end Compiler

end Blitter
