import Blitter.Config
import Blitter.Engine

/-!
# Devices

A device is bound to one engine. A request is compiled, brought to the engine and waited for; the
engine tells by an interrupt that it is done. **Every request that fails leaves the engine reset**
(`Device.recover`), with no command laid down and no interrupt pending.

A step of a device comes with a schedule of interrupts that arrive from outside while it runs.
-/

namespace Blitter

/-- A **device**: an engine with all that drives it. -/
structure Device where
  compiler : Compiler
  mode : WriteMode
  pool : BufferPool
  engine : Engine
  line : InterruptLine
  /-- How long a start may take, in milliseconds. -/
  timeout : UInt64
  /-- Requests brought to the engine so far. -/
  submitted : Nat
  /-- What was reported so far. -/
  events : List Event
  deriving DecidableEq

namespace Device

/-- Reports events. -/
def report (d : Device) (events : List Event) : Device := { d with events := d.events ++ events }

/-- Accesses the engine. An interrupt that the engine raises arrives on the line. -/
def access (d : Device) (a : Access) : Device :=
  let (engine, raised) := d.engine.access a
  let line := match raised with
    | some status => d.line.signal status
    | none => d.line
  { d with engine, line, events := d.events ++ Engine.accessEvents d.engine engine }

/-- Accesses the engine several times, in order. -/
def accessAll (d : Device) (as : List Access) : Device := as.foldl access d

/-- Resets the engine, lets every interrupt through and empties the command buffers. -/
def reset (d : Device) : Device :=
  let d := d.accessAll
    [.set Register.control Register.controlReset, .set Register.interruptMask Status.known]
  { d with pool := d.pool.emptied }

/-! ### Binding -/

/-- What a fallback from command buffers to direct writes is reported as. -/
def fallbackEvents (config : Config) (g : Generation) : List Event :=
  if config.mode = .chained ∧ config.modeFor g = .direct then
    [{ level := .warn, part := "g2d::device"
       message := g.compatible ++ " has no command DMA, falling back to CPU writes" }]
  else []

/-- What a binding is reported as. -/
def boundEvent (d : Device) : Event :=
  { level := .info, part := "g2d::device"
    message := "G2D " ++ d.compiler.generation.text ++ " engine (version 0x" ++
      Text.hex .upper 8 (d.engine.read Register.version).toNat ++ "), " ++
      toString d.compiler.pipes.length ++ " pipes, " ++ d.mode.text }

/-- **Binds a device** to an engine as configured, and resets the engine. -/
def probe (config : Config) (engine : Engine) : Outcome Device := do
  let some g := Generation.ofCompatible? config.compatible
    | reject (.unknownCompatible config.compatible)
  let mode := config.modeFor g
  let pool ←
    BufferPool.create config.bufferCount.toNat config.bufferWords.toNat config.commandBase
  let device : Device :=
    { compiler := { generation := g, limits := config.stripLimits g, replays := mode == .chained }
      mode, pool, engine, line := .start 0 [], timeout := config.timeout, submitted := 0
      events := fallbackEvents config g }
  let device := device.reset
  return device.report [device.boundEvent]

/-! ### Waiting -/

/-- What a status that did not end a wait is reported as. -/
def passedOverEvent (awaited status : UInt32) : Event :=
  { level := .trace, part := "g2d::device"
    message := "waiting for " ++ Status.text awaited ++ ", got " ++ Status.text status }

/-- Acknowledges the statuses seen during a wait, in order; each but the one that ended the wait
is reported. -/
def acknowledge (d : Device) (awaited : UInt32) : List UInt32 → Device
  | [] => d
  | status :: rest =>
    let d := d.access (.set Register.interruptStatus status)
    match InterruptLine.judge awaited status with
    | some _ => d.acknowledge awaited rest
    | none => (d.report [passedOverEvent awaited status]).acknowledge awaited rest

/-- **Waits** for the engine to report a bit, acknowledging every status seen on the way. -/
def await (d : Device) (awaited : UInt32) : Device × Outcome Unit :=
  let waited := d.line.await awaited (d.line.now + d.timeout.toNat)
  let d := ({ d with line := waited.line }).acknowledge awaited waited.seen
  match waited.ending with
  | .done => (d, .ok ())
  | .fault status => (d, reject (.engineFault status))
  | .timeout => (d, reject (.timeout d.timeout))

/-! ### Running programs -/

/-- Forgets the interrupts that have arrived. -/
def clearLine (d : Device) : Device := { d with line := d.line.clear }

/-- Runs passes one after the other, register by register, until one fails. -/
def runDirect (d : Device) : List Pass → Device × Outcome Unit
  | [] => (d, .ok ())
  | pass :: passes =>
    let d := (d.clearLine.accessAll pass.accesses).access startDirect
    match d.await Status.frameDone with
    | (d, .ok ()) => d.runDirect passes
    | (d, .error e) => (d, .error e)

/-- What a failure is reported as where it arises. -/
def failureEvents (report : Rejection → List Event) : Failure → List Event
  | .rejected why => report why
  | .overflow => []

/-- Runs passes as one chain of command buffers. -/
def runChained (d : Device) (passes : List Pass) : Device × Outcome Unit :=
  match d.pool.load passes with
  | (pool, .error e) => (({ d with pool }).report (failureEvents BufferPool.loadEvents e), .error e)
  | (pool, .ok ()) =>
    match pool.launch with
    | (pool, .error e) => (({ d with pool }).clearLine, .error e)
    | (pool, .ok (head, accesses)) =>
      let d := (({ d with pool }).clearLine.report [BufferPool.chainEvent head]).accessAll accesses
      (d.report [BufferPool.launchEvent head]).await Status.chainDone

/-- What the submission of a program is reported as. -/
def submittedEvent (d : Device) (p : Program) : Event :=
  { level := .debug, part := "g2d::device"
    message := "request " ++ toString d.submitted ++ ": " ++ p.operation.text ++ ", " ++
      toString p.passes.length ++ " passes, " ++ toString p.writeCount ++ " writes" }

/-- **Runs a program.** -/
def submit (d : Device) (p : Program) : Device × Outcome Unit :=
  let d := { d with submitted := d.submitted + 1 }
  let d := d.report [d.submittedEvent p]
  match d.mode with
  | .direct => d.runDirect p.passes
  | .chained => d.runChained p.passes

/-! ### Requests -/

/-- What a failed request is reported as. -/
def failedEvent (what : String) (why : Rejection) : Event :=
  { level := .error, part := "g2d::device"
    message := what ++ " failed: " ++ why.messageWithStatus ++ ", resetting engine" }

/-- The device **after a failed request**: the engine is reset and nothing is left of the
request. -/
def recover (d : Device) : Device := d.reset.clearLine

/-- Carries out a compiled request named `what`, after reporting the events of its compilation. A
request that has no answer does not reach the engine. -/
def perform (d : Device) (what : String) (compiling : List Event) (program : Outcome Program) :
    Device × Outcome Unit :=
  let d := d.report compiling
  let (d, result) := match program with
    | .ok p => d.submit p
    | .error e => (d, .error e)
  match result with
  | .error (.rejected why) => ((d.report [failedEvent what why]).recover, result)
  | _ => (d, result)

/-- **Composes** layers onto an output. -/
def compose (d : Device) (r : Request) : Device × Outcome Unit :=
  d.perform "post_config" (d.compiler.composeEvents r) (d.compiler.compose r)

/-- **Fills** a part of a surface. -/
def fill (d : Device) (f : Fill) (output : Output) : Device × Outcome Unit :=
  d.perform "fill_rect" (d.compiler.fillEvents f output) (d.compiler.fill f output)

/-- **Copies** rows of bytes. -/
def copy (d : Device) (k : Copy) : Device × Outcome Unit :=
  d.perform "fastcopy" (d.compiler.copyEvents k) (d.compiler.copy k)

/-! ### Steps -/

/-- An interrupt arrives from outside. -/
def interrupt (d : Device) (status : UInt32) : Device := { d with line := d.line.signal status }

/-- Runs one step of the device while interrupts arrive from outside at given times. The step ends
when all of them have arrived. A step without an answer leaves the device as it was. -/
def step (d : Device) (schedule : List (Nat × UInt32))
    (action : Device → Device × Outcome Unit) : Device × Outcome Unit :=
  match action { d with line := .start d.line.pending schedule } with
  | (_, .error .overflow) => (d, .error .overflow)
  | (after, result) => ({ after with line := .start after.line.finish [] }, result)

/-- The device with an empty log of register writes. -/
def clearLog (d : Device) : Device := { d with engine := d.engine.clearLog }

end Device

end Blitter
