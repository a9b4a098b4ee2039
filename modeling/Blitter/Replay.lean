import Blitter.Device
import Blitter.Log.Filter
import Blitter.Request.File

/-!
# Replaying request files

The command line: it takes an optional configuration file and any number of request files, and
runs the requests one after the other on a simulated engine. The first file is taken as a
configuration if it is not a request.

Files are given as a function from names to texts, so that a run is a value: what was reported,
and how the run ended. What interrupts a run is given, too, by the number of request files that are
begun before. So is the codec that reads the files.
-/

namespace Blitter.Replay

/-- How a run ends. -/
inductive Ending where
  | completed
  /-- With an error message. -/
  | failed (message : String)
  /-- Without an answer. -/
  | aborted
  deriving DecidableEq, Repr

namespace Ending

/-- The exit code. -/
def code : Ending → Nat
  | completed => 0
  | failed _ => 1
  | aborted => 101

/-- The first lines on the error stream. The report of a run without an answer starts with an
empty line. -/
def errorText : Ending → Option String
  | completed => none
  | failed message => some ("Error: " ++ message)
  | aborted => some ""

end Ending

/-- A **finished run**. -/
structure Run where
  events : List Event
  ending : Ending
  deriving DecidableEq

/-- An event of the command line itself. -/
def event (level : Level) (message : String) : Event := { level, part := "g2d_replay", message }

/-- The files of a run by their names. -/
abbrev Files := String → Option String

/-- The job in a file. -/
def loadJob (t : Toml.Codec) (files : Files) (path : String) : Option Job :=
  (files path).bind (Job.loadWith t)

/-- The configuration of a run and its request files, or why there are none. -/
def arguments (t : Toml.Codec) (files : Files) :
    List String → Except String (Config × List String)
  | [] => .error "usage: g2d-replay [config.toml] request.toml..."
  | first :: rest =>
    match loadJob t files first with
    | some _ => .ok (.default, first :: rest)
    | none =>
      match (files first).bind (Config.loadWith t) with
      | some config => .ok (config, rest)
      | none => .error ("loading " ++ first)

/-- Carries out a job. -/
def perform (job : Job) (d : Device) : Device × Outcome Unit :=
  match job with
  | .compose request => d.compose request
  | .fill fill output => d.fill fill output
  | .copy copy => d.copy copy

/-- What a request that succeeded is reported as. -/
def successEvents (path : String) (d : Device) : List Event :=
  let writes := d.engine.log
  event .info (path ++ ": ok, " ++ toString writes.length ++ " register writes, " ++
      toString d.engine.frames ++ " frames total") ::
    writes.map fun w => event .debug
      ("  0x" ++ Text.hex .upper 4 w.offset.toNat ++ " <- 0x" ++ Text.hex .upper 8 w.value.toNat)

/-- The end of a run in which `failed` of `total` requests failed. -/
def conclude (total failed : Nat) (d : Device) : Run :=
  if failed = 0 then ⟨d.events ++ [event .info "All requests completed"], .completed⟩
  else ⟨d.events, .failed (toString failed ++ " of " ++ toString total ++ " requests failed")⟩

/-- Runs request files one after the other, `failed` of `total` having failed before. With
`shutdown` given, the rest of them is skipped once so many have been begun. -/
def runFiles (t : Toml.Codec) (files : Files) (total : Nat) :
    (shutdown : Option Nat) → (failed : Nat) → Device → List String → Run
  | _, failed, d, [] => conclude total failed d
  | shutdown, failed, d, path :: paths =>
    if shutdown = some 0 then
      conclude total failed
        (d.report [event .warn "Shutdown requested, skipping remaining requests"])
    else match loadJob t files path with
    | none => ⟨d.events, .failed ("loading " ++ path)⟩
    | some job =>
      let shutdown := shutdown.map Nat.pred
      match perform job d.clearLog with
      | (d, .ok ()) =>
        runFiles t files total shutdown failed (d.report (successEvents path d)) paths
      | (d, .error (.rejected why)) =>
        let reported := d.report [event .error (path ++ ": " ++ why.messageWithStatus)]
        runFiles t files total shutdown (failed + 1) reported paths
      | (d, .error .overflow) => ⟨d.events, .aborted⟩

/-- Runs request files on a device bound as configured. -/
def runConfigured (t : Toml.Codec) (files : Files) (shutdown : Option Nat) (config : Config)
    (paths : List String) : Run :=
  let loaded := event .info ("Configuration loaded: " ++ config.text)
  match Generation.ofCompatible? config.compatible with
  | none => ⟨[loaded], .failed ("unknown compatible string " ++ Text.quoted config.compatible)⟩
  | some g =>
    match Device.probe config (Engine.create g false none) with
    | .ok d =>
      runFiles t files paths.length shutdown 0 { d with events := loaded :: d.events } paths
    | .error (.rejected why) => ⟨[loaded], .failed why.message⟩
    | .error .overflow => ⟨loaded :: Device.fallbackEvents config g, .aborted⟩

/-- **Runs the command line**, until a shutdown if one is asked for. -/
def run (t : Toml.Codec) (files : Files) (shutdown : Option Nat) (args : List String) : Run :=
  match arguments t files args with
  | .ok (config, paths) => runConfigured t files shutdown config paths
  | .error message => ⟨[], .failed message⟩

/-- What a run shows: the lines of its log, the start of its error stream and its exit code. -/
structure Transcript where
  lines : List String
  errorText : Option String
  code : Nat
  deriving DecidableEq, Repr

/-- The **transcript** of a run that nothing interrupts, with the log filtered as `log` says.
Without a filter the run is aborted before it starts. -/
def transcript (files : Files) (log : Option String) (args : List String) : Transcript :=
  match LogFilter.ofText log with
  | some filter =>
    let r := run .standard files none args
    ⟨filter.lines r.events, r.ending.errorText, r.ending.code⟩
  | none => ⟨[], Ending.aborted.errorText, Ending.aborted.code⟩

end Blitter.Replay
