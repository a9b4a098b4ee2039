import Blitter.Proofs.Config.Reader
import Blitter.Proofs.Toml.Codec
import Blitter.Replay

/-!
# What a run of request files shows

A run is completed **exactly when every request file that is begun is a job and every one of their
requests succeeds**, in the order of the files (`Replay.Completes`). What stands in front of the
request files may be a configuration. All request files are begun, unless a shutdown is asked for:
what comes after it is skipped, and the run is completed without it.

Whether the first file is that configuration is settled by what it is not: it is taken for one if
it is no job. A document that asks for an operation, but is no job, therefore runs as a
configuration, unless one of its fields has the name of a field of a configuration and holds a
value of the wrong kind (`Replay.takesForRequest_iff_and_completed_iff`). How the text of a document
is read makes no difference to that.
-/

namespace Blitter.Replay

open Data Toml

variable {t : Codec} {files : Files}

/-! ### Arguments -/

/-- The arguments name request files, **perhaps after a configuration**. -/
inductive LedBy (t : Codec) (files : Files) : List String → Config → List String → Prop
  | requests {first : String} {rest : List String} {job : Job}
      (hjob : loadJob t files first = some job) :
      LedBy t files (first :: rest) .default (first :: rest)
  | config {first : String} {rest : List String} {config : Config}
      (hjob : loadJob t files first = none)
      (hconfig : (files first).bind (Config.loadWith t) = some config) :
      LedBy t files (first :: rest) config rest

theorem arguments_eq_ok_iff {args : List String} {config : Config} {paths : List String} :
    arguments t files args = .ok (config, paths) ↔ LedBy t files args config paths := by
  constructor
  · intro h
    cases args with
    | nil => cases h
    | cons first rest =>
      simp only [arguments] at h
      split at h
      case h_1 job hjob =>
        cases h
        exact .requests hjob
      case h_2 hjob =>
        split at h
        case h_1 config' hconfig =>
          cases h
          exact .config hjob hconfig
        case h_2 => cases h
  · intro h
    cases h with
    | requests hjob => simp [arguments, hjob]
    | config hjob hconfig => simp [arguments, hjob, hconfig]

/-- The device that a run **begins with**: one bound as configured, which has reported the
configuration. -/
def IsBound (config : Config) (d : Device) : Prop :=
  ∃ g d₀, Generation.ofCompatible? config.compatible = some g ∧
    Device.probe config (Engine.create g false none) = .ok d₀ ∧
    d = { d₀ with
      events := event .info ("Configuration loaded: " ++ config.text) :: d₀.events }

theorem IsBound.runConfigured_eq {config : Config} {d : Device} (h : IsBound config d)
    (shutdown : Option Nat) (paths : List String) :
    runConfigured t files shutdown config paths =
      runFiles t files paths.length shutdown 0 d paths := by
  obtain ⟨g, d₀, hg, hprobe, rfl⟩ := h
  simp only [runConfigured, hg, hprobe]

theorem exists_isBound_default : ∃ d, IsBound .default d :=
  ⟨_, .normal, _, rfl, rfl, rfl⟩

/-- A run that is completed **has a device**. -/
theorem exists_isBound_of_completed {shutdown : Option Nat} {config : Config}
    {paths : List String} (h : (runConfigured t files shutdown config paths).ending = .completed) :
    ∃ d, IsBound config d := by
  unfold runConfigured at h
  split at h
  case h_1 => cases h
  case h_2 g hg =>
    split at h
    case h_1 d hprobe => exact ⟨_, g, d, hg, hprobe, rfl⟩
    case h_2 => cases h
    case h_3 => cases h

/-! ### Requests -/

/-- Every one of the files is a job **whose request succeeds**, on the device that those before
it left. -/
inductive Completes (t : Codec) (files : Files) : Device → List String → Prop
  | nil {d : Device} : Completes t files d []
  | cons {d after : Device} {path : String} {paths : List String} {job : Job}
      (hjob : loadJob t files path = some job) (hdone : perform job d.clearLog = (after, .ok ()))
      (hrest : Completes t files (after.report (successEvents path after)) paths) :
      Completes t files d (path :: paths)

/-- The request files that are **begun** before a shutdown. -/
def begun (shutdown : Option Nat) (paths : List String) : List String :=
  match shutdown with
  | none => paths
  | some count => paths.take count

theorem begun_nil (shutdown : Option Nat) : begun shutdown [] = [] := by
  cases shutdown with
  | none => rfl
  | some count => exact List.take_nil

theorem begun_cons {shutdown : Option Nat} (h : shutdown ≠ some 0) (path : String)
    (paths : List String) :
    begun shutdown (path :: paths) = path :: begun (shutdown.map Nat.pred) paths := by
  cases shutdown with
  | none => rfl
  | some count =>
    obtain ⟨n, rfl⟩ := Nat.exists_eq_succ_of_ne_zero fun hzero => h (congrArg some hzero)
    exact List.take_succ_cons

theorem ending_conclude_iff {total failed : Nat} {d : Device} :
    (conclude total failed d).ending = .completed ↔ failed = 0 := by
  unfold conclude
  split
  case isTrue hfailed => exact iff_of_true rfl hfailed
  case isFalse hfailed => exact iff_of_false nofun hfailed

/-- A run is completed if **nothing has failed and nothing fails** of what is begun. -/
theorem ending_runFiles_iff {total failed : Nat} {shutdown : Option Nat} {d : Device}
    {paths : List String} :
    (runFiles t files total shutdown failed d paths).ending = .completed ↔
      failed = 0 ∧ Completes t files d (begun shutdown paths) := by
  induction paths generalizing shutdown failed d with
  | nil =>
    rw [runFiles, ending_conclude_iff, begun_nil]
    exact (and_iff_left .nil).symm
  | cons path paths ih =>
    rw [runFiles]
    by_cases hstop : shutdown = some 0
    · rw [if_pos hstop, ending_conclude_iff, hstop]
      exact (and_iff_left .nil).symm
    rw [if_neg hstop, begun_cons hstop]
    constructor
    · intro h
      split at h
      case h_1 => cases h
      case h_2 job hjob =>
        dsimp only at h
        split at h
        case h_1 after hdone =>
          obtain ⟨hfailed, hrest⟩ := ih.mp h
          exact ⟨hfailed, .cons hjob hdone hrest⟩
        case h_2 => exact absurd (ih.mp h).1 (Nat.succ_ne_zero failed)
        case h_3 => cases h
    · rintro ⟨hfailed, h⟩
      cases h with
      | cons hjob hdone hrest =>
        simp only [hjob, hdone]
        exact ih.mpr ⟨hfailed, hrest⟩

/-- **A run is completed exactly when every request file that is begun is a job that succeeds.** -/
theorem ending_run_iff {shutdown : Option Nat} {args : List String} :
    (run t files shutdown args).ending = .completed ↔
      ∃ config paths d, LedBy t files args config paths ∧ IsBound config d ∧
        Completes t files d (begun shutdown paths) := by
  constructor
  · intro h
    unfold run at h
    split at h
    case h_1 config paths harguments =>
      obtain ⟨d, hd⟩ := exists_isBound_of_completed h
      rw [hd.runConfigured_eq] at h
      exact ⟨config, paths, d, arguments_eq_ok_iff.mp harguments, hd, (ending_runFiles_iff.mp h).2⟩
    case h_2 => cases h
  · rintro ⟨config, paths, d, hled, hd, hcompletes⟩
    simp only [run, arguments_eq_ok_iff.mpr hled]
    rw [hd.runConfigured_eq]
    exact ending_runFiles_iff.mpr ⟨rfl, hcompletes⟩

/-- **A shutdown before the first request** completes the run, whatever the request files hold. -/
theorem ending_run_of_shutdown {args paths : List String} {config : Config} {d : Device}
    (hled : LedBy t files args config paths) (hd : IsBound config d) :
    (run t files (some 0) args).ending = .completed :=
  ending_run_iff.mpr ⟨config, paths, d, hled, hd, .nil⟩

/-! ### The first file -/

/-- The first file is **taken for a request**: it is the first one that runs, on a device where
nothing is configured, or the arguments are turned down by its name. -/
def TakesForRequest (t : Codec) (files : Files) (first : String) (rest : List String) : Prop :=
  (∃ job d, loadJob t files first = some job ∧ IsBound .default d ∧ ∀ shutdown,
    run t files shutdown (first :: rest) =
      runFiles t files (rest.length + 1) shutdown 0 d (first :: rest)) ∨
  arguments t files (first :: rest) = .error ("loading " ++ first)

/-- A document is taken for a request if it is a job, or if **it is no configuration either**. -/
theorem takesForRequest_iff {first : String} {rest : List String} {text : String}
    {entries : List (String × Value)} (hfile : files first = some text)
    (hparse : t.parse text = some (.table entries)) :
    TakesForRequest t files first rest ↔
      (Job.loadWith t text).isSome ∨ ¬ Config.Suits Toml.dialect entries := by
  have hjob : loadJob t files first = Job.loadWith t text := by simp [loadJob, hfile]
  have hconfig : (files first).bind (Config.loadWith t) =
      Config.read Toml.dialect (.table entries) := by
    simp [hfile, Config.loadWith, hparse]
  rw [← Config.isSome_read_iff, ← hconfig, ← hjob]
  constructor
  · rintro (⟨job, d, hload, -⟩ | hnone)
    · exact .inl (Option.isSome_of_eq_some hload)
    · refine .inr fun hsome => ?_
      obtain ⟨config, hload⟩ := Option.isSome_iff_exists.mp hsome
      simp only [arguments, hload] at hnone
      split at hnone <;> cases hnone
  · intro h
    cases hload : loadJob t files first with
    | some job =>
      obtain ⟨d, hd⟩ := exists_isBound_default
      refine .inl ⟨job, d, hload, hd, fun shutdown => ?_⟩
      simp only [run, arguments_eq_ok_iff.mpr (.requests hload)]
      exact hd.runConfigured_eq shutdown _
    | none =>
      rw [hload] at h
      have hnone : (files first).bind (Config.loadWith t) = none := by
        simpa using h
      exact .inr (by simp only [arguments, hload, hnone])

/-- **When a request is taken for a configuration, and what a completed run shows.** A document
that asks for an operation is taken for a request exactly if it is a job or one of the fields that
it shares with a configuration holds a value of the wrong kind. A run is completed exactly if
every argument that is begun, but for a configuration in front, is a job whose request succeeds:
every one at all, unless a shutdown is asked for. All of this holds for any way of reading texts. -/
theorem takesForRequest_iff_and_completed_iff (t : Codec) (files : Files) :
    (∀ first rest text entries operation, files first = some text →
      t.parse text = some (.table entries) → entries.lookup "op" = some operation →
        (TakesForRequest t files first rest ↔
          (Job.loadWith t text).isSome ∨ ¬ Config.Suits Toml.dialect entries)) ∧
    ∀ shutdown args, (run t files shutdown args).ending = .completed ↔
      ∃ config paths d, LedBy t files args config paths ∧ IsBound config d ∧
        Completes t files d (begun shutdown paths) := by
  constructor
  · intro first rest text entries operation hfile hparse _
    exact takesForRequest_iff hfile hparse
  · intro shutdown args
    exact ending_run_iff

/-- The line that asks for a composition. -/
def composeLine : Document.PlainLine := ⟨"op", "\"compose\"".toList, .string "compose"⟩

theorem isSound_composeLine : composeLine.IsSound := ⟨by decide, Document.shows_string rfl⟩

/-- A line that names no mode. -/
def dmaLine : Document.PlainLine := ⟨"write_mode", "\"dma\"".toList, .string "dma"⟩

/-- A request with a field that a configuration has, too, but that names no mode. -/
def oddRequest : Files := fun path =>
  if path = "f.toml" then some "op = \"compose\"\nwrite_mode = \"dma\"\n" else none

theorem parse_oddRequest :
    Codec.standard.parse "op = \"compose\"\nwrite_mode = \"dma\"\n" =
      some (.table [("op", .string "compose"), ("write_mode", .string "dma")]) := by
  have hsound : ∀ l ∈ [composeLine, dmaLine], l.IsSound := by
    intro l hl
    rcases List.mem_pair.mp hl with rfl | rfl
    · exact isSound_composeLine
    · exact ⟨by decide, Document.shows_string rfl⟩
  have htext : "op = \"compose\"\nwrite_mode = \"dma\"\n" =
      String.ofList ([composeLine, dmaLine].flatMap Document.PlainLine.chars) := rfl
  rw [htext, Codec.parse_standard]
  exact Document.parse_plainLines ⟨hsound, by decide⟩

theorem takesForRequest_oddRequest : TakesForRequest .standard oddRequest "f.toml" [] := by
  have htakes := (takesForRequest_iff_and_completed_iff .standard oddRequest).1 "f.toml" [] _ _ _
    rfl parse_oddRequest rfl
  refine htakes.mpr (.inr fun hsuits => ?_)
  obtain ⟨m, hname | ⟨_, -, htable⟩⟩ := hsuits.mode (.string "dma") rfl
  · have hnone : WriteMode.all.find? (fun m => m.name == "dma") = none := by decide
    exact List.find?_eq_none.mp hnone m m.mem_all (beq_iff_eq.mpr (Value.string.inj hname).symm)
  · cases htable

/-- A request that says no more than its operation. -/
def bareRequest : Files := fun path =>
  if path = "f.toml" then some "op = \"compose\"\n" else none

theorem parse_bareRequest :
    Codec.standard.parse "op = \"compose\"\n" = some (.table [("op", .string "compose")]) := by
  have hsound : ∀ l ∈ [composeLine], l.IsSound := by
    intro l hl
    obtain rfl := List.mem_singleton.mp hl
    exact isSound_composeLine
  have htext : "op = \"compose\"\n" =
      String.ofList ([composeLine].flatMap Document.PlainLine.chars) := rfl
  rw [htext, Codec.parse_standard]
  exact Document.parse_plainLines ⟨hsound, by decide⟩

/-- **The bare request runs as a configuration**, and the run is completed although no request
ran. -/
theorem not_takesForRequest_bareRequest :
    (∃ entries, Codec.standard.parse "op = \"compose\"\n" = some (.table entries) ∧
      entries.lookup "op" = some (.string "compose")) ∧
    ¬ TakesForRequest .standard bareRequest "f.toml" [] ∧
    (run .standard bareRequest none ["f.toml"]).ending = .completed := by
  have hfile : bareRequest "f.toml" = some "op = \"compose\"\n" := rfl
  have hjob : loadJob .standard bareRequest "f.toml" = none := by
    simp only [loadJob, hfile, Option.bind_some, Job.loadWith, parse_bareRequest]
    rfl
  have hconfig : (bareRequest "f.toml").bind (Config.loadWith .standard) = some .default := by
    simp only [hfile, Option.bind_some, Config.loadWith, parse_bareRequest]
    rfl
  refine ⟨⟨_, parse_bareRequest, rfl⟩, ?_, ?_⟩
  · rintro (⟨job, d, hload, -⟩ | hnone)
    · rw [hjob] at hload
      cases hload
    · rw [arguments_eq_ok_iff.mpr (.config hjob hconfig)] at hnone
      cases hnone
  · obtain ⟨d, hd⟩ := exists_isBound_default
    exact ending_run_iff.mpr ⟨.default, [], d, .config hjob hconfig, hd, .nil⟩

end Blitter.Replay
