import Blitter.Proofs.Device.Outcomes
import Blitter.Proofs.Interrupt

/-!
# When a request ends

On an engine that hangs, nothing is reported but what arrives from outside. A request then goes
through its waits one after the other, each from its own start of the engine on and up to its own
deadline (`RunsTo`), and what arrives leaves only one way for that (`RunsTo.unique`). What had
arrived before a start is forgotten, a status that decides nothing is passed over, and every status
that is consumed is acknowledged once, in order (`Device.waits_of_request`).
-/

namespace Blitter

open InterruptLine

/-! ### Acknowledgements in a log -/

/-- The words by which a log **acknowledges statuses**, in order. -/
def acknowledgements (log : List RegisterWrite) : List UInt32 :=
  (log.filter fun w => w.offset = UInt32.ofNat Register.interruptStatus).map RegisterWrite.value

theorem acknowledgements_append (log log' : List RegisterWrite) :
    acknowledgements (log ++ log') = acknowledgements log ++ acknowledgements log' := by
  simp only [acknowledgements, List.filter_append, List.map_append]

theorem acknowledgements_eq_nil {ws : List RegisterWrite}
    (h : ∀ w ∈ ws, w.offset ≠ UInt32.ofNat Register.interruptStatus) :
    acknowledgements ws = [] := by
  have hnone : ws.filter (fun w => w.offset = UInt32.ofNat Register.interruptStatus) = [] :=
    List.filter_eq_nil_iff.mpr fun w hw => by simpa using h w hw
  rw [acknowledgements, hnone, List.map_nil]

/-- A program acknowledges nothing, and neither does what links it to a chain. -/
theorem Register.ne_interruptStatus {o : UInt32} (h : InProgram o ∨ InChain o) :
    o ≠ UInt32.ofNat interruptStatus := by
  rintro rfl
  revert h
  decide

namespace Engine

variable {e : Engine}

theorem snd_reporting_of_hangs (h : e.hangs = true) (bits : UInt32) :
    (e.reporting bits).2 = none := by
  simp [reporting, store, h]

/-- An engine that hangs **raises nothing** when it is started on its registers. -/
theorem snd_write_startDirect_of_hangs (h : e.hangs = true) :
    (e.write (put Register.control Register.controlStart)).2 = none := by
  have hstarted : ({ e.started Register.controlStart with frames := e.frames + 1 }).hangs = true :=
    h
  rw [write_startDirect, snd_reporting_of_hangs hstarted]

/-- Neither does it when it is started on a chain. -/
theorem snd_write_startChain_of_hangs {bs rest : List CommandBuffer} {first : CommandBuffer}
    {wss : List (List RegisterWrite)} (hchain : IsChain wss bs first rest) (h : e.hangs = true) :
    ((e.based first rest).write (put Register.control startChain)).2 = none := by
  have hran := ((Worked.of_based e first rest).trans (.of_started _ startChain)).trans
    (.of_afterChain hchain _)
  rw [write_startChain hchain.toIsLinked, snd_reporting_of_hangs (hran.hangs.trans h)]

/-! ### What a start logs -/

theorem log_reporting (e : Engine) (bits : UInt32) : (e.reporting bits).1.log = e.log := rfl

theorem acknowledgements_replayAll (e : Engine) {ws : List RegisterWrite}
    (h : ∀ w ∈ ws, Register.InProgram w.offset ∨ Register.InChain w.offset) :
    acknowledgements (e.replayAll ws).log = acknowledgements e.log := by
  rw [log_replayAll, acknowledgements_append,
    acknowledgements_eq_nil fun w hw => Register.ne_interruptStatus (h w hw), List.append_nil]

theorem acknowledgements_started (e : Engine) (value : UInt32) :
    acknowledgements (e.started value).log = acknowledgements e.log := by
  have hstart : ∀ w ∈ [put Register.control value],
      w.offset ≠ UInt32.ofNat Register.interruptStatus := by
    rw [List.forall_mem_singleton]
    show UInt32.ofNat Register.control ≠ _
    decide
  rw [log_started, acknowledgements_append, acknowledgements_eq_nil hstart, List.append_nil]

/-- A start on the registers **acknowledges nothing**. -/
theorem acknowledgements_write_startDirect (e : Engine) :
    acknowledgements (e.write (put Register.control Register.controlStart)).1.log =
      acknowledgements e.log := by
  rw [write_startDirect]
  exact e.acknowledgements_started Register.controlStart

/-- Neither does a start on a chain, **whatever is replayed** from it. -/
theorem acknowledgements_write_startChain {bs rest : List CommandBuffer} {first : CommandBuffer}
    {wss : List (List RegisterWrite)} (h : IsChain wss bs first rest) (e : Engine) :
    acknowledgements ((e.based first rest).write (put Register.control startChain)).1.log =
      acknowledgements e.log := by
  have hbase : acknowledgements (baseWrites first.address first.entries) = [] :=
    acknowledgements_eq_nil fun w hw =>
      Register.ne_interruptStatus (.inr (inChain_baseWrites first.address first.entries w hw))
  have hreplayed : acknowledgements (replayed (BufferPool.link bs)) = [] :=
    acknowledgements_eq_nil fun w hw =>
      Register.ne_interruptStatus (inProgram_or_inChain_of_mem_replayed h.laid h.program w hw)
  rw [write_startChain h.toIsLinked, log_reporting, log_afterChain, acknowledgements_append,
    hreplayed, acknowledgements_started, log_based, acknowledgements_append, hbase]
  simp only [List.append_nil]

end Engine

/-! ### Waits -/

/-- The bit that tells of the end of what was started. -/
def WriteMode.awaited : WriteMode → UInt32
  | .direct => Status.frameDone
  | .chained => Status.chainDone

/-- How often a program is waited for. -/
def WriteMode.waits (p : Program) : WriteMode → Nat
  | .direct => p.passes.length
  | .chained => 1

/-- What a wait returns that ended like this. -/
def WaitEnd.outcome (timeout : UInt64) : WaitEnd → Outcome Unit
  | .done => .ok ()
  | .fault status => reject (.engineFault status)
  | .timeout => reject (.timeout timeout)

/-- **How waits end** that are gone through one after the other as long as they end well: the first
of them began at `kick` and looks at what arrives from `first` on, and each of the others begins
when the one before is over, with what arrives later. -/
inductive RunsTo (bitsAt : Nat → UInt32) (awaited : UInt32) (timeout : Nat) :
    (waits kick first : Nat) → WaitEnd → Nat → Prop
  | finished {kick first : Nat} : RunsTo bitsAt awaited timeout 0 kick first .done kick
  | next {waits kick first time stop : Nat} {ending : WaitEnd}
      (hdone : EndsAs bitsAt awaited first (kick + timeout) .done time)
      (hrest : RunsTo bitsAt awaited timeout waits time (time + 1) ending stop) :
      RunsTo bitsAt awaited timeout (waits + 1) kick first ending stop
  | failed {waits kick first stop : Nat} {ending : WaitEnd}
      (hends : EndsAs bitsAt awaited first (kick + timeout) ending stop)
      (hfailed : ending ≠ .done) :
      RunsTo bitsAt awaited timeout (waits + 1) kick first ending stop

/-- A single wait, however it ends. -/
theorem RunsTo.of_endsAs {bitsAt : Nat → UInt32} {awaited : UInt32} {timeout kick first stop : Nat}
    {ending : WaitEnd} (h : EndsAs bitsAt awaited first (kick + timeout) ending stop) :
    RunsTo bitsAt awaited timeout 1 kick first ending stop := by
  by_cases hdone : ending = .done
  · subst hdone
    exact .next h .finished
  · exact .failed h hdone

/-- **How waits end, and when, is determined** by what arrives. -/
theorem RunsTo.unique {bitsAt : Nat → UInt32} {awaited : UInt32}
    {timeout waits kick first stop stop' : Nat} {ending ending' : WaitEnd}
    (h : RunsTo bitsAt awaited timeout waits kick first ending stop)
    (h' : RunsTo bitsAt awaited timeout waits kick first ending' stop') :
    ending = ending' ∧ stop = stop' := by
  induction h with
  | finished =>
    cases h'
    exact ⟨rfl, rfl⟩
  | next hdone _ ih =>
    cases h' with
    | next hdone' hrest' =>
      obtain ⟨-, rfl⟩ := hdone.unique hdone'
      exact ih hrest'
    | failed hends' hfailed' => exact absurd (hends'.unique hdone).1 hfailed'
  | failed hends hfailed =>
    cases h' with
    | next hdone' _ => exact absurd (hends.unique hdone').1 hfailed
    | failed hends' _ => exact hends.unique hends'

/-- Waits go on in time. -/
theorem RunsTo.le {bitsAt : Nat → UInt32} {awaited : UInt32} {timeout waits kick first stop : Nat}
    {ending : WaitEnd} (h : RunsTo bitsAt awaited timeout waits kick first ending stop)
    (hfirst : first = kick + 1) : kick ≤ stop := by
  induction h with
  | finished => exact Nat.le_refl _
  | next hdone _ ih =>
    have htime := hdone.le_stop (by omega)
    have hrest := ih rfl
    omega
  | failed hends _ =>
    have hstop := hends.le_stop (by omega)
    omega

namespace Device

variable {d d' d'' : Device} {bitsAt : Nat → UInt32} {first stop : Nat} {awaited : UInt32}

/-- The device **has waited** until some time: it acknowledged what arrived by then, and the rest is
still to come. -/
structure Awaited (d d' : Device) (bitsAt : Nat → UInt32) (first stop : Nat) : Prop where
  now : d'.line.now = stop
  due : Brings d'.line.due (stop + 1) bitsAt
  acknowledged : acknowledgements d'.engine.log =
    acknowledgements d.engine.log ++ consumed bitsAt first stop

theorem Awaited.trans {time : Nat} (h : d.Awaited d' bitsAt first time)
    (h' : d'.Awaited d'' bitsAt (time + 1) stop) (hfirst : first ≤ time + 1) (hstop : time ≤ stop) :
    d.Awaited d'' bitsAt first stop where
  now := h'.now
  due := h'.due
  acknowledged := by
    rw [h'.acknowledged, h.acknowledged, List.append_assoc, consumed_append hfirst hstop]

/-- An access on which nothing is raised leaves the line alone. -/
theorem line_access {a : Access} (h : (d.engine.access a).2 = none) :
    (d.access a).line = d.line := by
  simp only [access, h]

/-- What was seen **is acknowledged, once each**, and time stands still. -/
theorem acknowledge_spec (d : Device) (awaited : UInt32) (seen : List UInt32) :
    (d.acknowledge awaited seen).line = d.line ∧
      acknowledgements (d.acknowledge awaited seen).engine.log =
        acknowledgements d.engine.log ++ seen := by
  induction seen generalizing d with
  | nil => exact ⟨rfl, (List.append_nil _).symm⟩
  | cons status seen ih =>
    have hlog : (d.access (.set Register.interruptStatus status)).engine.log =
        d.engine.log ++ [put Register.interruptStatus status] :=
      d.engine.log_cons (put Register.interruptStatus status)
    have hone : acknowledgements [put Register.interruptStatus status] = [status] := by
      simp [acknowledgements, put]
    have hstep (events : List Event) :
        (((d.access (.set Register.interruptStatus status)).report events).acknowledge awaited
            seen).line = d.line ∧
          acknowledgements (((d.access (.set Register.interruptStatus status)).report
              events).acknowledge awaited seen).engine.log =
            acknowledgements d.engine.log ++ status :: seen := by
      obtain ⟨hline, hacknowledged⟩ :=
        ih ((d.access (.set Register.interruptStatus status)).report events)
      refine ⟨hline, hacknowledged.trans ?_⟩
      show acknowledgements (d.access (.set Register.interruptStatus status)).engine.log ++ seen = _
      rw [hlog, acknowledgements_append, hone, List.append_assoc]
      rfl
    simp only [acknowledge]
    split
    · have hquietly := hstep []
      rwa [report_nil] at hquietly
    · exact hstep _

/-- **A wait** with nothing pending ends as what is due says. -/
theorem await_spec (hknown : awaited &&& Status.known = awaited) (hne : awaited ≠ 0)
    (hpending : d.line.pending = 0) (hdue : Brings d.line.due first bitsAt)
    (hfirst : first ≤ d.line.now + 1) :
    ∃ ending stop, EndsAs bitsAt awaited first (d.line.now + d.timeout.toNat) ending stop ∧
      (d.await awaited).2 = ending.outcome d.timeout ∧
      d.Awaited (d.await awaited).1 bitsAt first stop := by
  obtain ⟨stop, later, hends, hline, hlater, hseen⟩ := awaitDue_spec hknown hne hdue
    (show first ≤ d.line.now + d.timeout.toNat + 1 by omega)
  have hwaited : d.line.await awaited (d.line.now + d.timeout.toNat) =
      awaitDue awaited (d.line.now + d.timeout.toNat) d.line.due :=
    if_neg (not_not_intro hpending)
  rw [← hwaited] at hends hline hseen
  obtain ⟨waited, heq⟩ :
      ∃ waited, d.line.await awaited (d.line.now + d.timeout.toNat) = waited := ⟨_, rfl⟩
  rw [heq] at hends hline hseen
  obtain ⟨hkept, hacknowledged⟩ :=
    acknowledge_spec { d with line := waited.line } awaited waited.seen
  have htimeout := (worked_acknowledge { d with line := waited.line } awaited waited.seen).timeout
  refine ⟨waited.ending, stop, hends, ?_⟩
  have hawaited : d.Awaited (({ d with line := waited.line }).acknowledge awaited waited.seen)
      bitsAt first stop := by
    have hstopped : (({ d with line := waited.line }).acknowledge awaited waited.seen).line =
        ⟨0, stop, later⟩ := hkept.trans hline
    refine ⟨by rw [hstopped], ?_, ?_⟩
    · rw [hstopped]
      exact hlater
    · rw [← hseen]
      exact hacknowledged
  simp only [await, heq]
  cases waited.ending with
  | done => exact ⟨rfl, hawaited⟩
  | fault status => exact ⟨rfl, hawaited⟩
  | timeout => exact ⟨congrArg (fun t => reject (.timeout t)) htimeout, hawaited⟩

/-- A wait after a start that raised nothing: what was pending on the line **has been forgotten**,
and nothing was acknowledged meanwhile. -/
theorem await_of_started {k : Device} (hknown : awaited &&& Status.known = awaited)
    (hne : awaited ≠ 0) (hline : k.line = d.line.clear) (htimeout : k.timeout = d.timeout)
    (hlog : acknowledgements k.engine.log = acknowledgements d.engine.log)
    (hdue : Brings d.line.due first bitsAt) (hfirst : first ≤ d.line.now + 1) :
    ∃ ending stop, EndsAs bitsAt awaited first (d.line.now + d.timeout.toNat) ending stop ∧
      (k.await awaited).2 = ending.outcome d.timeout ∧
      d.Awaited (k.await awaited).1 bitsAt first stop := by
  have hpending : k.line.pending = 0 := by rw [hline, InterruptLine.clear]
  have hdue' : Brings k.line.due first bitsAt := by rwa [hline]
  have hnow : k.line.now = d.line.now := by rw [hline, InterruptLine.clear]
  obtain ⟨ending, stop, hends, hresult, hawaited⟩ :=
    await_spec hknown hne hpending hdue' (by rwa [hnow])
  rw [hnow, htimeout] at hends
  rw [htimeout] at hresult
  exact ⟨ending, stop, hends, hresult, hawaited.now, hawaited.due,
    by rw [hawaited.acknowledged, hlog]⟩

/-! ### Programs on an engine that hangs -/

section Hanging

variable {passes : List Pass} {pass : Pass}

/-- One pass is waited for **from its start on**. -/
theorem runPass_spec (hhangs : d.engine.hangs = true) (hpass : pass.IsPlain)
    (hdue : Brings d.line.due first bitsAt) (hfirst : first ≤ d.line.now + 1) :
    ∃ ending stop,
      EndsAs bitsAt Status.frameDone first (d.line.now + d.timeout.toNat) ending stop ∧
      (d.runPass pass).2 = ending.outcome d.timeout ∧
      d.Awaited (d.runPass pass).1 bitsAt first stop := by
  have hwritten := accessAll_clearLine d hpass
  have hwrites := Engine.Worked.of_replayAll d.engine pass.writes
  have hnone := Engine.snd_write_startDirect_of_hangs (hwrites.hangs.trans hhangs)
  have hlogged : acknowledgements (d.engine.replayAll pass.writes).log =
      acknowledgements d.engine.log :=
    d.engine.acknowledgements_replayAll fun w hw => .inl (hpass.program w hw)
  have hlog := (d.engine.replayAll pass.writes).acknowledgements_write_startDirect.trans hlogged
  rw [← Engine.access_set] at hnone hlog
  rw [runPass, hwritten]
  exact await_of_started (by decide) (by decide) (line_access hnone) rfl hlog hdue hfirst

/-- **Register by register** each pass is waited for in turn, until a wait fails. -/
theorem runDirect_spec (hhangs : d.engine.hangs = true) (hplain : ∀ pass ∈ passes, pass.IsPlain)
    (hne : passes ≠ []) (hdue : Brings d.line.due first bitsAt) (hfirst : first ≤ d.line.now + 1) :
    ∃ ending stop,
      RunsTo bitsAt Status.frameDone d.timeout.toNat passes.length d.line.now first ending stop ∧
      (d.runDirect passes).2 = ending.outcome d.timeout ∧
      d.Awaited (d.runDirect passes).1 bitsAt first stop := by
  -- a later pass begins where the one before ended, and looks at what arrives after that
  induction passes generalizing d first with
  | nil => exact absurd rfl hne
  | cons pass passes ih =>
    obtain ⟨hpass, hpasses⟩ := List.forall_mem_cons.mp hplain
    obtain ⟨ending, time, hends, hresult, hawaited⟩ := runPass_spec hhangs hpass hdue hfirst
    have hworked := worked_runPass d hpass
    have htime : first ≤ time + 1 := hends.le_stop (by omega)
    rcases hrun : d.runPass pass with ⟨d₁, e | ⟨⟨⟩⟩⟩
    · rw [hrun] at hresult hawaited
      have hfailed : ending ≠ .done := by
        rintro rfl
        cases hresult
      rw [runDirect_cons_of_error hrun]
      exact ⟨ending, time, .failed hends hfailed, hresult, hawaited⟩
    · rw [hrun] at hresult hawaited hworked
      obtain rfl : ending = .done := by
        cases ending with
        | done => rfl
        | fault => cases hresult
        | timeout => cases hresult
      rw [runDirect_cons_of_ok hrun]
      obtain rfl := hawaited.now
      cases passes with
      | nil => exact ⟨.done, _, .next hends .finished, rfl, hawaited⟩
      | cons next passes =>
        obtain ⟨ending, stop, hruns, hresult, hrest⟩ := ih (hworked.engine.hangs.trans hhangs)
          hpasses (List.cons_ne_nil _ _) hawaited.due (Nat.le_refl _)
        rw [hworked.timeout] at hruns hresult
        exact ⟨ending, stop, .next hends hruns, hresult,
          hawaited.trans hrest htime (hruns.le rfl)⟩

/-- **A chain** is waited for once. -/
theorem runChained_spec {pool : BufferPool} (hhangs : d.engine.hangs = true)
    (hpool : d.pool.Ready) (hload : d.pool.load passes = (pool, .ok ()))
    (hplain : ∀ pass ∈ passes, pass.IsPlain) (hne : passes ≠ [])
    (hdue : Brings d.line.due first bitsAt) (hfirst : first ≤ d.line.now + 1) :
    ∃ ending stop,
      EndsAs bitsAt Status.chainDone first (d.line.now + d.timeout.toNat) ending stop ∧
      (d.runChained passes).2 = ending.outcome d.timeout ∧
      d.Awaited (d.runChained passes).1 bitsAt first stop := by
  obtain ⟨first, rest, hchain⟩ := exists_isChain_of_load hpool hload hplain hne
  have hnone := Engine.snd_write_startChain_of_hangs hchain hhangs
  have hlog := Engine.acknowledgements_write_startChain hchain d.engine
  have hline : (d.withChain first rest).line = d.line.clear := rfl
  have htimeout : (d.withChain first rest).timeout = d.timeout := rfl
  rw [← Engine.access_set, ← engine_withChain] at hnone hlog
  rw [runChained_eq hpool hload hchain.linked]
  generalize d.withChain first rest = k at hnone hlog hline htimeout ⊢
  exact await_of_started (by decide) (by decide) ((line_access hnone).trans hline) htimeout hlog
    hdue hfirst

end Hanging

/-! ### Requests on an engine that hangs -/

section Request

variable {o : Order} {p : Program}

/-- What is tried for an order ends **as its waits do**. -/
theorem attempt_spec (hhangs : d.engine.hangs = true) (hpool : d.pool.Ready)
    (hcompile : d.compiler.compile o.job = .ok p)
    (hload : d.mode = .chained → (d.pool.load p.passes).2 = .ok ()) :
    ∃ ending stop,
      RunsTo (arriving o.arrivals) d.mode.awaited d.timeout.toNat (d.mode.waits p) 0 0 ending stop ∧
      (d.attempt o).2 = ending.outcome d.timeout ∧
      d.Awaited (d.attempt o).1 (arriving o.arrivals) 0 stop := by
  have hplain := Compiler.isPlain_of_compile hcompile
  have hne := (Compiler.produces_of_compile hcompile).passes_ne_nil
  have hdue : Brings ((d.taken o).accepted p).line.due 0 (arriving o.arrivals) :=
    brings_start d.line.pending o.arrivals
  rw [attempt_of_compile hcompile]
  cases hmode : d.mode with
  | direct =>
    rw [submit_of_direct (d := d.taken o) hmode]
    obtain ⟨ending, stop, hruns, hresult, hawaited⟩ :=
      runDirect_spec (d := (d.taken o).accepted p) hhangs hplain hne hdue (Nat.zero_le _)
    exact ⟨ending, stop, hruns, hresult, hawaited.now, hawaited.due, hawaited.acknowledged⟩
  | chained =>
    rw [submit_of_chained (d := d.taken o) hmode]
    obtain ⟨ending, stop, hends, hresult, hawaited⟩ :=
      runChained_spec (d := (d.taken o).accepted p) hhangs hpool (Prod.ext rfl (hload hmode))
        hplain hne hdue (Nat.zero_le _)
    exact ⟨ending, stop, .of_endsAs hends, hresult, hawaited.now, hawaited.due,
      hawaited.acknowledged⟩

/-- Cleaning up takes no time and **acknowledges nothing**. -/
theorem request_spec (d : Device) (o : Order) :
    (d.request o).2 = (d.attempt o).2 ∧ (d.request o).1.line.now = (d.attempt o).1.line.now ∧
      acknowledgements (d.request o).1.engine.log =
        acknowledgements (d.attempt o).1.engine.log := by
  obtain ⟨_, hrequest⟩ := exists_request_eq d o
  rw [hrequest]
  rcases d.attempt o with ⟨tried, (why | _) | ⟨⟨⟩⟩⟩
  · have hreset : acknowledgements Engine.resetWrites = [] := by decide
    dsimp only
    rw [recover_eq]
    refine ⟨rfl, rfl, ?_⟩
    show acknowledgements tried.engine.readied.log = acknowledgements tried.engine.log
    rw [Engine.log_readied, acknowledgements_append, hreset, List.append_nil]
  · exact ⟨rfl, rfl, rfl⟩
  · exact ⟨rfl, rfl, rfl⟩

variable {config : Config} {engine : Engine} {d₀ : Device} {turns : List Turn}

theorem timeout_of_probe (h : probe config engine = .ok d₀) : d₀.timeout = config.timeout := by
  unfold probe at h
  split at h
  case h_1 g hg =>
    obtain ⟨pool, -, h⟩ := Outcome.bind_eq_ok_iff.mp h
    cases h
    rfl
  case h_2 => cases h

/-- **A request ends exactly when it should**, on an engine that hangs and after any history of
requests and interrupts. It waits for the end of each pass, or once for the end of its chain. Each
wait begins with a start of the engine, and the first instant decides it that brings an error or the
awaited bit, if it comes within the time set: with an error the request fails with the known bits of
that instant, and otherwise it goes on. If there is none, it fails at the deadline. All that arrives
by then is acknowledged once, instant by instant, and nothing that arrived before the request
counts. -/
theorem waits_of_request (hprobe : probe config engine = .ok d₀) (hhangs : engine.hangs = true)
    (hd : (d₀.live turns).1 = d) (hcompile : d₀.compiler.compile o.job = .ok p)
    (hroom : d₀.mode = .chained → config.HasRoom p) :
    ∃ ending stop,
      RunsTo (arriving o.arrivals) d₀.mode.awaited config.timeout.toNat (d₀.mode.waits p) 0 0 ending
        stop ∧
      (d.request o).2 = ending.outcome config.timeout ∧
      (d.request o).1.line.now = stop ∧
      acknowledgements (d.request o).1.engine.log =
        acknowledgements d.engine.log ++ consumed (arriving o.arrivals) 0 stop := by
  have hready := ready_of_probe hprobe
  have hkept : d₀.Kept d := hd ▸ kept_live hready turns
  have htimeout : d.timeout = config.timeout := hkept.timeout.trans (timeout_of_probe hprobe)
  have hhangs' : d.engine.hangs = true := by
    obtain ⟨-, -, -, -, -, -, -, hengine⟩ := probe_eq_ok hprobe
    rw [hkept.hangs, hengine, Engine.hangs_readied, hhangs]
  have hload : d.mode = .chained → (d.pool.load p.passes).2 = .ok () := by
    rw [hkept.mode, hkept.pool]
    exact fun hmode => (snd_load_eq_ok_iff hprobe hcompile).mpr (hroom hmode)
  obtain ⟨ending, stop, hruns, hresult, hawaited⟩ :=
    attempt_spec hhangs' (hkept.pool ▸ hready) (hkept.compiler ▸ hcompile) hload
  obtain ⟨hreturned, hnow, hlog⟩ := request_spec d o
  rw [hkept.mode, htimeout] at hruns
  rw [htimeout] at hresult
  exact ⟨ending, stop, hruns, hreturned.trans hresult, hnow.trans hawaited.now,
    hlog.trans hawaited.acknowledged⟩

/-- A mirrored layer of video in two passes. The first ends well. During the second the end of a
chain is reported, with a bit that means nothing, and then an error. -/
def noisyVideo : Order :=
  ⟨.compose (Compiler.wideVideo .hFlip ⟨0, 0, 512, 256⟩),
    [(4, Status.writeError ||| Status.frameDone), (1, Status.frameDone),
      (3, Status.chainDone ||| 0x80000000)]⟩

/-- Pass by pass, the error ends the request, and an error that had arrived before does not. All
three statuses are acknowledged. As one chain, for which there is room, the request ends well before
the error comes, and the end of a pass that comes first is acknowledged and waited over. -/
theorem waits_noisyVideo :
    (∃ d₀ d p, probe Config.default (.create .normal true none) = .ok d₀ ∧
      (d₀.live [.interrupt Status.readError]).1 = d ∧
      d₀.compiler.compile noisyVideo.job = .ok p ∧
      RunsTo (arriving noisyVideo.arrivals) d₀.mode.awaited 1000 (d₀.mode.waits p) 0 0
        (.fault (Status.writeError ||| Status.frameDone)) 4 ∧
      (d.request noisyVideo).2 =
        reject (.engineFault (Status.writeError ||| Status.frameDone)) ∧
      acknowledgements (d.request noisyVideo).1.engine.log =
        acknowledgements d.engine.log ++
          [Status.frameDone, Status.chainDone, Status.writeError ||| Status.frameDone]) ∧
    ∃ d₀ d p, probe { Config.default with mode := .chained } (.create .normal true none) = .ok d₀ ∧
      (d₀.live [.interrupt Status.readError]).1 = d ∧
      d₀.compiler.compile noisyVideo.job = .ok p ∧ p.passes.length = 2 ∧
      Config.HasRoom { Config.default with mode := .chained } p ∧
      RunsTo (arriving noisyVideo.arrivals) Status.chainDone 1000 1 0 0 .done 3 ∧
      (d.request noisyVideo).2 = .ok () ∧
      acknowledgements (d.request noisyVideo).1.engine.log =
        acknowledgements d.engine.log ++ [Status.frameDone, Status.chainDone] := by
  constructor
  case left =>
    obtain ⟨d₀, hprobe⟩ : ∃ d₀, probe Config.default (.create .normal true none) = .ok d₀ :=
      ⟨_, rfl⟩
    obtain ⟨d, hd⟩ : ∃ d, (d₀.live [.interrupt Status.readError]).1 = d := ⟨_, rfl⟩
    have hrun : (probe Config.default (.create .normal true none)).map (fun d₀ =>
        let returned := (d₀.live [.interrupt Status.readError]).1.request noisyVideo
        (d₀.mode, (d₀.compiler.compile noisyVideo.job).map fun p => p.passes.length,
          returned.2, returned.1.line.now)) =
          .ok (.direct, .ok 2,
            reject (.engineFault (Status.writeError ||| Status.frameDone)), 4) := by
      decide +kernel
    rw [hprobe] at hrun
    simp only [Except.map, Except.ok.injEq, Prod.mk.injEq, hd] at hrun
    obtain ⟨hmode, hcompiles, hfails, hstops⟩ := hrun
    obtain ⟨p, hcompile, -⟩ := Outcome.map_eq_ok_iff.mp hcompiles
    obtain ⟨ending, stop, hruns, hresult, hnow, hlog⟩ :=
      waits_of_request hprobe rfl hd hcompile (by rw [hmode]; nofun)
    obtain rfl : stop = 4 := hnow.symm.trans hstops
    have hending : ending = .fault (Status.writeError ||| Status.frameDone) := by
      rw [hfails] at hresult
      cases ending with
      | done => cases hresult
      | fault status =>
        cases hresult
        rfl
      | timeout => cases hresult
    subst hending
    have hconsumed : consumed (arriving noisyVideo.arrivals) 0 4 =
        [Status.frameDone, Status.chainDone, Status.writeError ||| Status.frameDone] := by
      decide +kernel
    have htimeout : Config.default.timeout.toNat = 1000 := by decide
    rw [hconsumed] at hlog
    rw [htimeout] at hruns
    exact ⟨d₀, d, p, hprobe, hd, hcompile, hruns, hfails, hlog⟩
  case right =>
    obtain ⟨d₀, hprobe⟩ : ∃ d₀, probe { Config.default with mode := .chained }
        (.create .normal true none) = .ok d₀ := ⟨_, rfl⟩
    obtain ⟨d, hd⟩ : ∃ d, (d₀.live [.interrupt Status.readError]).1 = d := ⟨_, rfl⟩
    have hcompiled :
        (probe { Config.default with mode := .chained } (.create .normal true none)).map
          (fun d₀ => (d₀.mode, (d₀.compiler.compile noisyVideo.job).map fun p =>
            (p.passes.length,
              decide (Config.HasRoom { Config.default with mode := .chained } p)))) =
          .ok (.chained, .ok (2, true)) := by
      decide +kernel
    rw [hprobe] at hcompiled
    simp only [Except.map, Except.ok.injEq, Prod.mk.injEq] at hcompiled
    obtain ⟨hmode, hcompiles⟩ := hcompiled
    obtain ⟨p, hcompile, hp⟩ := Outcome.map_eq_ok_iff.mp hcompiles
    obtain ⟨hlength, hroom⟩ := Prod.mk.inj hp
    obtain ⟨ending, stop, hruns, hresult, -, hlog⟩ :=
      waits_of_request hprobe rfl hd hcompile fun _ => of_decide_eq_true hroom
    rw [hmode] at hruns
    have hundecided : ∀ t < 3, ¬ Decides Status.chainDone (arriving noisyVideo.arrivals t) := by
      decide +kernel
    have hended : RunsTo (arriving noisyVideo.arrivals) Status.chainDone 1000 1 0 0 .done 3 :=
      .of_endsAs (.done (by decide) (by decide) (fun t _ ht => hundecided t ht) (by decide +kernel)
        (by decide +kernel))
    obtain ⟨rfl, rfl⟩ := hruns.unique hended
    have hconsumed : consumed (arriving noisyVideo.arrivals) 0 3 =
        [Status.frameDone, Status.chainDone] := by
      decide +kernel
    rw [hconsumed] at hlog
    exact ⟨d₀, d, p, hprobe, hd, hcompile, hlength, of_decide_eq_true hroom, hended, hresult, hlog⟩

end Request

end Device

end Blitter
