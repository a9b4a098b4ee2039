import Blitter.Proofs.Interrupt

/-!
# Nothing is lost and nothing comes twice

A completion keeps bits and a wake-up apart, and the two drift: after a clear, or once bits have
been taken, a wake-up may be stored although nothing has arrived. It makes no difference. What a
waiter is owed are the bits signalled since they were last cleared or returned (`Completion.owed`),
and the status of a completion is what is owed, through every sequence of signals, clears and waits
(`Completion.status_live`). A wait returns what is owed at once, or else the bits of the first
instant that brings any (`Completion.returns_of_live`).
-/

namespace Blitter

namespace Completion

open InterruptLine (IsFirst)

variable (c : Completion)

/-! ### The bits of a completion -/

theorem status_signalAll (statuses : List UInt32) :
    (c.signalAll statuses).status = c.status ||| joined statuses := by
  induction statuses generalizing c with
  | nil => exact UInt32.or_zero.symm
  | cons status statuses ih =>
    rw [joined_cons, ← UInt32.or_assoc]
    exact ih (c.signal status)

/-- Whoever sleeps or not, **all bits arrive**. -/
theorem status_rouse (statuses : List UInt32) :
    (c.rouse statuses).status = c.status ||| joined statuses := by
  cases statuses with
  | nil => exact UInt32.or_zero.symm
  | cons status statuses => rw [rouse, status_signalAll, joined_cons, UInt32.or_assoc]

theorem status_signalLater (due : List (Nat × List UInt32)) :
    (c.signalLater due).status = c.status ||| joined (due.flatMap Prod.snd) := by
  induction due generalizing c with
  | nil => exact UInt32.or_zero.symm
  | cons e due ih =>
    have hcons : c.signalLater (e :: due) = (c.signalAll e.2).signalLater due := rfl
    rw [hcons, ih, status_signalAll, List.flatMap_cons, joined_append, UInt32.or_assoc]

/-- **A look takes what there is**, or leaves nothing at all. -/
theorem look_eq :
    c.look =
      if c.status ≠ 0 then (some (c.status &&& Status.known), c.clear) else (none, empty) := by
  obtain ⟨status, wakeup⟩ := c
  by_cases hstatus : status = 0
  · subst hstatus
    cases wakeup <;> simp [look, empty]
  · rw [look, if_pos hstatus, if_pos hstatus]

/-! ### Waiting -/

section Wait

variable {c : Completion} {timeout : Nat} {schedule : List (Nat × UInt32)}

/-- Statuses that come one by one bring **the bits of their instants**. -/
theorem joined_statuses {due : List (Nat × UInt32)} {statuses : Nat → List UInt32}
    (h : ∀ e ∈ due, e.2 = joined (statuses e.1)) :
    joined ((due.map fun e => (e.1, statuses e.1)).flatMap Prod.snd) =
      joined (due.map Prod.snd) := by
  rw [joined_flatMap, List.map_map]
  exact congrArg joined (List.map_congr_left fun e he => (h e he).symm)

/-- What is due on a line brings the statuses of its instant. -/
theorem bits_due_start (schedule : List (Nat × UInt32)) :
    ∀ e ∈ (InterruptLine.start 0 schedule).due, e.2 = joined (statusesAt schedule e.1) :=
  (InterruptLine.brings_start 0 schedule).bits

/-- A sleeper **finds what is due first** on an interrupt line, and leaves what it leaves. -/
theorem sleep_eq {deadline : Nat} {due : List (Nat × UInt32)} {statuses : Nat → List UInt32}
    (h : ∀ e ∈ due, e.2 = joined (statuses e.1)) (hc : c.status = 0) :
    (c.sleep deadline (due.map fun e => (e.1, statuses e.1))).1 =
        ⟨(InterruptLine.firstDue deadline due).1, (InterruptLine.firstDue deadline due).2.now⟩ ∧
      (c.sleep deadline (due.map fun e => (e.1, statuses e.1))).2.status =
        (InterruptLine.firstDue deadline due).2.finish := by
  induction due generalizing c with
  | nil => exact ⟨rfl, hc⟩
  | cons e due ih =>
    obtain ⟨time, bits⟩ := e
    obtain ⟨hbits, hdue⟩ := List.forall_mem_cons.mp h
    have hroused : (c.rouse (statuses time)).status = bits := by
      rw [status_rouse, hc, UInt32.zero_or, ← hbits]
    rw [List.map_cons, sleep, InterruptLine.firstDue]
    split
    · refine ⟨rfl, ?_⟩
      rw [status_signalLater, InterruptLine.finish_eq, hc, ← joined_statuses h]
      rfl
    · rw [look_eq, hroused]
      by_cases hzero : bits = 0
      · rw [if_neg (not_not_intro hzero), if_pos hzero]
        exact ih hdue rfl
      · rw [if_pos hzero, if_neg hzero]
        refine ⟨rfl, ?_⟩
        rw [status_signalLater, InterruptLine.finish_eq, ← joined_statuses hdue]
        rfl

/-- A completion **does what an interrupt line does** on which its bits are pending, with a wake-up
or without. -/
theorem wait_eq (c : Completion) (timeout : Nat) (schedule : List (Nat × UInt32)) :
    (c.wait timeout schedule).1 =
        ⟨((InterruptLine.start c.status schedule).wait timeout).1,
          ((InterruptLine.start c.status schedule).wait timeout).2.now⟩ ∧
      (c.wait timeout schedule).2.status =
        ((InterruptLine.start c.status schedule).wait timeout).2.finish := by
  rw [wait, look_eq, InterruptLine.wait_start]
  by_cases hstatus : c.status = 0
  · rw [if_neg (not_not_intro hstatus), if_neg (not_not_intro hstatus)]
    exact sleep_eq (bits_due_start schedule) rfl
  · rw [if_pos hstatus, if_pos hstatus]
    refine ⟨rfl, ?_⟩
    rw [status_signalLater, InterruptLine.finish_eq, instants,
      joined_statuses (bits_due_start schedule)]
    rfl

/-- How a wait **returns** that is owed some bits: with these at once if there are any, and
otherwise with the bits of the first instant that brings any before its time is over. -/
inductive Returns (owed : UInt32) (timeout : Nat) (schedule : List (Nat × UInt32)) : Return → Prop
  | owed (howed : owed ≠ 0) : Returns owed timeout schedule ⟨some (owed &&& Status.known), 0⟩
  | arrived {time : Nat} (howed : owed = 0) (hfirst : IsFirst 0 (arriving schedule) time)
      (htime : time ≤ timeout) :
      Returns owed timeout schedule ⟨some (arriving schedule time &&& Status.known), time⟩
  | nothing (howed : owed = 0) (hnone : ∀ time ≤ timeout, arriving schedule time = 0) :
      Returns owed timeout schedule ⟨none, timeout⟩

/-- A wait is **owed the bits of its completion**. -/
theorem returns_wait (c : Completion) (timeout : Nat) (schedule : List (Nat × UInt32)) :
    Returns c.status timeout schedule (c.wait timeout schedule).1 := by
  rw [(wait_eq c timeout schedule).1, InterruptLine.wait_start]
  by_cases hstatus : c.status = 0
  · rw [if_neg (not_not_intro hstatus)]
    have hstart := InterruptLine.brings_start 0 schedule
    rcases InterruptLine.firstDue_spec hstart (Nat.zero_le (timeout + 1)) with
      ⟨time, later, hfirst, htime, heq, -⟩ | ⟨later, hnone, heq, -⟩
    · rw [heq]
      exact .arrived hstatus hfirst htime
    · rw [heq]
      exact .nothing hstatus fun time htime => hnone time (Nat.zero_le _) htime
  · rw [if_pos hstatus]
    exact .owed hstatus

end Wait

/-! ### Everything that happens -/

/-- What **happens to a completion**. -/
inductive Occurrence where
  | signalled (status : UInt32)
  | cleared
  /-- A wait returned. -/
  | returned (status : Option UInt32)

/-- What is owed to a waiter after one more occurrence. -/
def owe (bits : UInt32) : Occurrence → UInt32
  | .signalled status => bits ||| status
  | .cleared => 0
  | .returned (some _) => 0
  | .returned none => bits

/-- The bits that are **owed to a waiter**: all that were signalled since the last clear or the last
wait that returned a status. -/
def owed (history : List Occurrence) : UInt32 := history.foldl owe 0

/-- A step that a completion is taken through. -/
inductive Turn where
  | signal (status : UInt32)
  | clear
  /-- A wait, while signals come at given times. -/
  | wait (timeout : Nat) (schedule : List (Nat × UInt32))

/-- The signals that come during a wait do so **after it began**. -/
def Turn.IsLater : Turn → Prop
  | .wait _ schedule => ∀ e ∈ schedule, 0 < e.1
  | _ => True

/-- The signals of a schedule that come at times of some kind. -/
def signalled (schedule : List (Nat × UInt32)) (when : Nat → Bool) : List Occurrence :=
  ((instants schedule).filter fun e => when e.1).flatMap fun e => e.2.map .signalled

/-- The completion after a step, and what happened, in order. A wait that returns is over before the
signals of later instants come. -/
def turn (c : Completion) : Turn → Completion × List Occurrence
  | .signal status => (c.signal status, [.signalled status])
  | .clear => (c.clear, [.cleared])
  | .wait timeout schedule =>
    let (returned, after) := c.wait timeout schedule
    (after, signalled schedule (· ≤ returned.time) ++ .returned returned.status ::
      signalled schedule (returned.time < ·))

/-- The completion after several steps, and **all that happened**. -/
def live (c : Completion) : List Turn → Completion × List Occurrence
  | [] => (c, [])
  | turn :: turns =>
    let (c, happened) := c.turn turn
    let (c, later) := c.live turns
    (c, happened ++ later)

section History

theorem owed_append (history : List Occurrence) (happened : List Occurrence) :
    owed (history ++ happened) = happened.foldl owe (owed history) := List.foldl_append

/-- Signals **add their bits** to what is owed. -/
theorem foldl_owe_signalled (schedule : List (Nat × UInt32)) (when : Nat → Bool) (bits : UInt32) :
    (signalled schedule when).foldl owe bits =
      bits ||| joined (((InterruptLine.start 0 schedule).due.filter fun e => when e.1).map
        Prod.snd) := by
  have hdue := bits_due_start schedule
  have hinstants : (instants schedule).filter (fun e => when e.1) =
      ((InterruptLine.start 0 schedule).due.filter fun e => when e.1).map
        fun e => (e.1, statusesAt schedule e.1) := by
    rw [instants, List.filter_map]
    rfl
  rw [signalled, List.foldl_flatMap, hinstants,
    ← joined_statuses fun e he => hdue e (List.mem_filter.mp he).1, ← foldl_or, List.foldl_flatMap]
  simp only [List.foldl_map]
  rfl

variable {c : Completion} {history : List Occurrence}

/-- After a wait, a completion holds **what is owed to the next one**. -/
theorem status_wait (hc : c.status = owed history) {timeout : Nat} {schedule : List (Nat × UInt32)}
    (h : ∀ e ∈ schedule, 0 < e.1) :
    (c.turn (.wait timeout schedule)).1.status =
      owed (history ++ (c.turn (.wait timeout schedule)).2) := by
  have hstart := InterruptLine.brings_start 0 schedule
  obtain ⟨hreturned, hstatus⟩ := wait_eq c timeout schedule
  simp only [turn, owed_append, List.foldl_append, List.foldl_cons, foldl_owe_signalled, hreturned,
    hstatus, ← hc, InterruptLine.finish_eq]
  rw [InterruptLine.wait_start]
  by_cases hzero : c.status = 0
  · rw [if_neg (not_not_intro hzero), hzero, InterruptLine.due_firstDue hstart.sorted]
    rcases InterruptLine.firstDue_spec hstart (Nat.zero_le (timeout + 1)) with
      ⟨time, later, -, -, heq, -⟩ | ⟨later, hnone, heq, -⟩
    · rw [heq]
      rfl
    · -- what came while the wait lasted had no bits
      have hbefore : joined (((InterruptLine.start 0 schedule).due.filter
          fun e => decide (e.1 ≤ timeout)).map Prod.snd) = 0 := by
        refine joined_eq_zero fun status hmem => ?_
        obtain ⟨e, he, rfl⟩ := List.mem_map.mp hmem
        obtain ⟨hdue, htime⟩ := List.mem_filter.mp he
        rw [hstart.bits e hdue]
        exact hnone e.1 (Nat.zero_le _) (of_decide_eq_true htime)
      rw [heq]
      simp only [hbefore]
      rfl
  · -- the wait was over before anything came
    have hlater : (InterruptLine.start 0 schedule).due.filter (fun e => decide (0 < e.1)) =
        (InterruptLine.start 0 schedule).due := by
      refine List.filter_eq_self.mpr fun e he => decide_eq_true ?_
      obtain ⟨e', he', htime⟩ := InterruptLine.exists_mem_of_mem_due he
      exact htime ▸ h e' he'
    rw [if_pos hzero]
    show _ = 0 ||| joined (((InterruptLine.start 0 schedule).due.filter
      fun e => decide (0 < e.1)).map Prod.snd)
    rw [hlater]
    rfl

/-- **Each step keeps** what is owed. -/
theorem status_turn (hc : c.status = owed history) {turn : Turn} (h : turn.IsLater) :
    (c.turn turn).1.status = owed (history ++ (c.turn turn).2) := by
  cases turn with
  | signal status =>
    rw [owed_append, ← hc]
    rfl
  | clear =>
    rw [owed_append]
    rfl
  | wait timeout schedule => exact status_wait hc h

/-- **A completion holds what is owed**, whatever it has been taken through. -/
theorem status_live (hc : c.status = owed history) {turns : List Turn}
    (h : ∀ turn ∈ turns, turn.IsLater) :
    (c.live turns).1.status = owed (history ++ (c.live turns).2) := by
  induction turns generalizing c history with
  | nil => rwa [live, List.append_nil]
  | cons turn turns ih =>
    obtain ⟨hturn, hturns⟩ := List.forall_mem_cons.mp h
    have hlive := ih (status_turn hc hturn) hturns
    rwa [List.append_assoc] at hlive

/-- **No interrupt is lost, and none comes twice.** After any sequence of signals, clears and waits,
a wait returns at once what was signalled since the last clear or the last wait that returned a
status; if that is nothing, it returns what the first instant brings that brings anything in time,
and nothing otherwise. It makes no difference whether a wake-up is stored by then. -/
theorem returns_of_live {turns : List Turn} (h : ∀ turn ∈ turns, turn.IsLater)
    (timeout : Nat) (schedule : List (Nat × UInt32)) (wakeup : Bool) :
    Returns (owed (empty.live turns).2) timeout schedule
      ({ (empty.live turns).1 with wakeup }.wait timeout schedule).1 := by
  have hempty : empty.status = owed [] := rfl
  have hstatus : (empty.live turns).1.status = owed (empty.live turns).2 := status_live hempty h
  rw [← hstatus]
  exact returns_wait { (empty.live turns).1 with wakeup } timeout schedule

/-- Steps after which nothing is owed and a wake-up is stored: bits that are cleared, and a wait
that is over when the next ones come, which are cleared, too. -/
def staleTurns : List Turn :=
  [.signal Status.frameDone, .clear, .wait 5 [(7, Status.frameDone)], .clear, .signal 0]

/-- A wake-up that is stored, and a signal without bits, do not end a wait. An error that comes
later does. -/
theorem returns_staleTurns :
    (empty.live staleTurns).1.wakeup = true ∧ owed (empty.live staleTurns).2 = 0 ∧
      Returns 0 10 [(4, Status.readError), (3, 0)]
        ({ (empty.live staleTurns).1 with wakeup := true }.wait 10
          [(4, Status.readError), (3, 0)]).1 := by
  have hlater : ∀ turn ∈ staleTurns, turn.IsLater := by
    simp [staleTurns, Turn.IsLater]
  have howed : owed (empty.live staleTurns).2 = 0 := by decide +kernel
  have hreturns := returns_of_live hlater 10 [(4, Status.readError), (3, 0)] true
  rw [howed] at hreturns
  exact ⟨by decide +kernel, howed, hreturns⟩

end History

end Completion

end Blitter
