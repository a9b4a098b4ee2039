import Blitter.Proofs.Completion
import Blitter.Proofs.Device.Waiting

/-!
# Waiting for a bit on a completion

A device waits on an `InterruptLine`, which knows of no wake-ups and looks for one deadline. It
stands for a loop over a completion (`Waiter.await`): this waits again after every status that is
passed over, each time for what is left of the time, and perhaps with a wake-up stored by what came
before. The loop **simulates the line** (`Waiter.await_follows`): it sees the same statuses, ends in
the same way at the same time, and leaves the same bits and the same signals to come. So a wait of a
device is the loop (`Device.await_of_follows`).
-/

namespace Blitter

/-- A **waiter**: the completion that it shares with the interrupts, the time, and the instants that
are still to come with their statuses. -/
structure Waiter where
  completion : Completion
  now : Nat
  due : List (Nat × List UInt32)

namespace Waiter

open InterruptLine (firstDue judge)

/-- Sleeps until the deadline, and looks whenever a signal comes. -/
def sleep (deadline : Nat) (c : Completion) : List (Nat × List UInt32) → Option UInt32 × Waiter
  | [] => (none, ⟨c, deadline, []⟩)
  | (time, statuses) :: due =>
    if deadline < time then (none, ⟨c, deadline, (time, statuses) :: due⟩)
    else
      match (c.rouse statuses).look with
      | (some status, c) => (some status, ⟨c, time, due⟩)
      | (none, c) => sleep deadline c due

/-- **Waits once** for bits, for some time at most. -/
def wait (w : Waiter) (remaining : Nat) : Option UInt32 × Waiter :=
  match w.completion.look with
  | (some status, c) => (some status, { w with completion := c })
  | (none, c) => sleep (w.now + remaining) c w.due

/-! ### One wait -/

/-- A wait is **that of the completion**, but for the signals that are still to come. -/
theorem completion_wait_eq (c : Completion) (timeout : Nat) (schedule : List (Nat × UInt32)) :
    let waited := wait ⟨c, 0, instants schedule⟩ timeout
    c.wait timeout schedule =
      (⟨waited.1, waited.2.now⟩, waited.2.completion.signalLater waited.2.due) := by
  have hsleep (c : Completion) (due : List (Nat × List UInt32)) :
      c.sleep timeout due =
        (⟨(sleep timeout c due).1, (sleep timeout c due).2.now⟩,
          (sleep timeout c due).2.completion.signalLater (sleep timeout c due).2.due) := by
    induction due generalizing c with
    | nil => rfl
    | cons e due ih =>
      obtain ⟨time, statuses⟩ := e
      rw [Completion.sleep, sleep]
      split
      · rfl
      · rcases (c.rouse statuses).look with ⟨_ | status, c⟩
        · exact ih c
        · rfl
  intro waited
  simp only [Completion.wait, waited, wait, Nat.zero_add]
  rcases c.look with ⟨_ | status, c⟩
  · exact hsleep c _
  · rfl

/-- How many more waits can return a status: one for the bits that are there, and one for each
instant to come. -/
def rank (w : Waiter) : Nat := w.due.length + if w.completion.status = 0 then 0 else 1

theorem rank_sleep_lt {deadline : Nat} {c : Completion} {due : List (Nat × List UInt32)}
    {status : UInt32} {after : Waiter} (h : sleep deadline c due = (some status, after)) :
    after.rank < due.length := by
  induction due generalizing c with
  | nil => cases h
  | cons e due ih =>
    obtain ⟨time, statuses⟩ := e
    rw [List.length_cons]
    rw [sleep] at h
    split at h
    case isTrue => cases h
    case isFalse =>
      rw [Completion.look_eq] at h
      by_cases hstatus : (c.rouse statuses).status = 0
      · rw [if_neg (not_not_intro hstatus)] at h
        exact Nat.lt_succ_of_lt (ih h)
      · rw [if_pos hstatus] at h
        cases h
        exact Nat.lt_succ_self due.length

/-- A wait that returns a status **uses something up**. -/
theorem rank_wait_lt {w after : Waiter} {remaining : Nat} {status : UInt32}
    (h : w.wait remaining = (some status, after)) : after.rank < w.rank := by
  rw [wait, Completion.look_eq] at h
  by_cases hstatus : w.completion.status = 0
  · rw [if_neg (not_not_intro hstatus)] at h
    exact Nat.lt_of_lt_of_le (rank_sleep_lt h) (Nat.le_add_right _ _)
  · rw [if_pos hstatus] at h
    cases h
    rw [rank, rank, if_neg hstatus]
    exact Nat.lt_succ_self w.due.length

/-! ### The loop -/

/-- A **finished loop**: every status seen on the way, in order, how the loop ended, and the waiter
after it. -/
structure Finished where
  seen : List UInt32
  ending : WaitEnd
  waiter : Waiter

/-- **Waits for the awaited bit**, or for an error, until the deadline. After any other status it
waits again, for the time that is left. -/
def await (awaited : UInt32) (deadline : Nat) (w : Waiter) : Finished :=
  match _h : w.wait (deadline - w.now) with
  | (none, w) => ⟨[], .timeout, w⟩
  | (some status, w) =>
    match judge awaited status with
    | some ending => ⟨[status], ending, w⟩
    | none =>
      let rest := w.await awaited deadline
      { rest with seen := status :: rest.seen }
termination_by w.rank
decreasing_by exact rank_wait_lt _h

/-! ### The simulation -/

/-- The waiter **follows the line**: the bits that have arrived are pending on it, and the statuses
of an instant to come are due on it together. A wake-up may be stored or not. -/
structure Follows (w : Waiter) (l : InterruptLine) : Prop where
  pending : l.pending = w.completion.status
  now : l.now = w.now
  due : l.due = w.due.map fun e => (e.1, joined e.2)

variable {w : Waiter} {l : InterruptLine} {deadline : Nat} {awaited : UInt32}

/-- At the start of a step, with signals to come at given times. -/
theorem Follows.start (c : Completion) (schedule : List (Nat × UInt32)) :
    Follows ⟨c, 0, instants schedule⟩ (.start c.status schedule) where
  pending := rfl
  now := rfl
  due := by
    have hbits := Completion.bits_due_start schedule
    rw [instants, List.map_map]
    refine ((List.map_congr_left fun e he => ?_).trans (List.map_id _)).symm
    exact Prod.ext rfl (hbits e he).symm

/-- The waiter after an interrupt that was raised, if one was. -/
def raised (w : Waiter) : Option UInt32 → Waiter
  | some status => { w with completion := w.completion.signal status }
  | none => w

theorem Follows.clear (h : w.Follows l) :
    Follows { w with completion := w.completion.clear } l.clear where
  pending := rfl
  now := h.now
  due := h.due

/-- Whoever sleeps without bits finds **what is due first**. -/
theorem sleep_follows {c : Completion} (hc : c.status = 0) (due : List (Nat × List UInt32)) :
    (sleep deadline c due).1 = (firstDue deadline (due.map fun e => (e.1, joined e.2))).1 ∧
      (sleep deadline c due).2.Follows
        (firstDue deadline (due.map fun e => (e.1, joined e.2))).2 := by
  induction due generalizing c with
  | nil => exact ⟨rfl, hc.symm, rfl, rfl⟩
  | cons e due ih =>
    obtain ⟨time, statuses⟩ := e
    have hroused : (c.rouse statuses).status = joined statuses := by
      rw [Completion.status_rouse, hc, UInt32.zero_or]
    rw [List.map_cons, sleep, firstDue]
    split
    case isTrue => exact ⟨rfl, hc.symm, rfl, rfl⟩
    case isFalse =>
      rw [Completion.look_eq, hroused]
      by_cases hzero : joined statuses = 0
      · rw [if_neg (not_not_intro hzero), if_pos hzero]
        exact ih rfl
      · rw [if_pos hzero, if_neg hzero]
        exact ⟨rfl, rfl, rfl, rfl⟩

/-- A wait **for what is left of the time** is one until the deadline. -/
theorem Follows.wait (h : w.Follows l) (hdeadline : l.now ≤ deadline) :
    (w.wait (deadline - w.now)).1 = (l.wait deadline).1 ∧
      (w.wait (deadline - w.now)).2.Follows (l.wait deadline).2 := by
  have hleft : w.now + (deadline - w.now) = deadline := by
    rw [← h.now]
    omega
  rw [Waiter.wait, InterruptLine.wait, Completion.look_eq, h.pending]
  by_cases hstatus : w.completion.status = 0
  · rw [if_neg (not_not_intro hstatus), if_neg (not_not_intro hstatus), h.due, hleft]
    exact sleep_follows rfl w.due
  · rw [if_pos hstatus, if_pos hstatus]
    exact ⟨rfl, rfl, h.now, h.due⟩

/-- Whatever a wait of the waiter returns, **a wait on the line returns, too**, and the waiter
follows the line after it. -/
theorem Follows.exists_wait (h : w.Follows l) (hdeadline : l.now ≤ deadline)
    {status : Option UInt32} {after : Waiter}
    (hwait : w.wait (deadline - w.now) = (status, after)) :
    ∃ line, l.wait deadline = (status, line) ∧ after.Follows line ∧ line.now ≤ deadline := by
  obtain ⟨hstatus, hafter⟩ := h.wait hdeadline
  rw [hwait] at hstatus hafter
  exact ⟨_, Prod.ext hstatus.symm rfl, hafter, InterruptLine.now_wait_le hdeadline⟩

/-- **The loop simulates the line**: it sees the same statuses and ends in the same way, and the
waiter still follows the line. -/
theorem await_follows (awaited : UInt32) (h : w.Follows l) (hdeadline : l.now ≤ deadline) :
    (w.await awaited deadline).seen = (l.await awaited deadline).seen ∧
      (w.await awaited deadline).ending = (l.await awaited deadline).ending ∧
      (w.await awaited deadline).waiter.Follows (l.await awaited deadline).line := by
  -- along the loop the waiter follows the line, and the deadline has not passed
  fun_induction await awaited deadline w generalizing l with
  | case1 w after hwait =>
    obtain ⟨line, hline, hfollows, -⟩ := h.exists_wait hdeadline hwait
    rw [InterruptLine.await_eq, hline]
    exact ⟨rfl, rfl, hfollows⟩
  | case2 w status after hwait ending hjudge =>
    obtain ⟨line, hline, hfollows, -⟩ := h.exists_wait hdeadline hwait
    rw [InterruptLine.await_eq, hline]
    simp only [hjudge]
    exact ⟨trivial, trivial, hfollows⟩
  | case3 w status after hwait hjudge rest =>
    rename_i ih
    obtain ⟨line, hline, hfollows, hnow⟩ := h.exists_wait hdeadline hwait
    obtain ⟨hseen, hending, hlater⟩ := ih hfollows hnow
    rw [InterruptLine.await_eq, hline]
    simp only [hjudge]
    exact ⟨congrArg (status :: ·) hseen, hending, hlater⟩

/-- **The loop ends as it should** on a completion that was cleared, whether a wake-up is left on it
or not. -/
theorem await_spec (hknown : awaited &&& Status.known = awaited) (hne : awaited ≠ 0)
    (c : Completion) (timeout : Nat) (schedule : List (Nat × UInt32)) :
    let loop := await awaited timeout ⟨c.clear, 0, instants schedule⟩
    InterruptLine.EndsAs (arriving schedule) awaited 0 timeout loop.ending loop.waiter.now ∧
      loop.seen = InterruptLine.consumed (arriving schedule) 0 loop.waiter.now := by
  intro loop
  have hbrings := InterruptLine.brings_start c.status schedule
  obtain ⟨stop, later, hends, hline, -, hconsumed⟩ :=
    InterruptLine.awaitDue_spec hknown hne hbrings (Nat.zero_le (timeout + 1))
  have hawait : (InterruptLine.start c.status schedule).clear.await awaited timeout =
      InterruptLine.awaitDue awaited timeout (InterruptLine.start c.status schedule).due :=
    if_neg (not_not_intro rfl)
  obtain ⟨hseen, hending, hfollows⟩ :=
    await_follows awaited (Follows.start c schedule).clear (Nat.zero_le timeout)
  rw [hawait] at hseen hending hfollows
  have hnow : loop.waiter.now = stop := by
    rw [← hfollows.now, hline]
  rw [hnow, hending, hseen]
  exact ⟨hends, hconsumed⟩

end Waiter

namespace Device

variable {d : Device} {w : Waiter}

/-- An interrupt that an access raises **is signalled to the waiter**. -/
theorem access_of_follows (h : w.Follows d.line) (a : Access) :
    (w.raised (d.engine.access a).2).Follows (d.access a).line := by
  simp only [access]
  cases (d.engine.access a).2 with
  | none => exact h
  | some status => exact ⟨congrArg (· ||| status) h.pending, h.now, h.due⟩

/-- **A wait of a device is the loop** of a waiter that follows its line, from the start of the wait
on and for the time that is set: it returns what the loop ended with, acknowledges what the loop
saw, and leaves what the loop left. -/
theorem await_of_follows (h : w.Follows d.line) (awaited : UInt32) :
    let loop := w.await awaited (w.now + d.timeout.toNat)
    (d.await awaited).2 = loop.ending.outcome d.timeout ∧
      acknowledgements (d.await awaited).1.engine.log =
        acknowledgements d.engine.log ++ loop.seen ∧
      loop.waiter.Follows (d.await awaited).1.line := by
  intro loop
  obtain ⟨hseen, hending, hfollows⟩ :=
    Waiter.await_follows awaited h (Nat.le_add_right d.line.now d.timeout.toNat)
  obtain ⟨waited, heq⟩ :
      ∃ waited, d.line.await awaited (d.line.now + d.timeout.toNat) = waited := ⟨_, rfl⟩
  rw [heq, h.now] at hseen hending hfollows
  obtain ⟨hline, hacknowledged⟩ :=
    acknowledge_spec { d with line := waited.line } awaited waited.seen
  have htimeout := (worked_acknowledge { d with line := waited.line } awaited waited.seen).timeout
  have hloop : waited.ending = loop.ending := hending.symm
  have hlog : acknowledgements (({ d with line := waited.line }).acknowledge awaited
      waited.seen).engine.log = acknowledgements d.engine.log ++ loop.seen := by
    rw [hacknowledged, ← hseen]
  have hleft : loop.waiter.Follows (({ d with line := waited.line }).acknowledge awaited
      waited.seen).line := by
    rw [hline]
    exact hfollows
  rw [← hloop]
  simp only [await, heq]
  cases waited.ending with
  | done => exact ⟨rfl, hlog, hleft⟩
  | fault status => exact ⟨rfl, hlog, hleft⟩
  | timeout => exact ⟨congrArg (fun t => reject (.timeout t)) htimeout, hlog, hleft⟩

end Device

end Blitter
