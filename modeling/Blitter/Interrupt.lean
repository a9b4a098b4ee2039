import Blitter.Log.Event

/-!
# Interrupts and waiting for them

An interrupt brings a status word. Words that arrive before anyone looks are joined bit by bit; a
look takes all of them at once. Time is counted in milliseconds of a clock that stands still
except while somebody waits, and then jumps to what comes first: the next interrupt that is due,
or the deadline.
-/

namespace Blitter

namespace Status

/-! ### The bits of an interrupt status -/

def frameDone : UInt32 := 0x001
def chainDone : UInt32 := 0x002
def readError : UInt32 := 0x010
def writeError : UInt32 := 0x020
def chainError : UInt32 := 0x040
def timeoutError : UInt32 := 0x100

/-- Every bit that has a meaning. -/
def known : UInt32 :=
  frameDone ||| chainDone ||| readError ||| writeError ||| chainError ||| timeoutError

/-- The bits that report an error. -/
def errors : UInt32 := readError ||| writeError ||| chainError ||| timeoutError

/-- The bits and their names in messages, lowest first. -/
def names : List (UInt32 × String) :=
  [ (frameDone, "FRAME_DONE"), (chainDone, "CMD_DONE"), (readError, "RDMA_ERR"),
    (writeError, "WDMA_ERR"), (chainError, "CMD_ERR"), (timeoutError, "HW_TIMEOUT") ]

/-- A status of known bits as messages show it. -/
def text (status : UInt32) : String :=
  let set := names.filterMap fun (bit, name) => if status &&& bit != 0 then some name else none
  "IntStatus(" ++ (if set.isEmpty then "0x0" else " | ".intercalate set) ++ ")"

end Status

/-- The **interrupt line** of a device during one step: what has arrived and not been looked at,
the time, and what is still to come, in order of time. -/
structure InterruptLine where
  pending : UInt32
  now : Nat
  due : List (Nat × UInt32)
  deriving DecidableEq, Repr

namespace InterruptLine

/-- Adds an interrupt to those that are due, which are in order of time. Interrupts of one instant
are joined bit by bit. -/
def addDue (time : Nat) (status : UInt32) : List (Nat × UInt32) → List (Nat × UInt32)
  | [] => [(time, status)]
  | (next, bits) :: due =>
    if time < next then (time, status) :: (next, bits) :: due
    else if time = next then (time, bits ||| status) :: due
    else (next, bits) :: addDue time status due

theorem fst_of_mem_addDue {time : Nat} {status : UInt32} {due : List (Nat × UInt32)}
    {e : Nat × UInt32} (h : e ∈ addDue time status due) :
    e.1 = time ∨ ∃ e' ∈ due, e'.1 = e.1 := by
  induction due with
  | nil =>
    obtain rfl := List.mem_singleton.1 h
    exact .inl rfl
  | cons d due ih =>
    obtain ⟨next, bits⟩ := d
    unfold addDue at h
    split at h
    · rcases List.mem_cons.1 h with rfl | h
      · exact .inl rfl
      · exact .inr ⟨e, h, rfl⟩
    · split at h
      · rcases List.mem_cons.1 h with rfl | h
        · exact .inl rfl
        · exact .inr ⟨e, List.mem_cons_of_mem _ h, rfl⟩
      · rcases List.mem_cons.1 h with rfl | h
        · exact .inr ⟨_, List.mem_cons_self, rfl⟩
        · rcases ih h with h | ⟨e', he, h⟩
          · exact .inl h
          · exact .inr ⟨e', List.mem_cons_of_mem _ he, h⟩

/-- Interrupts that are due stay in order of time, one at an instant. -/
theorem pairwise_addDue (time : Nat) (status : UInt32) {due : List (Nat × UInt32)}
    (h : due.Pairwise fun a b => a.1 < b.1) :
    (addDue time status due).Pairwise fun a b => a.1 < b.1 := by
  induction due with
  | nil => exact List.pairwise_singleton ..
  | cons d due ih =>
    obtain ⟨next, bits⟩ := d
    obtain ⟨first, rest⟩ := List.pairwise_cons.1 h
    unfold addDue
    split
    case isTrue earlier =>
      refine List.pairwise_cons.2 ⟨fun e he => ?_, h⟩
      rcases List.mem_cons.1 he with rfl | he
      · exact earlier
      · exact Nat.lt_trans earlier (first e he)
    case isFalse late =>
      split
      case isTrue same =>
        subst same
        exact List.pairwise_cons.2 ⟨first, rest⟩
      case isFalse apart =>
        refine List.pairwise_cons.2 ⟨fun e he => ?_, ih rest⟩
        rcases fst_of_mem_addDue he with h | ⟨e', he', h⟩
        · simp only at h ⊢
          omega
        · exact h ▸ first e' he'

/-- The line at the start of a step, with interrupts to come at given times. -/
def start (pending : UInt32) (schedule : List (Nat × UInt32)) : InterruptLine :=
  { pending, now := 0, due := schedule.foldl (fun due (time, status) => addDue time status due) [] }

/-- An interrupt arrives. -/
def signal (l : InterruptLine) (status : UInt32) : InterruptLine :=
  { l with pending := l.pending ||| status }

/-- What has arrived is forgotten. -/
def clear (l : InterruptLine) : InterruptLine := { l with pending := 0 }

/-- The first interrupt among those due that brings any bit before the deadline, with the known
ones of its bits, the time and what is due after it; without one, the time is the deadline. -/
def firstDue (deadline : Nat) : List (Nat × UInt32) → Option UInt32 × InterruptLine
  | [] => (none, ⟨0, deadline, []⟩)
  | (time, status) :: due =>
    if deadline < time then (none, ⟨0, deadline, (time, status) :: due⟩)
    else if status = 0 then firstDue deadline due
    else (some (status &&& Status.known), ⟨0, time, due⟩)

/-- **Waits** for an interrupt until the deadline: what has arrived is taken at once; otherwise
the first that brings any bit is waited for. -/
def wait (l : InterruptLine) (deadline : Nat) : Option UInt32 × InterruptLine :=
  if l.pending ≠ 0 then (some (l.pending &&& Status.known), l.clear)
  else firstDue deadline l.due

/-- What has arrived when every interrupt of the step has come. -/
def finish (l : InterruptLine) : UInt32 := l.due.foldl (fun p (_, s) => p ||| s) l.pending

theorem length_firstDue_due_lt {deadline : Nat} {due : List (Nat × UInt32)} {s : UInt32}
    {l : InterruptLine} (h : firstDue deadline due = (some s, l)) : l.due.length < due.length := by
  induction due with
  | nil => simp [firstDue] at h
  | cons e due ih =>
    obtain ⟨time, status⟩ := e
    simp only [firstDue] at h
    split at h
    · simp at h
    · split at h
      · have := ih h
        simp only [List.length_cons]
        omega
      · simp only [Prod.mk.injEq, Option.some.injEq] at h
        obtain ⟨-, rfl⟩ := h
        simp

end InterruptLine

/-- How a wait for a bit ended. -/
inductive WaitEnd where
  /-- The bit came. -/
  | done
  /-- An error came, with these bits. -/
  | fault (status : UInt32)
  /-- The deadline came. -/
  | timeout
  deriving DecidableEq, Repr

/-- A **finished wait**: every status seen on the way, in order, how the wait ended, and the line
after it. -/
structure Waited where
  seen : List UInt32
  ending : WaitEnd
  line : InterruptLine
  deriving DecidableEq, Repr

namespace InterruptLine

/-- Judges a status: an error ends the wait, and so does the awaited bit. -/
def judge (awaited status : UInt32) : Option WaitEnd :=
  if status &&& Status.errors ≠ 0 then some (.fault status)
  else if status &&& awaited = awaited then some .done
  else none

/-- Waits for the awaited bit among the interrupts that are due, with nothing pending. -/
def awaitDue (awaited : UInt32) (deadline : Nat) (due : List (Nat × UInt32)) : Waited :=
  match _h : firstDue deadline due with
  | (none, line) => ⟨[], .timeout, line⟩
  | (some status, line) =>
    match judge awaited status with
    | some ending => ⟨[status], ending, line⟩
    | none =>
      let rest := awaitDue awaited deadline line.due
      { rest with seen := status :: rest.seen }
termination_by due.length
decreasing_by exact length_firstDue_due_lt _h

/-- **Waits for the awaited bit**, or for an error, until the deadline. Other statuses are seen
and passed over. -/
def await (l : InterruptLine) (awaited : UInt32) (deadline : Nat) : Waited :=
  if l.pending ≠ 0 then
    let status := l.pending &&& Status.known
    match judge awaited status with
    | some ending => ⟨[status], ending, l.clear⟩
    | none =>
      let rest := awaitDue awaited deadline l.due
      { rest with seen := status :: rest.seen }
  else awaitDue awaited deadline l.due

end InterruptLine

end Blitter
