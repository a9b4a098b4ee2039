import Blitter.Interrupt

/-!
# Completions

What the interrupt side and a waiter have in common: the bits that have arrived, and one wake-up at
most, stored for a waiter that is not asleep yet. A signal sets both. They are not taken together:
a waiter that finds bits takes all of them and leaves the wake-up, clearing the bits leaves it too,
and only a waiter that finds no bits uses it up, by looking once more.

An `InterruptLine` is what is left of this without wake-ups.
-/

namespace Blitter

/-- What **interrupts leave for a waiter**. -/
structure Completion where
  status : UInt32
  /-- A wake-up is stored. -/
  wakeup : Bool
  deriving DecidableEq, Repr

/-- How a wait ended: with the known bits of what had arrived, or with nothing, and when. -/
structure Return where
  status : Option UInt32
  time : Nat
  deriving DecidableEq, Repr

/-- The statuses that a schedule has for one instant. -/
def statusesAt (schedule : List (Nat × UInt32)) (time : Nat) : List UInt32 :=
  (schedule.filter fun (due, _) => due == time).map Prod.snd

/-- The instants of a schedule, in order of time, each with its statuses. -/
def instants (schedule : List (Nat × UInt32)) : List (Nat × List UInt32) :=
  (InterruptLine.start 0 schedule).due.map fun (time, _) => (time, statusesAt schedule time)

namespace Completion

/-- Nothing has arrived. -/
def empty : Completion := { status := 0, wakeup := false }

/-- Bits arrive **while nobody sleeps**. -/
def signal (c : Completion) (status : UInt32) : Completion :=
  { status := c.status ||| status, wakeup := true }

/-- Signals arrive one after the other while nobody sleeps. -/
def signalAll (c : Completion) (statuses : List UInt32) : Completion := statuses.foldl signal c

/-- The bits that have arrived are forgotten. -/
def clear (c : Completion) : Completion := { c with status := 0 }

/-- The signals of one instant reach **a sleeper**: the first wakes it up, and those after it come
while nobody sleeps. -/
def rouse (c : Completion) : List UInt32 → Completion
  | [] => c
  | status :: statuses => { c with status := c.status ||| status }.signalAll statuses

/-- A waiter that is awake **looks for bits**, and takes all that there are. Without any it looks
once more if a wake-up is stored, and otherwise goes to sleep. -/
def look (c : Completion) : Option UInt32 × Completion :=
  if c.status ≠ 0 then (some (c.status &&& Status.known), c.clear)
  else if _h : c.wakeup = true then look { c with wakeup := false }
  else (none, c)
termination_by c.wakeup.toNat
decreasing_by simp [_h]

/-- All signals of some instants arrive while nobody sleeps. -/
def signalLater (c : Completion) (due : List (Nat × List UInt32)) : Completion :=
  due.foldl (fun c (_, statuses) => c.signalAll statuses) c

/-- Sleeps until the deadline, and looks whenever a signal comes. -/
def sleep (c : Completion) (deadline : Nat) : List (Nat × List UInt32) → Return × Completion
  | [] => (⟨none, deadline⟩, c)
  | (time, statuses) :: due =>
    if deadline < time then (⟨none, deadline⟩, c.signalLater ((time, statuses) :: due))
    else
      match (c.rouse statuses).look with
      | (some status, c) => (⟨some status, time⟩, c.signalLater due)
      | (none, c) => c.sleep deadline due

/-- **Waits** for bits, for some time at most, while signals come at given times. The completion is
that after all of them have come. -/
def wait (c : Completion) (timeout : Nat) (schedule : List (Nat × UInt32)) : Return × Completion :=
  match c.look with
  | (some status, c) => (⟨some status, 0⟩, c.signalLater (instants schedule))
  | (none, c) => c.sleep timeout (instants schedule)

end Completion

end Blitter
