import CrashTrace.Settings.Basic
import CrashTrace.System.Descriptor

/-!
# The threads of timers

Every timer has a thread of its own, which waits and dumps. Whoever holds the timer shares a flag
and a channel with its thread: the flag tells the thread to stop, and closing the channel wakes it
up.

## Main definitions

- `TimerThread` — such a thread, with its flag and its channel
- `Watchdog` — what is held of a timer
- `Timers` — all threads of timers, and the timer that is armed

## Design notes

The thread, the flag and the channel of a timer are made together and have one number: the place
of the thread in the order in which such threads were started. Nothing is ever sent over a
channel, so all there is to know of it is whether it is closed.
-/

namespace CrashTrace

/-- How far the thread of a timer has come. -/
inductive TimerStage where
  /-- It waits for its time to be over or its channel to be closed. -/
  | waiting
  /-- Its time was over first. It has yet to look at its flag. -/
  | due
  | finished
  deriving DecidableEq

/-- The thread of a timer, and what it shares with whoever holds the timer. The header of its dumps
is made in advance. -/
structure TimerThread where
  sink : Sink
  header : Text
  settings : TimerSettings
  /-- The flag that tells the thread to stop. -/
  cancelled : Bool
  /-- The channel that wakes the thread up is closed. -/
  closed : Bool
  stage : TimerStage
  deriving DecidableEq

namespace TimerThread

/-- The thread has waited for the whole of its time. -/
def timedOut (thread : TimerThread) : TimerThread := { thread with stage := .due }

/-- The thread has dumped: it waits once more, or returns. -/
def dumped (thread : TimerThread) : TimerThread :=
  { thread with stage := if thread.settings.repeats then .waiting else .finished }

/-- The thread has returned. -/
def returned (thread : TimerThread) : TimerThread := { thread with stage := .finished }

end TimerThread

/-- What is held of a timer: its flag, and the channel and the thread until they are given up. -/
structure Watchdog where
  flag : Nat
  wake : Option Nat
  thread : Option Nat
  deriving DecidableEq

/-- The threads of all timers that there have been, in the order in which they were started, and
the timer that is armed. -/
structure Timers where
  threads : List TimerThread
  watchdog : Option Watchdog
  deriving DecidableEq

/-- Whether the system can start another thread. -/
inductive ThreadSupply where
  | available
  | refused (failure : IoFailure)
  deriving DecidableEq

/-- What is held of the timer with a number, before anything is given up. -/
def Watchdog.ofNumber (n : Nat) : Watchdog := ⟨n, some n, some n⟩

namespace Timers

/-- No timer has ever been armed. -/
def initial : Timers := ⟨[], none⟩

def thread? (t : Timers) (n : Nat) : Option TimerThread := t.threads[n]?

/-- Changes the thread with a number, if there is one. -/
def modify (t : Timers) (n : Nat) (change : TimerThread → TimerThread) : Timers :=
  { t with threads := t.threads.modify n change }

/-- Starts one more thread. -/
def start (t : Timers) (thread : TimerThread) : Timers :=
  { t with threads := t.threads ++ [thread] }

/-- Whether a timer is held whose thread has not finished. -/
def isArmed (t : Timers) (w : Watchdog) : Bool :=
  match w.thread.bind t.thread? with
  | some thread => thread.stage ≠ .finished
  | none => false

end Timers

end CrashTrace
