import CrashTrace.Duration
import CrashTrace.Failure

/-!
# Settings

How fault reports, dumps on ordinary signals, and timed dumps are to be made.

## Main definitions

- `FaultSettings` — with the checked constructor `FaultSettings.make`
- `UserSignalSettings`
- `TimerSettings` — with the checked constructor `TimerSettings.make`

## Design notes

The checks belong to the constructors `make`, not to the types: settings read from a text are
taken as they stand.
-/

namespace CrashTrace

/-- How faults are reported. -/
structure FaultSettings where
  /-- Show every registered thread rather than the faulting one alone. -/
  allThreads : Bool
  createAltStack : Bool
  useAltStack : Bool
  deriving DecidableEq

namespace FaultSettings

/-- All threads, on an alternate stack of its own. -/
def standard : FaultSettings := ⟨true, true, true⟩

def withAllThreads (allThreads : Bool) : FaultSettings := { standard with allThreads := allThreads }

/-- Settings that do not create an alternate stack without using it. -/
def make (allThreads createAltStack useAltStack : Bool) : Except Failure FaultSettings :=
  if createAltStack && !useAltStack then .error (.altStack .createdButUnused)
  else .ok ⟨allThreads, createAltStack, useAltStack⟩

/-- The ways in which a caller may describe its settings. -/
inductive Request where
  | standard
  | threads (allThreads : Bool)
  | explicit (allThreads createAltStack useAltStack : Bool)
  deriving DecidableEq

/-- The settings that a caller describes. -/
def ofRequest : Request → Except Failure FaultSettings
  | .standard => .ok standard
  | .threads allThreads => .ok (withAllThreads allThreads)
  | .explicit allThreads createAltStack useAltStack => make allThreads createAltStack useAltStack

end FaultSettings

/-- How an ordinary signal dumps. -/
structure UserSignalSettings where
  allThreads : Bool
  /-- Run the action that was there before as well, after the dump. -/
  chain : Bool
  deriving DecidableEq

/-- All threads, without the action that was there before. -/
def UserSignalSettings.standard : UserSignalSettings := ⟨true, false⟩

/-- When and how often a timer dumps. -/
structure TimerSettings where
  timeout : Duration
  repeats : Bool
  /-- End the process after the first dump. -/
  exits : Bool
  deriving DecidableEq

/-- Settings with a timeout above zero whose microseconds fit into a word. -/
def TimerSettings.make (timeout : Duration) (repeats exits : Bool) :
    Except Failure TimerSettings :=
  if timeout = Duration.zero then .error (.invalidTimeout .zero)
  else if UInt64.size ≤ timeout.micros then .error (.invalidTimeout .tooLarge)
  else .ok ⟨timeout, repeats, exits⟩

end CrashTrace
