import CrashTrace.Interpreter
import CrashTrace.Log.Event
import CrashTrace.Process.Timers
import CrashTrace.Registry.Handle
import CrashTrace.System.Descriptor
import CrashTrace.System.DumpTarget
import CrashTrace.System.Exclusion
import CrashTrace.System.Signal

/-!
# The state of a process

A process that reports its own crashes: the registered threads, what the observed interpreter
tells about itself, descriptors, signal actions, and what the public operations have set up.

## Main definitions

- `Process` — the whole state
- `FaultReporting`, `UserSignal` — parts that the public operations own
- `Process.initial` — the state before anything has been done

## Design notes

Only one thread runs at a time, and between two operations no handler is running. So the blocked
and the pending signals of that one thread are kept, and both are empty between operations.
-/

namespace CrashTrace

/-- What is set up for fatal signals. -/
structure FaultReporting where
  enabled : Bool
  target : DumpTarget
  /-- The actions that were there before, for the fatal signals. -/
  saved : SignalTable SavedAction
  /-- Whether the one fault report of the process has been used up. -/
  spent : Bool
  /-- Whether the alternate stack has been created. -/
  altStack : Bool
  deriving DecidableEq

/-- What is set up for one ordinary signal. -/
structure UserSignal where
  target : DumpTarget
  chain : Bool
  saved : SavedAction
  deriving DecidableEq

/-- The state of a process. -/
structure Process where
  registry : Registry
  interpreter : Interpreter
  descriptors : DescriptorTable
  actions : SignalTable Action
  /-- The signals that the running thread does not take now. -/
  blocked : List Signal
  /-- The signals that have arrived while they were blocked. -/
  pending : List Signal
  /-- How often a handler of the observed program has run for each signal. -/
  calls : SignalTable Nat
  faults : FaultReporting
  userSignals : SignalTable UserSignal
  /-- Held while a signal handler dumps. -/
  dumping : Exclusion
  timers : Timers
  /-- Whether the handler for structured exceptions is installed. -/
  exceptionHandler : Bool
  /-- What the public operations have told the log. -/
  log : List LogEvent

namespace Process

/-- Nothing is set up. Writing to a pipe that nobody reads does not kill the process. -/
def initial : Process where
  registry := Registry.empty
  interpreter := Interpreter.initial
  descriptors := DescriptorTable.initial
  actions := (SignalTable.constant Action.initial).put Signal.pipe ⟨.ignored, ActionFlags.none⟩
  blocked := []
  pending := []
  calls := SignalTable.constant 0
  faults := ⟨false, DumpTarget.initial, SignalTable.constant SavedAction.initial, false, false⟩
  userSignals := SignalTable.constant ⟨DumpTarget.initial, false, SavedAction.initial⟩
  dumping := Exclusion.free
  timers := Timers.initial
  exceptionHandler := false
  log := []

def note (p : Process) (e : LogEvent) : Process := { p with log := p.log ++ [e] }

def withRegistry (p : Process) (registry : Registry) : Process := { p with registry := registry }

end Process

end CrashTrace
