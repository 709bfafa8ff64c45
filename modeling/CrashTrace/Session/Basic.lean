import CrashTrace.Output.Writer
import CrashTrace.Process.Watchdog

/-!
# Sessions

A session is a process under trial: a list of requests, each made on one of its threads, and what
each of them answers. Besides the process a session keeps what its requests have put by under
names: handles, walks and sinks.

## Main definitions

- `Session` — the process and what has been put by
- `Answer` — what a request answers
- `Progress` — a request has been answered, or has ended the process
- `Session.lift` — a run of the process as part of a session
-/

namespace CrashTrace

/-- The identity of the thread with a given number. -/
def ThreadId.ofNumber (n : Nat) : ThreadId := UInt64.ofNat (4096 + n)

def ThreadId.number (t : ThreadId) : Nat := t.toNat - 4096

/-- The number of saved actions that a session has at its disposal. -/
abbrev Session.savedSlots : Nat := 4

/-- A process under trial. -/
structure Session where
  process : Process
  /-- The frame guards of each thread, oldest first. -/
  guards : Entries ThreadId (Array FrameGuard)
  handles : Entries String (List ThreadHandle)
  walks : Entries String Walk
  sinks : Entries String Sink
  saved : Vector SavedAction Session.savedSlots

/-- A new process, and nothing put by. -/
def Session.initial : Session :=
  ⟨Process.initial, [], [], [], [], Vector.replicate _ SavedAction.initial⟩

/-- What a thread's stack looks like. -/
structure StackView where
  guards : Nat
  /-- What can be read of the stack, if the thread is registered. -/
  snapshot : Option Snapshot

/-- Whether fault reports are enabled, and where they go. -/
structure FaultView where
  enabled : Bool
  target : Option (Int × Bool)

/-- What comes of a request on a saved action. -/
inductive SavedReply where
  | busy
  | captured (result : Except Failure Unit)
  | restored (done : Bool)
  | nothing

/-- What a request answers. -/
inductive Answer where
  | nothing
  | failed (failure : Failure)
  | registered (result : Except RegistryFailure ThreadId)
  | unregistered (done : Bool) (view : StackView)
  | stack (view : StackView)
  | range (failures : List (ThreadId × RegistryFailure))
  | snapshot (snapshot : Snapshot)
  | handle (handle : ThreadHandle)
  | handles (handles : List ThreadHandle)
  | truth (value : Bool)
  | walk (truncated : Bool)
  | frames (frames : List Frame) (truncated : Bool)
  | written (bytes : List UInt8) (failure : Option ReportFailure)
  | modules (line? : Option Text)
  | phase (phase : Phase) (unusual? : Option Phase)
  | collecting (value : Bool)
  | ok (value : Bool)
  | refused (failure : IoFailure)
  | sink (sink : Sink)
  | contents (text : String)
  | faults (view : FaultView)
  | enabled (result : Except Failure Unit) (view : FaultView)
  | done
  | repeated (same : Bool) (block : String)
  | action (action? : Option Action)
  | raised (calls : List (Signal × Nat))
  | handled (calls : List (Signal × Nat))
  | saved (reply : SavedReply) (installed : Bool) (action? : Option Action)
  | exceptionInstalled (handlers : Nat)
  | exceptionHandlers (handlers : Nat)
  | exceptionReturned (answers : List Nat)

/-- What comes of a request. -/
inductive Progress where
  | answered (answer : Answer) (s : Session)
  | ended (status : ExitStatus) (s : Session)
  | unfinished

namespace Session

def withProcess (s : Session) (p : Process) : Session := { s with process := p }

def lift {α : Type} (s : Session) (run : Run α) (answer : α → Process → Answer) : Progress :=
  match run s.process with
  | .returned value p => .answered (answer value p) (s.withProcess p)
  | .ended status p => .ended status (s.withProcess p)
  | .unfinished => .unfinished

end Session

end CrashTrace
