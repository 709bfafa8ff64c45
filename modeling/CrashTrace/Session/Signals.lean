import CrashTrace.Session.Basic

/-!
# Requests on signals and exceptions

Installing handlers, sending signals, calling the fault handler as the system would, saved
actions, fatal errors, and structured exceptions.

## Main definitions

- `SignalRequest` — the requests
- `Session.signals` — what they do and answer
-/

namespace CrashTrace

/-- What is done with a saved action. -/
inductive SavedUse where
  | capture
  | mark
  | unmark
  | restore
  | reinstate
  deriving DecidableEq

/-- Requests on signals and exceptions. -/
inductive SignalRequest where
  /-- Sets the action of a signal, without flags. -/
  | install (signum : Int) (disposition : Disposition)
  | action (signum : Int)
  | raise (signum : Int)
  /-- Calls the fault handler. The code tells where the signal came from, if that is known: none
  above zero was sent by a thread. -/
  | fault (signum : Int) (code? : Option Int)
  | segfault
  | fatalError (function? : Option String) (message : String)
  | saved (use : SavedUse) (slot : Fin Session.savedSlots) (signum : Int)
  | installExceptionHandler
  | uninstallExceptionHandler
  | raiseException (code? : Option UInt32)

namespace Session

/-- How often the handlers of the observed program have run, for the signals for which they
have. -/
def calls (p : Process) : List (Signal × Nat) :=
  ((List.finRange Signal.count).map fun s => (s, p.calls.get s)).filter fun entry => entry.2 ≠ 0

def actionOf? (p : Process) (signum : Int) : Option Action :=
  (Signal.ofInt? signum).bind p.action?

/-- A signal sent by number; a number that no signal has sends nothing. -/
def raiseNumber (t : ThreadId) (signum : Int) : Run Unit :=
  match Signal.ofInt? signum with
  | some sig => Process.raise (some t) Process.budget sig
  | none => pure ()

/-- Calls the fault handler for a signal by its number. -/
def faultNumber (t : ThreadId) (signum : Int) (sent : Bool) : Run Unit :=
  match Signal.ofInt? signum with
  | some sig =>
    Process.handleFault (Process.raise (some t) Process.budget) (some t) sig sent
  | none => pure ()

/-- Whether a signal with this code was sent by a thread. Without a code it is taken to be. -/
def wasSent : Option Int → Bool
  | some code => decide (code ≤ 0)
  | none => true

/-- What comes of using a saved action for a signal by its number. -/
def useSaved (p : Process) (saved : SavedAction) (signum : Int) :
    SavedUse → SavedReply × SavedAction × Process
  | .capture =>
    if saved.installed then (.busy, saved, p)
    else
      match Signal.ofInt? signum with
      | none => (.captured (.error (.system Errno.invalidArgument)), saved, p)
      | some sig =>
        match p.capture saved sig with
        | .ok saved => (.captured (.ok ()), saved, p)
        | .error failure => (.captured (.error failure), saved, p)
  | .mark => (.nothing, { saved with installed := true }, p)
  | .unmark => (.nothing, { saved with installed := false }, p)
  | .restore =>
    match Signal.ofInt? signum with
    | some sig =>
      let (done, saved, p) := p.restore saved sig
      (.restored done, saved, p)
    | none => (.restored saved.installed, { saved with installed := false }, p)
  | .reinstate =>
    match Signal.ofInt? signum with
    | some sig => (.nothing, saved, p.reinstate saved sig)
    | none => (.nothing, saved, p)

/-- Carries out a request on signals and exceptions. -/
def signals (s : Session) (t : ThreadId) : SignalRequest → Progress
  | .install signum disposition =>
    match (Signal.ofInt? signum).bind fun sig =>
        s.process.setAction? sig ⟨disposition, ActionFlags.none⟩ with
    | some p => .answered (.ok true) (s.withProcess p)
    | none => .answered (.ok false) s
  | .action signum => .answered (.action (actionOf? s.process signum)) s
  | .raise signum => s.lift (raiseNumber t signum) fun _ p => .raised (calls p)
  | .fault signum code? =>
    s.lift (faultNumber t signum (wasSent code?)) fun _ p => .handled (calls p)
  | .segfault => s.lift (Process.segfault (some t) Process.budget) fun _ _ => .nothing
  | .fatalError function? message =>
    s.lift (Process.fatalError (some t) function? message) fun _ _ => .nothing
  | .saved use slot signum =>
    let (reply, saved, p) := useSaved s.process (s.saved.get slot) signum use
    .answered (.saved reply saved.installed (actionOf? p signum))
      { s with process := p, saved := s.saved.set slot.val saved slot.isLt }
  | .installExceptionHandler =>
    let p := s.process.installExceptionHandler
    .answered (.exceptionInstalled p.exceptionHandlers) (s.withProcess p)
  | .uninstallExceptionHandler =>
    let p := s.process.uninstallExceptionHandler
    .answered (.exceptionHandlers p.exceptionHandlers) (s.withProcess p)
  | .raiseException code? =>
    s.lift (Process.raiseException (some t) code?) fun answers _ => .exceptionReturned answers

end Session

end CrashTrace
