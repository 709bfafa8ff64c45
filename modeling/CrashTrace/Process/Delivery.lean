import CrashTrace.Process.Control
import CrashTrace.Process.Run
import CrashTrace.Report.Header
import CrashTrace.Report.Stack

/-!
# Delivering signals

What happens when a thread is sent a signal: the default action, nothing, or a handler. Handlers
write reports, put actions back and raise signals themselves, so one signal may set off others,
and a write to a pipe that nobody reads sends a signal too.

## Main definitions

- `Process.write` — a write, with the signal that it may send
- `Process.reportFault` — the one fault report of a process
- `Process.handleFault`, `Process.handleDump` — the two handlers
- `Process.raise` — sends a signal to the running thread
- `Process.segfault`, `Process.abort` — a fault that comes back, and the end of a process by itself

## Design notes

Every definition before `Process.raise` is given the way to raise a signal, and `Process.raise`
ties the knot: handlers inside one another use up a budget, one for each. While a handler runs its
signal is blocked, unless the action says otherwise; a blocked signal waits, and is delivered when
the handler returns.
-/

namespace CrashTrace

/-- A way to send a signal to the running thread. -/
abbrev Raise := Signal → Run Unit

namespace Process

/-- Writes a text to a descriptor. On a pipe that nobody reads the thread is sent a signal before
the write fails. -/
def write (raise : Raise) (fd : Int) (text : Text) : Run (Except IoFailure Unit) := do
  let p ← Run.state
  match p.descriptors.offer fd text with
  | .taken table => do
    Run.change fun p => { p with descriptors := table }
    pure (.ok ())
  | .refused failure => pure (.error failure)
  | .pipeBroken => do
    raise Signal.pipe
    pure (.error .brokenPipe)

/-- The stacks that a process shows now. -/
def dumpPieces (p : Process) (caller : Option ThreadId) (allThreads : Bool) : Pieces :=
  Report.dump p.registry caller allThreads p.interpreter.collecting

/-- A report after a header: the stacks and the native modules. -/
def reportPieces (p : Process) (header : Pieces) (caller : Option ThreadId) (allThreads : Bool) :
    Pieces :=
  header ++ p.dumpPieces caller allThreads ++ Report.modules p.interpreter

/-- Makes the one fault report of the process. Every fault uses it up, also one that finds no
descriptor to report to. -/
def reportFault (raise : Raise) (caller : Option ThreadId) (header : Process → Pieces) :
    Run Unit := do
  let p ← Run.state
  if p.faults.spent then pure ()
  else do
    Run.change (·.changeFaults fun f => { f with spent := true })
    match p.faults.target.load? with
    | none => pure ()
    | some (fd, allThreads) => do
      let _ ← write raise fd (p.reportPieces (header p) caller allThreads).text
      pure ()

/-- The header of a report on a fatal signal. -/
def faultHeader (name : String) (p : Process) : Pieces :=
  Report.fatalHeader none name p.interpreter.unusualPhase?

/-- The default action, as it is left behind by a handler that gives up. -/
def surrenderedAction : Action := ⟨.byDefault, { ActionFlags.none with restart := true }⟩

/-- Handles a fatal signal: reports it, puts the action back that was there before, and raises
the signal again so that this action takes place. A signal that was sent by a thread does not come
back on its own once that action has returned; then the default action takes place. -/
def handleFault (raise : Raise) (caller : Option ThreadId) (s : Signal) (sent : Bool) :
    Run Unit := do
  match s.faultName? with
  | some name => reportFault raise caller (faultHeader name)
  | none => pure ()
  Run.change fun p => if s.faultName?.isSome then p.uninstallFault s else p
  raise s
  if sent then do
    Run.change fun p => p.trySetAction s surrenderedAction
    raise s
  else pure ()

/-- Dumps for a registered signal, unless a dump is being made already. -/
def dumpForSignal (raise : Raise) (caller : Option ThreadId) (s : Signal) : Run Unit := do
  let p ← Run.state
  match (p.userSignal s).target.load? with
  | none => pure ()
  | some (fd, allThreads) =>
    match p.dumping.take? with
    | none => pure ()
    | some held => do
      Run.change fun p => { p with dumping := held }
      let _ ← write raise fd (p.dumpPieces caller allThreads).text
      Run.change fun p => { p with dumping := p.dumping.release }

/-- Handles a registered signal: dumps and then, if asked to, lets the action take place that was
there before. That action may unregister the signal; otherwise the handler installs itself
again. -/
def handleDump (raise : Raise) (caller : Option ThreadId) (s : Signal) : Run Unit := do
  dumpForSignal raise caller s
  let p ← Run.state
  if (p.userSignal s).chain then do
    Run.change fun p => p.reinstate (p.userSignal s).saved s
    raise s
    Run.change fun p =>
      if (p.userSignal s).saved.installed then p.trySetAction s (p.dumpAction true) else p
  else pure ()

/-- The exit code with which a handler of the observed program ends the process. -/
def ownExitCode : Nat := 42

/-- A handler of the observed program. -/
def handleOwn (raise : Raise) (s : Signal) (h : OwnHandler) : Run Unit := do
  Run.change fun p => { p with calls := p.calls.put s (p.calls.get s + 1) }
  match h with
  | .counts => pure ()
  | .exits => Run.finish (.code ownExitCode)
  | .aborts => raise Signal.abort
  | .unregisters => Run.change fun p => (p.unregister s.number).2
  | .raisesUser1 => raise Signal.user1

/-- Runs a handler. -/
def handle (raise : Raise) (caller : Option ThreadId) (s : Signal) (sent : Bool) :
    Handler → Run Unit
  | .own h => handleOwn raise s h
  | .report => handleFault raise caller s sent
  | .dump => handleDump raise caller s

/-- Keeps the arrival of a blocked signal. Most signals are kept once. -/
def keepPending (p : Process) (s : Signal) : Process :=
  if !s.queues && p.pending.contains s then p else { p with pending := p.pending ++ [s] }

/-- Delivers the arrival of a signal that has waited for its handler to return. -/
def deliverPending (raise : Raise) (s : Signal) : Run Unit := do
  let p ← Run.state
  if p.pending.contains s && !p.blocked.contains s then do
    Run.change fun p => { p with pending := p.pending.erase s }
    raise s
  else pure ()

/-- Runs the handler of an action with its signal blocked as the action asks for, and then
delivers the signal if it has arrived once more meanwhile. -/
def invoke (raise : Raise) (caller : Option ThreadId) (s : Signal) (sent : Bool)
    (flags : ActionFlags) (h : Handler) : Run Unit := do
  let p ← Run.state
  let before := p.blocked
  Run.change fun p => { p with blocked := if flags.noDefer then before else s :: before }
  handle raise caller s sent h
  Run.change fun p => { p with blocked := before }
  deliverPending raise s

/-- Lets the action of a signal take place. -/
def takePlace (raise : Raise) (caller : Option ThreadId) (s : Signal) : Run Unit := do
  let p ← Run.state
  let a := p.actions.get s
  match a.disposition with
  | .ignored => pure ()
  | .byDefault => if s.ignoredByDefault then pure () else Run.finish (.signal s)
  | .handled h => invoke raise caller s true a.flags h

/-- Sends a signal to the running thread. A reserved signal is not sent. -/
def raise (caller : Option ThreadId) : Nat → Raise
  | 0, _ => Run.exhausted
  | budget + 1, s => do
    let p ← Run.state
    if s.reserved then pure ()
    else if p.blocked.contains s then Run.change (·.keepPending s)
    else takePlace (raise caller budget) caller s

/-- A real access to memory that is not there. When the handler returns, it happens again. A
signal that the thread would not take ends the process. -/
def segfault (caller : Option ThreadId) : Nat → Run Unit
  | 0 => Run.exhausted
  | budget + 1 => do
    let p ← Run.state
    let a := p.actions.get Signal.segmentation
    match a.disposition with
    | .handled h =>
      if p.blocked.contains Signal.segmentation then Run.finish (.signal Signal.segmentation)
      else do
        invoke (raise caller budget) caller Signal.segmentation false a.flags h
        segfault caller budget
    | _ => Run.finish (.signal Signal.segmentation)

/-- The process ends itself: it raises the abort signal, and dies of it whatever happens then. -/
def abort (caller : Option ThreadId) (budget : Nat) : Run Unit := do
  Run.change fun p => { p with blocked := p.blocked.filter (· ≠ Signal.abort) }
  raise caller budget Signal.abort
  Run.finish (.signal Signal.abort)

end Process

end CrashTrace
