import CrashTrace.Process.Action

/-!
# Setting up reports

The public operations that only change what is set up: fault reports are enabled and disabled,
and ordinary signals registered and unregistered.

## Main definitions

- `Process.enable`, `Process.disable`
- `Process.register`, `Process.unregister`

## Design notes

Each operation gives its answer and the state after it, also when it fails. The sink is checked
before anything is changed.
-/

namespace CrashTrace

/-- What an operation answers, and the state after it. -/
abbrev Answered (α : Type) := Except Failure α × Process

/-- Whether the system can give the process an alternate stack. -/
inductive StackSupply where
  | available
  /-- No memory can be had. -/
  | noMemory
  /-- The memory below the stack cannot be made a guard. -/
  | noGuard
  /-- The thread runs on an alternate stack already. -/
  | inUse
  deriving DecidableEq

namespace Process

/-! ### Fault reports -/

/-- Changes what is set up for fatal signals. -/
def changeFaults (p : Process) (change : FaultReporting → FaultReporting) : Process :=
  { p with faults := change p.faults }

/-- Creates the alternate stack if the settings ask for it and it is not there yet. -/
def provideAltStack (p : Process) (supply : StackSupply) (s : FaultSettings) :
    Except Failure Process :=
  if s.createAltStack && !p.faults.altStack then
    match supply with
    | .available => .ok (p.changeFaults fun f => { f with altStack := true })
    | .noMemory => .error (.altStack .noMemory)
    | .noGuard => .error (.altStack .noGuard)
    | .inUse => .error (.altStack (.refused (-1)))
  else .ok p

/-- The action that reports a fatal signal. The signal is not blocked meanwhile, so that it can
be raised again from inside the handler. -/
def reportAction (s : FaultSettings) : Action :=
  ⟨.handled .report, { ActionFlags.none with noDefer := true, onStack := s.useAltStack, info := true }⟩

/-- Saves the action of a fatal signal and installs the reporting handler. -/
def installFault (settings : FaultSettings) (p : Process) (s : Signal) : Process :=
  let saved : SavedAction := ⟨true, p.actions.get s⟩
  (p.changeFaults fun f => { f with saved := f.saved.put s saved }).setAction s
    (reportAction settings)

/-- Puts back the action of a fatal signal. -/
def uninstallFault (p : Process) (s : Signal) : Process :=
  let (_, saved, p') := p.restore (p.faults.saved.get s) s
  p'.changeFaults fun f => { f with saved := f.saved.put s saved }

/-- The fatal signals in the order in which they are handled. -/
def faultSignals : List Signal := Signal.faults.map (·.1)

/-- Puts back the actions of all fatal signals. -/
def uninstallFaults (p : Process) : Process := faultSignals.foldl uninstallFault p

/-- Takes the descriptor for fault reports away. -/
def clearFaultTarget (p : Process) : Process :=
  p.changeFaults fun f => { f with target := f.target.clear }

/-- Enables fault reports. While they are enabled only the sink and the choice of threads
change. -/
def enable (p : Process) (supply : StackSupply) (sink : Sink) (settings : FaultSettings) :
    Answered Unit :=
  match p.descriptors.checkSink sink.descriptor with
  | .error failure => (.error failure, p)
  | .ok () =>
    let aimed := p.changeFaults fun f =>
      { f with target := f.target.set sink.descriptor settings.allThreads }
    if p.faults.enabled then (.ok (), aimed.note (.sinkReplaced sink.descriptor))
    else
      match aimed.provideAltStack supply settings with
      | .error failure => (.error failure, aimed.clearFaultTarget)
      | .ok ready =>
        let installed := faultSignals.foldl (installFault settings) ready
        let enabled := installed.changeFaults fun f => { f with enabled := true }
        (.ok (), enabled.note (.enabled sink.descriptor settings.allThreads))

/-- Disables fault reports. -/
def disable (p : Process) : Process :=
  if p.faults.enabled then
    (p.uninstallFaults.clearFaultTarget.changeFaults fun f => { f with enabled := false }).note
      .disabled
  else p

/-! ### Ordinary signals -/

/-- What is set up for an ordinary signal. -/
def userSignal (p : Process) (s : Signal) : UserSignal := p.userSignals.get s

/-- Changes what is set up for an ordinary signal. -/
def changeUserSignal (p : Process) (s : Signal) (change : UserSignal → UserSignal) : Process :=
  { p with userSignals := p.userSignals.put s (change (p.userSignal s)) }

/-- The action that dumps. With `chain` the signal is not blocked meanwhile, so that the action
that was there before can be raised from inside the handler. -/
def dumpAction (p : Process) (chain : Bool) : Action :=
  ⟨.handled .dump, ⟨chain, p.faults.altStack, true, true⟩⟩

/-- Installs the dumping handler for a signal that has passed the checks. -/
def installDump (p : Process) (s : Signal) (sink : Sink) (settings : UserSignalSettings) :
    Answered Unit :=
  let wasInstalled := (p.userSignal s).saved.installed
  let captured :=
    if wasInstalled then .ok (p.userSignal s).saved else p.capture (p.userSignal s).saved s
  match captured with
  | .error failure => (.error failure, p)
  | .ok saved =>
    let marked := p.changeUserSignal s fun u =>
      ⟨u.target.set sink.descriptor settings.allThreads, settings.chain,
        { saved with installed := true }⟩
    match marked.setAction? s (marked.dumpAction settings.chain) with
    | some installed => (.ok (), installed)
    | none =>
      let undone :=
        if wasInstalled then marked
        else marked.changeUserSignal s fun u =>
          { u with target := u.target.clear, saved := { u.saved with installed := false } }
      (.error (.system Errno.invalidArgument), undone)

/-- Registers an ordinary signal for dumps. Registering it again changes the sink and the settings
and keeps the action that was there before the first time. -/
def register (p : Process) (signum : Int) (sink : Sink) (settings : UserSignalSettings) :
    Answered Unit :=
  match Signal.registrable signum with
  | .error failure => (.error failure, p)
  | .ok s =>
    match p.descriptors.checkSink sink.descriptor with
    | .error failure => (.error failure, p)
    | .ok () =>
      match p.installDump s sink settings with
      | (.error failure, p') => (.error failure, p')
      | (.ok (), p') => (.ok (), p'.note (.registered signum sink.descriptor settings.chain))

/-- Puts back the action of a registered signal, and tells whether it was registered. -/
def removeDump (p : Process) (s : Signal) : Bool × Process :=
  let (restored, saved, p') := p.restore (p.userSignal s).saved s
  (restored, p'.changeUserSignal s fun u => { u with target := u.target.clear, saved := saved })

/-- Unregisters an ordinary signal, and tells whether it was registered. -/
def unregister (p : Process) (signum : Int) : Answered Bool :=
  match Signal.registrable signum with
  | .error failure => (.error failure, p)
  | .ok s =>
    let (registered, p') := p.removeDump s
    (.ok registered, p'.note (.unregistered signum registered))

end Process

end CrashTrace
