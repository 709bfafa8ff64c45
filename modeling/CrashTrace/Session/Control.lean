import CrashTrace.Session.Basic

/-!
# Requests on sinks, reports and timers

What the observed interpreter tells about itself, descriptors and sinks, fault reports, dumps on
ordinary signals, and timers.

## Main definitions

- `ControlRequest` — the requests
- `Session.control` — what they do and answer
-/

namespace CrashTrace

/-- The sink of a request: standard error, one put by under a name, or one on a descriptor. -/
structure SinkChoice where
  name? : Option String
  descriptor : Int

/-- Requests on sinks, reports and timers. -/
inductive ControlRequest where
  | setModules (names : List String)
  | setPhase (phase : Phase)
  | setCollecting (value : Bool)
  | openAs (descriptor : Int) (kind : DescriptorKind)
  | close (descriptor : Int)
  | sink (choice : SinkChoice) (name? : Option String)
  | validate (choice : SinkChoice)
  | write (choice : SinkChoice) (text : String)
  | contents (descriptor : Int)
  | dump (choice : SinkChoice) (allThreads : Bool)
  | enable (choice : SinkChoice) (settings : FaultSettings.Request) (supply : StackSupply)
  | disable
  | isEnabled
  | arm (choice : SinkChoice) (timeout : Duration) (repeats exits : Bool)
  | cancel
  /-- Lets the timer run out. -/
  | awaitTimer
  /-- Lets a repeating timer run out more than `count` times. -/
  | awaitRepeats (descriptor : Int) (count : Nat)
  | register (choice : SinkChoice) (signum : Int) (settings : UserSignalSettings)
  | unregister (signum : Int)

def Answer.ofUnit : Except Failure Unit → Answer
  | .ok () => .ok true
  | .error failure => .failed failure

namespace Session

def standardErrorName : String := "stderr"

def chosenSink (s : Session) (choice : SinkChoice) : Except Failure Sink :=
  match choice.name? with
  | some name =>
    if name = standardErrorName then .ok Sink.standardError
    else
      match s.sinks.find? name with
      | some sink => .ok sink
      | none => s.process.descriptors.sink choice.descriptor
  | none => s.process.descriptors.sink choice.descriptor

/-- Whether fault reports are enabled, and where they go. -/
def faultView (s : Session) : FaultView :=
  ⟨s.process.faults.enabled, s.process.faults.target.load?⟩

/-- Carries out an operation that only changes what is set up. -/
def answered {α : Type} (s : Session) (operation : Process → Answered α)
    (answer : Except Failure α → Answer) : Progress :=
  let (result, p) := operation s.process
  .answered (answer result) (s.withProcess p)

def changed (s : Session) (change : Process → Process) (answer : Process → Answer) : Progress :=
  let p := change s.process
  .answered (answer p) (s.withProcess p)

/-- Lets the timer run out a number of times. -/
def expireTimes : Nat → Run Unit
  | 0 => pure ()
  | n + 1 => do
    Process.expireArmed
    expireTimes n

/-- Lets the timer run out once and then `count` times more, cancels it and empties the file. The
answer has the text of one dump, and tells whether the others are equal to it. -/
def repeatTimer (descriptor : Int) (count : Nat) : Run (Bool × String) := do
  Run.change fun p => { p with descriptors := (p.descriptors.contents descriptor).2 }
  Process.expireArmed
  let block ← Run.answer fun p =>
    let (text, table) := p.descriptors.contents descriptor
    (text, { p with descriptors := table })
  expireTimes count
  let others ← Run.answer fun p =>
    let (text, table) := p.descriptors.contents descriptor
    (text, { p with descriptors := table })
  Process.cancel
  Run.change fun p => { p with descriptors := p.descriptors.truncate descriptor }
  pure (decide (others = String.join (List.replicate count block)), block)

/-- Carries out a request whose sink has been found. -/
def withSink (s : Session) (choice : SinkChoice) (next : Sink → Progress) : Progress :=
  match s.chosenSink choice with
  | .ok sink => next sink
  | .error failure => .answered (.failed failure) s

/-- Carries out a request on sinks, reports and timers. -/
def control (s : Session) (t : ThreadId) : ControlRequest → Progress
  | .setModules names =>
    s.changed (fun p => { p with interpreter := { p.interpreter with modules := names } })
      fun p => .modules p.interpreter.modulesLine?
  | .setPhase phase =>
    s.changed (fun p => { p with interpreter := { p.interpreter with phase := phase } })
      fun p => .phase p.interpreter.phase p.interpreter.unusualPhase?
  | .setCollecting value =>
    s.changed (fun p => { p with interpreter := { p.interpreter with collecting := value } })
      fun p => .collecting p.interpreter.collecting
  | .openAs fd kind =>
    s.changed (fun p => { p with descriptors := p.descriptors.openAs fd kind }) fun _ => .ok true
  | .close fd =>
    let (wasOpen, table) := s.process.descriptors.close fd
    .answered (.ok wasOpen) (s.withProcess { s.process with descriptors := table })
  | .sink choice name? =>
    s.withSink choice fun sink =>
      .answered (.sink sink) (match name? with
        | some name => { s with sinks := s.sinks.put name sink }
        | none => s)
  | .validate choice =>
    s.withSink choice fun sink =>
      .answered (.ofUnit (s.process.descriptors.checkSink sink.descriptor)) s
  | .write choice text =>
    s.withSink choice fun sink =>
      s.lift (Process.write (Process.raise (some t) Process.budget) sink.descriptor text.toList)
        fun result _ => match result with
          | .ok () => .ok true
          | .error failure => .refused failure
  | .contents fd =>
    let (text, table) := s.process.descriptors.contents fd
    .answered (.contents text) (s.withProcess { s.process with descriptors := table })
  | .dump choice allThreads =>
    s.withSink choice fun sink =>
      s.lift (Process.dump (some t) sink allThreads) fun result _ => .ofUnit result
  | .enable choice settings supply =>
    match s.chosenSink choice with
    | .error failure => .answered (.enabled (.error failure) s.faultView) s
    | .ok sink =>
      match FaultSettings.ofRequest settings with
      | .error failure => .answered (.enabled (.error failure) s.faultView) s
      | .ok settings =>
        let (result, p) := s.process.enable supply sink settings
        let s := s.withProcess p
        .answered (.enabled result s.faultView) s
  | .disable =>
    let s := s.withProcess s.process.disable
    .answered (.faults s.faultView) s
  | .isEnabled => .answered (.faults s.faultView) s
  | .arm choice timeout repeats exits =>
    s.withSink choice fun sink =>
      match TimerSettings.make timeout repeats exits with
      | .error failure => .answered (.failed failure) s
      | .ok settings =>
        s.lift (Process.arm sink settings .available) fun result _ => .ofUnit result
  | .cancel => s.lift Process.cancel fun _ _ => .ok true
  | .awaitTimer => s.lift Process.expireArmed fun _ _ => .done
  | .awaitRepeats fd count =>
    s.lift (repeatTimer fd count) fun (same, block) _ => .repeated same block
  | .register choice signum settings =>
    s.withSink choice fun sink =>
      s.answered (fun p => p.register signum sink settings) .ofUnit
  | .unregister signum =>
    s.answered (fun p => p.unregister signum) fun result => match result with
      | .ok registered => .ok registered
      | .error failure => .failed failure

end Session

end CrashTrace
