import CrashTrace.Demo.Mode
import CrashTrace.Log.Filter

/-!
# Running a demonstration

The arguments name a mode and, if wanted, a file for the reports; without it they go to standard
error. What the log shows goes to standard output, among the lines that the mode prints.

## Main definitions

- `Trouble` — why the program gave up, and its text
- `Demo.Act.run` — one act
- `Demo.run` — a whole demonstration
-/

namespace CrashTrace

/-- Why a program gives up, and what caused that, from the nearest to the farthest. -/
structure Trouble where
  message : String
  causes : List String
  deriving DecidableEq

namespace Trouble

/-- The causes, one in a line; several are numbered. -/
def causeLines : List String → List String
  | [cause] => ["    " ++ cause]
  | causes =>
    causes.zipIdx.map fun (cause, i) =>
      "    " ++ String.ofList (Numeral.decimal i) ++ ": " ++ cause

/-- The text that shows why a program gives up. -/
def text (t : Trouble) : String :=
  let lines := ("Error: " ++ t.message)
    :: (if t.causes.isEmpty then [] else "" :: "Caused by:" :: causeLines t.causes)
  String.join (lines.map (· ++ "\n"))

def behind : Failure → List String
  | .write failure => [failure.message]
  | .system code => [code.message]
  | _ => []

/-- An operation has failed. -/
def ofFailure (failure : Failure) : Trouble := ⟨failure.message, behind failure⟩

/-- An operation has failed while something else was to be done. -/
def ofFailureWhile (doing : String) (failure : Failure) : Trouble :=
  ⟨doing, failure.message :: behind failure⟩

end Trouble

namespace Demo

/-- What an act prints, or why the program gives up. -/
abbrev Printed := Except Trouble String

/-- An act that prints nothing. -/
def silent (run : Run Unit) : Run Printed := do
  run
  pure (.ok "")

/-- An operation that may fail and prints nothing. -/
def attempt {α : Type} (trouble : Failure → Trouble) (print : α → Printed)
    (operation : Run (Except Failure α)) : Run Printed := do
  match ← operation with
  | .ok value => pure (print value)
  | .error failure => pure (.error (trouble failure))

/-- Unregisters the first signal for free use. -/
def unregisterUser1 (print : Bool → Printed) : Run Printed :=
  attempt .ofFailure print (Run.answer fun p => p.unregister Signal.user1.number)

/-- Raises a signal on the main thread. -/
def raise : Raise := Process.raise (some mainThread) Process.budget

/-- One act of a demonstration whose reports go to `sink`. -/
def Act.run (sink : Sink) : Act → Run Printed
  | .enable allThreads =>
    attempt (.ofFailureWhile "enabling the fault handler") (fun _ => .ok "")
      (Run.answer fun p => p.enable .available sink (FaultSettings.withAllThreads allThreads))
  | .disable => silent (Run.change Process.disable)
  | .collect =>
    silent (Run.change fun p => { p with interpreter := { p.interpreter with collecting := true } })
  | .loadModules =>
    silent (Run.change fun p =>
      { p with interpreter := { p.interpreter with modules := nativeModules } })
  | .finalize =>
    silent (Run.change fun p =>
      { p with interpreter := { p.interpreter with phase := .finalizing } })
  | .startWaiter =>
    silent (Run.change fun p =>
      entered (p.withRegistry (registered p.registry waiterThread)) waiterThread waiterCode 22)
  | .touch => silent (Process.segfault (some mainThread) Process.budget)
  | .raise s => silent (Demo.raise s)
  | .abort => silent (Process.abort (some mainThread) Process.budget)
  | .fatalError function? => silent (Process.fatalError (some mainThread) function? errorMessage)
  | .dump allThreads =>
    attempt .ofFailure (fun _ => .ok "") (Process.dump (some mainThread) sink allThreads)
  | .enterLong => silent (Run.change fun p => entered p mainThread longCode 4)
  | .countCalls =>
    silent (Run.change fun p =>
      p.trySetAction Signal.user1 ⟨.handled (.own .counts), ActionFlags.none⟩)
  | .register settings =>
    attempt .ofFailure (fun _ => .ok "")
      (Run.answer fun p => p.register Signal.user1.number sink settings)
  | .printCalls label => do
    let p ← Run.state
    pure (.ok (label ++ String.ofList (Numeral.decimal (p.calls.get Signal.user1)) ++ "\n"))
  | .unregister =>
    unregisterUser1 fun wasRegistered =>
      if wasRegistered then .ok "" else .error ⟨"was registered", []⟩
  | .printUnregistered =>
    unregisterUser1 fun wasRegistered =>
      .ok ("unregistered: " ++ LogEvent.word wasRegistered ++ "\n")
  | .arm repeats exits =>
    attempt .ofFailure (fun _ => .ok "")
      (match TimerSettings.make timeout repeats exits with
      | .ok settings => Process.arm sink settings .available
      | .error failure => pure (.error failure))
  | .expire => silent Process.expireArmed
  | .cancel => silent Process.cancel
  | .giveUp reason => pure (.error ⟨reason, []⟩)

/-- What a demonstration comes to. -/
structure Result where
  status : ExitStatus
  output : String
  errors : String
  /-- What the file for the reports has received, if one was opened. -/
  written? : Option String

/-- The lines of the log that a filter shows. Without a filter there is no log. -/
def shown (filter? : Option LogFilter) (events : List LogEvent) : String :=
  match filter? with
  | none => ""
  | some f => String.join ((events.filter f.shows).map fun e => e.originLine ++ "\n")

/-- The end of a run of acts: how the process ended, what went to standard output, and why the
program gave up, if it did. -/
structure Ending where
  status : ExitStatus
  output : String
  trouble? : Option Trouble
  process : Process

/-- Takes what an act has sent to standard output: reports, if they go there, and the lines of the
log. No act has both. -/
def takeOutput (filter? : Option LogFilter) (p : Process) : String × Process :=
  (p.descriptors.standardOutput ++ shown filter? p.log,
    { p with log := [], descriptors := { p.descriptors with standardOutput := "" } })

/-- The exit code of a program that has given up. -/
def troubleCode : Nat := 1

/-- Acts one after the other, until the process ends, the program gives up, or no act is left. -/
def runActs (filter? : Option LogFilter) (sink : Sink) : List Act → Process → Ending
  | [], p => ⟨.code 0, "", none, p⟩
  | act :: rest, p =>
    match act.run sink p with
    | .returned printed p =>
      let (lines, p) := takeOutput filter? p
      match printed with
      | .ok text =>
        let ending := runActs filter? sink rest p
        { ending with output := lines ++ text ++ ending.output }
      | .error trouble => ⟨.code troubleCode, lines, some trouble, p⟩
    | .ended status p =>
      let (lines, p) := takeOutput filter? p
      ⟨status, lines, none, p⟩
    | .unfinished => ⟨.code troubleCode, "", none, p⟩

def fileDescriptor : Int := 3

/-- The file that the arguments name for the reports. It is opened even if more arguments
follow. -/
def outputPath? : List String → Option String
  | _ :: path :: _ => some path
  | _ => none

/-- A demonstration that gives up before it has begun. -/
def refused (complaints : String) (trouble : Trouble) (written? : Option String) : Result :=
  ⟨.code troubleCode, "", complaints ++ trouble.text, written?⟩

/-- A demonstration whose reports go to `sink`. -/
def perform (complaints : String) (filter? : Option LogFilter) (mode : String)
    (table : DescriptorTable) (sink : Sink) : Result :=
  let ending := runActs filter? sink (actsOf mode)
    (start { Process.initial with descriptors := table })
  let table := ending.process.descriptors
  ⟨ending.status, ending.output,
    complaints ++ table.standardError ++ (ending.trouble?.elim "" Trouble.text),
    (table.file? sink.descriptor).map FileText.all⟩

/-- A whole demonstration. The filter of the log is a text, if there is to be a log. `openFile`
tells what opening the file for the reports comes to. -/
def run (args : List String) (filterText? : Option String)
    (openFile : String → Except IoFailure DescriptorKind) : Result :=
  let filter? := filterText?.map fun text => LogFilter.ofText text.toList
  let complaints := String.join ((filter?.elim [] LogFilter.complaints).map (· ++ "\n"))
  match args with
  | [] => refused complaints ⟨"Unexpected number of arguments 1", []⟩ none
  | [mode] => perform complaints filter? mode DescriptorTable.initial Sink.standardError
  | mode :: path :: rest =>
    match openFile path with
    | .error failure => refused complaints ⟨"opening " ++ path, [failure.message]⟩ none
    | .ok kind =>
      if rest.isEmpty then
        perform complaints filter? mode (DescriptorTable.initial.openAs fileDescriptor kind)
          ⟨fileDescriptor⟩
      else refused complaints ⟨"unexpected extra arguments", []⟩ (some "")

end Demo

end CrashTrace
