import CrashTrace.Process.Delivery

/-!
# Operations that report

The public operations that write: a dump on request, a report on a fatal error, and the handler for
structured exceptions.

## Main definitions

- `Process.dump`, `Process.fatalErrorWithin`, `Process.fatalError`
- `Process.raiseException` — a structured exception arrives
- `Process.budget` — how many handlers may run inside one another
-/

namespace CrashTrace

namespace Process

/-- How many handlers may run inside one another. Handlers that end need few; this many are
needed only by handlers that keep setting each other off. -/
def budget : Nat := 1000

/-- Writes the stacks to a sink. -/
def dump (caller : Option ThreadId) (sink : Sink) (allThreads : Bool) :
    Run (Except Failure Unit) := do
  let p ← Run.state
  match p.descriptors.checkSink sink.descriptor with
  | .error failure => pure (.error failure)
  | .ok () => do
    let written ← write (raise caller budget) sink.descriptor (p.dumpPieces caller allThreads).text
    pure (written.mapError Failure.write)

/-- Where the report on a fatal error goes, and whether it shows all threads. Without fault
reports it goes to standard error. -/
def fatalErrorTarget (p : Process) : Int × Bool :=
  p.faults.target.load?.getD (Sink.errorDescriptor, true)

/-- Reports a fatal error and ends the process. The fault handlers are taken away first, so that
the end of the process is not reported as a fault. This many handlers may run inside one another. -/
def fatalErrorWithin (budget : Nat) (caller : Option ThreadId) (function? : Option String)
    (message : String) : Run Unit := do
  let p ← Run.state
  let header := Report.fatalHeader function? message (some p.interpreter.phase)
  let _ ← write (raise caller budget) p.fatalErrorTarget.1
    (p.reportPieces header caller p.fatalErrorTarget.2).text
  Run.change uninstallFaults
  abort caller budget

def fatalError (caller : Option ThreadId) (function? : Option String) (message : String) :
    Run Unit :=
  fatalErrorWithin budget caller function? message

/-! ### Structured exceptions -/

/-- The known codes of exceptions. -/
def exceptionDescriptions : List (UInt32 × String) :=
  [(0xC0000005, "access violation"), (0xC000008E, "float divide by zero"),
    (0xC0000091, "float overflow"), (0xC0000094, "int divide by zero"),
    (0xC0000006, "page error"), (0xC00000FD, "stack overflow")]

def exceptionDescription? (code : UInt32) : Option String :=
  (exceptionDescriptions.find? fun known => known.1 = code).map (·.2)

/-- Exceptions that are no errors, and those that language runtimes throw for their own use. -/
def exceptionIgnored (code : UInt32) : Bool :=
  code &&& 0x80000000 = 0 || code = 0xE06D7363 || code = 0xE0434352

/-- Installs the handler for exceptions, once. -/
def installExceptionHandler (p : Process) : Process := { p with exceptionHandler := true }

def uninstallExceptionHandler (p : Process) : Process := { p with exceptionHandler := false }

/-- The number of installed handlers for exceptions. -/
def exceptionHandlers (p : Process) : Nat := if p.exceptionHandler then 1 else 0

def exceptionHeader (code : UInt32) (p : Process) : Pieces :=
  Report.exceptionHeader (exceptionDescription? code) code p.interpreter.unusualPhase?

/-- An exception arrives. An installed handler reports it, if its code is known and not to be
ignored, and lets the search for handlers go on. The answers of the installed handlers are
given. -/
def raiseException (caller : Option ThreadId) (code? : Option UInt32) : Run (List Nat) := do
  let p ← Run.state
  if p.exceptionHandler then do
    match code?.filter fun code => !exceptionIgnored code with
    | some code => reportFault (raise caller budget) caller (exceptionHeader code)
    | none => pure ()
    pure [0]
  else pure []

end Process

end CrashTrace
