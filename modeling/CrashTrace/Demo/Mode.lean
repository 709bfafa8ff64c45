import CrashTrace.Process.Watchdog

/-!
# Demonstration modes

The demonstration program plays a small interpreter that reports its own crashes. Its mode says
what happens to it, as a list of acts.

## Main definitions

- `Demo.Act` — what the program may do
- `Demo.modes` — the acts of each mode
- `Demo.start` — the main thread with its two frames
-/

namespace CrashTrace.Demo

def mainThread : ThreadId := 4096

/-- A second thread, which waits. -/
def waiterThread : ThreadId := 4097

/-- The source of all code of the demonstration. -/
def source : String := "<string>"

/-- The code of the module, which calls the function. -/
def moduleCode : CodeLocation := ⟨"<module>", source⟩

def functionCode : CodeLocation := ⟨"func", source⟩

/-- The code that the second thread runs. -/
def waiterCode : CodeLocation := ⟨"run", source⟩

/-- Code whose name is longer than a report shows. -/
def longCode : CodeLocation := ⟨String.ofList (List.replicate 550 'x'), source⟩

def errorMessage : String := "xyz"

def nativeModules : List String := ["_testcapi", "numpy.core"]

/-- The time after which a timer dumps. -/
def timeout : Duration := ⟨0, 500000000, by decide⟩

/-- What the demonstration program may do. -/
inductive Act where
  | enable (allThreads : Bool)
  | disable
  | collect
  | loadModules
  | finalize
  | startWaiter
  /-- An access to memory that is not there. A stack that overflows is one too. -/
  | touch
  | raise (s : Signal)
  | abort
  | fatalError (function? : Option String)
  | dump (allThreads : Bool)
  | enterLong
  /-- Installs a handler of its own that counts. -/
  | countCalls
  | register (settings : UserSignalSettings)
  /-- Prints how often that handler has run, after a label. -/
  | printCalls (label : String)
  /-- Unregisters, which has to find something registered. -/
  | unregister
  /-- Unregisters and prints whether something was registered. -/
  | printUnregistered
  | arm (repeats exits : Bool)
  | expire
  | cancel
  | giveUp (reason : String)

def modes : List (String × List Act) :=
  [("sigsegv", [.enable true, .touch]),
   ("sigsegv_single", [.enable false, .touch]),
   ("sigsegv_raise", [.enable true, .raise Signal.segmentation]),
   ("sigabrt", [.enable true, .abort]),
   ("sigfpe", [.enable true, .raise Signal.arithmetic]),
   ("sigbus", [.enable true, .raise Signal.bus]),
   ("sigill", [.enable true, .raise Signal.illegal]),
   ("stack_overflow", [.enable true, .touch]),
   ("disable", [.enable true, .disable, .touch]),
   ("gc", [.enable true, .collect, .touch]),
   ("ext_modules", [.loadModules, .enable true, .touch]),
   ("finalizing", [.enable true, .finalize, .touch]),
   ("threads_sigsegv", [.startWaiter, .enable true, .touch]),
   ("fatal_error", [.enable true, .fatalError functionCode.function]),
   ("fatal_error_disabled", [.fatalError none]),
   ("dump_traceback", [.dump false]),
   ("dump_traceback_threads", [.startWaiter, .dump true]),
   ("truncate", [.enterLong, .dump false]),
   ("later", [.arm false false, .expire, .cancel]),
   ("later_repeat", [.arm true false, .expire, .expire, .cancel]),
   ("later_cancel", [.arm false false, .cancel, .cancel]),
   ("later_exit",
    [.arm false true, .expire, .cancel, .giveUp "the watchdog should have exited the process"]),
   ("register",
    [.countCalls, .register ⟨false, false⟩, .raise Signal.user1, .printCalls "chained calls: ",
     .unregister, .raise Signal.user1, .printCalls "calls after unregister: "]),
   ("register_chain",
    [.countCalls, .register ⟨false, true⟩, .raise Signal.user1, .printCalls "chained calls: ",
     .unregister, .raise Signal.user1, .printCalls "calls after unregister: "]),
   ("unregister",
    [.register UserSignalSettings.standard, .printUnregistered, .printUnregistered])]

/-- The acts of a mode by its name. A mode that is not known gives up at once. -/
def actsOf (mode : String) : List Act :=
  match modes.find? fun known => known.1 = mode with
  | some known => known.2
  | none => [.giveUp ("unknown mode " ++ mode)]

/-- Registers a thread; it stays as it was if there is no room for it. -/
def registered (r : Registry) (t : ThreadId) : Registry :=
  match r.register t with
  | .ok r => r
  | .error _ => r

def entered (p : Process) (t : ThreadId) (code : CodeLocation) (line : UInt32) : Process :=
  p.withRegistry (p.registry.enter t ⟨code, line⟩).2

/-- The main thread has called the function from the module. -/
def start (p : Process) : Process :=
  entered (entered (p.withRegistry (registered p.registry mainThread)) mainThread moduleCode 10)
    mainThread functionCode 5

end CrashTrace.Demo
