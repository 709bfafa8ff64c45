import CrashTrace.Duration
import CrashTrace.Interpreter

/-!
# Headers and closing lines of reports

What stands before and after the stacks: why the report was made, the phase of the observed
interpreter, and its native modules. Messages and function names given for a fatal error are
shown as they are.

## Main definitions

- `Report.fatalHeader`, `Report.exceptionHeader`, `Report.timeoutHeader`
- `Report.phaseLine`
- `Report.modules`
-/

namespace CrashTrace.Report

/-- The line for the phase, if one is given, and the blank line that ends a header. -/
def phaseLine (phase? : Option Phase) : Pieces :=
  (match phase? with
    | some phase => ["Python runtime state: ".toList, phase.word.toList, ['\n']]
    | none => [])
    ++ [['\n']]

/-- The header for a fatal error: the function that met it, if known, and a message. -/
def fatalHeader (function? : Option String) (message : String) (phase? : Option Phase) : Pieces :=
  "Fatal Python error: ".toList
    :: (match function? with
      | some function => [function.toList, ": ".toList]
      | none => [])
    ++ [message.toList, ['\n']] ++ phaseLine phase?

/-- The header for a structured exception: what is known of its code, or the code itself. -/
def exceptionHeader (description? : Option String) (code : UInt32) (phase? : Option Phase) :
    Pieces :=
  "Windows fatal exception: ".toList
    :: (match description? with
      | some description => [description.toList]
      | none => ["code 0x".toList, Numeral.hexWord 8 code.toUInt64])
    ++ ['\n'] :: phaseLine phase?

/-- The header for a report made because time ran out. -/
def timeoutHeader (timeout : Duration) : Text :=
  "Timeout (".toList ++ timeout.clock ++ ")!\n".toList

/-- A blank line and the list of native modules, if there are any. -/
def modules (i : Interpreter) : Pieces :=
  match i.modulesLine? with
  | some line => [['\n'], line]
  | none => []

end CrashTrace.Report
