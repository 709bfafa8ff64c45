import CrashTrace.Demo.Run

/-!
# The demonstration program

Runs a demonstration from the command line: the arguments are a mode and, if wanted, a file for
the reports. An environment variable holds the filter of the log.

## Design notes

The signals of a demonstration are those of its own model and leave this program alone. A
demonstration that a signal ends is shown by an exit code above 128, as a shell shows it.
-/

namespace CrashTrace

/-- The environment variable that holds the filter of the log. -/
def filterVariable : String := "FAULTHANDLER_TEST_LOG"

/-- The exit code that shows how a process ended. -/
def ExitStatus.exitCode : ExitStatus → UInt32
  | .signal s => UInt32.ofNat (128 + s.number)
  | .code n => UInt32.ofNat n

/-- Opens and empties the file for the reports. -/
def openOutput (path : String) : IO (Except IoFailure DescriptorKind) := do
  try
    IO.FS.writeFile path ""
    pure (.ok .file)
  catch
    | .noFileOrDirectory .. => pure (.error .noSuchFile)
    | other => pure (.error (.other (toString other)))

end CrashTrace

open CrashTrace in
/-- Runs a demonstration and shows what came of it. -/
def main (args : List String) : IO UInt32 := do
  let filter? ← IO.getEnv filterVariable
  let opened ←
    match Demo.outputPath? args with
    | some path => openOutput path
    | none => pure (.error .noSuchFile)
  let result := Demo.run args filter? fun _ => opened
  match Demo.outputPath? args, result.written? with
  | some path, some text => IO.FS.writeFile path text
  | _, _ => pure ()
  (← IO.getStdout).putStr result.output
  (← IO.getStderr).putStr result.errors
  pure result.status.exitCode
