import CrashTrace.Registry.Basic
import CrashTrace.System.Errno

/-!
# Failures

Every way in which a public operation can fail, each as a cause of its own, and the one place
where the causes are put into words.

## Main definitions

- `IoFailure` — why a write or an open did not go through
- `SinkFault`, `TimeoutFault`, `AltStackFault` — causes of single operations
- `Failure` — the failures of the public operations
- `Failure.message` and the other `message` functions — their wording
-/

namespace CrashTrace

/-- Why a transfer of bytes did not go through. -/
inductive IoFailure where
  | brokenPipe
  | noSpace
  | badDescriptor
  | noSuchFile
  | notDirectory
  | isDirectory
  | nameTooLong
  | permissionDenied
  | notPermitted
  | noDevice
  | fileBusy
  | invalidArgument
  | transferFailed
  /-- The writer takes no more bytes. -/
  | limitReached
  /-- The writer took none of the bytes offered. -/
  | nothingTaken
  /-- A failure in words of its own. -/
  | other (text : String)
  deriving DecidableEq

/-- The wording of a failed transfer. -/
def IoFailure.message : IoFailure → String
  | .brokenPipe => "Broken pipe (os error 32)"
  | .noSpace => "No space left on device (os error 28)"
  | .badDescriptor => "Bad file descriptor (os error 9)"
  | .noSuchFile => "No such file or directory (os error 2)"
  | .notDirectory => "Not a directory (os error 20)"
  | .isDirectory => "Is a directory (os error 21)"
  | .nameTooLong => "File name too long (os error 36)"
  | .permissionDenied => "Permission denied (os error 13)"
  | .notPermitted => "Operation not permitted (os error 1)"
  | .noDevice => "No such device or address (os error 6)"
  | .fileBusy => "Text file busy (os error 26)"
  | .invalidArgument => "Invalid argument (os error 22)"
  | .transferFailed => "Input/output error (os error 5)"
  | .limitReached => "limit reached"
  | .nothingTaken => "failed to write whole buffer"
  | .other text => text

/-- Why a descriptor cannot receive reports. -/
inductive SinkFault where
  | negative
  | closed
  | notWritable
  /-- A fault in words of its own. -/
  | other (text : String)
  deriving DecidableEq

def SinkFault.message : SinkFault → String
  | .negative => "file descriptor cannot be a negative integer"
  | .closed => "file descriptor is closed"
  | .notWritable => "file descriptor is not writable"
  | .other text => text

/-- Why a timeout is refused. -/
inductive TimeoutFault where
  | zero
  | tooLarge
  /-- A fault in words of its own. -/
  | other (text : String)
  deriving DecidableEq

def TimeoutFault.message : TimeoutFault → String
  | .zero => "timeout must be greater than 0"
  | .tooLarge => "timeout value is too large"
  | .other text => text

/-- Why the alternate signal stack is not there. -/
inductive AltStackFault where
  | createdButUnused
  | noMemory
  /-- The memory below the stack could not be made a guard. -/
  | noGuard
  /-- The system did not take it; the number is what the system answered. -/
  | refused (answer : Int)
  /-- A fault in words of its own. -/
  | other (text : String)
  deriving DecidableEq

def AltStackFault.message : AltStackFault → String
  | .createdButUnused => "Cannot create an altstack without using it"
  | .noMemory => "failed to allocate an alternative stack"
  | .noGuard => "failed to set up alternative stack guard page"
  | .refused answer => "sigaltstack failed " ++ String.ofList (Numeral.int answer)
  | .other text => text

def RegistryFailure.message : RegistryFailure → String
  | .alreadyRegistered => "The current thread is already registered"
  | .full capacity =>
    "No free slot in the thread registry (capacity "
      ++ String.ofList (Numeral.decimal capacity) ++ ")"

/-- The failures of the public operations. -/
inductive Failure where
  | invalidSink (descriptor : Int) (fault : SinkFault)
  /-- Fatal signals are handled by enabling fault reports, not one by one. -/
  | fatalSignal (signum : Int)
  | signalOutOfRange (signum : Int)
  | invalidTimeout (fault : TimeoutFault)
  | altStack (fault : AltStackFault)
  | timerSpawn (failure : IoFailure)
  | write (failure : IoFailure)
  | registry (failure : RegistryFailure)
  | system (code : Errno)
  deriving DecidableEq

def Failure.message : Failure → String
  | .invalidSink descriptor fault =>
    "Invalid sink (fd " ++ String.ofList (Numeral.int descriptor) ++ "): " ++ fault.message
  | .fatalSignal signum =>
    "Signal " ++ String.ofList (Numeral.int signum)
      ++ " cannot be registered, use enable() instead"
  | .signalOutOfRange signum =>
    "Signal number " ++ String.ofList (Numeral.int signum) ++ " out of range"
  | .invalidTimeout fault => "Invalid timeout: " ++ fault.message
  | .altStack fault => "Failed to set up the alternate signal stack: " ++ fault.message
  | .timerSpawn failure => "Failed to spawn the watchdog thread: " ++ failure.message
  | .write failure => "Failed to write the dump: " ++ failure.message
  | .registry failure => failure.message
  | .system code => "System call failed: " ++ code.message

/-- A report could not be written out. -/
structure ReportFailure where
  failure : IoFailure
  deriving DecidableEq

/-- The wording of a report that could not be written out. -/
def ReportFailure.message (f : ReportFailure) : String :=
  "Failed to write to output: " ++ f.failure.message

/-- Seen from a public operation, a report that could not be written out is a failed write. -/
def ReportFailure.toFailure (f : ReportFailure) : Failure := .write f.failure

end CrashTrace
