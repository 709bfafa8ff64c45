import CrashTrace.Session.Control
import CrashTrace.Session.Signals
import CrashTrace.Session.Threads

/-!
# Running a session

Requests are carried out one after the other until the process ends or the requests do.

## Main definitions

- `Step` — a request on a thread
- `Session.step` — one request
- `Session.run` — all requests
- `Session.Result.files` — what the files have received
-/

namespace CrashTrace

/-- Any request. -/
inductive Request where
  | threads (request : ThreadRequest)
  | control (request : ControlRequest)
  | signals (request : SignalRequest)

/-- A request and the thread on which it is made. -/
structure Step where
  thread : ThreadId
  request : Request

/-- What a whole session comes to: the answers with what the log was told meanwhile, how the
process ended if it did, and the last state. -/
structure Session.Result where
  answers : List (Answer × List LogEvent)
  status : Option ExitStatus
  process : Process

/-- What the files have received in the end. A session in a process of its own leaves its files
behind and nothing else; any other one also tells, with an empty text, of descriptors that it has
looked at. -/
def Session.Result.files (r : Session.Result) (apart : Bool) : Entries Int String :=
  let table := r.process.descriptors
  table.received ++ if apart then [] else table.withoutFile.map fun fd => (fd, "")

namespace Session

/-- Carries out one request. -/
def step (s : Session) (step : Step) : Progress :=
  match step.request with
  | .threads request =>
    let (answer, s) := s.threads step.thread request
    .answered answer s
  | .control request => s.control step.thread request
  | .signals request => s.signals step.thread request

/-- Takes what the log has been told since the last time. -/
def takeLog (s : Session) : List LogEvent × Session :=
  (s.process.log, s.withProcess { s.process with log := [] })

/-- Carries out all requests. Handlers that set each other off for ever run inside one another until
no stack is left, and the process dies of that. -/
def run (s : Session) : List Step → Result
  | [] => ⟨[], none, s.process⟩
  | first :: rest =>
    match s.step first with
    | .answered answer s =>
      let (events, s) := s.takeLog
      let result := run s rest
      { result with answers := (answer, events) :: result.answers }
    | .ended status s => ⟨[], some status, s.process⟩
    | .unfinished => ⟨[], some (.signal Signal.segmentation), s.process⟩

end Session

end CrashTrace
