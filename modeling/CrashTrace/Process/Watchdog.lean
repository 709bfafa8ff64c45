import CrashTrace.Process.Operation

/-!
# Timers

A timer dumps all threads after a while, once or again and again, and may end the process then. Its
thread does the waiting and the writing. The public operations arm a timer, in place of the one
that is armed, and cancel it.

## Main definitions

- `Process.timeOut`, `Process.hangUp`, `Process.proceed` — what the thread of a timer does, step by
  step
- `Process.join` — waits until such a thread has finished
- `Process.giveUp` — gives up what is held of a timer, and so stops it
- `Process.startTimer`, `Process.arm`, `Process.cancel`
- `Process.expire` — the time of a timer is over

## Design notes

The steps of a thread can be taken at any moment. `Process.expire` is the usual course: the time is
over, and the thread goes on at once. A timer may also be given up between the two steps, and then
its thread finds that it has been stopped.
-/

namespace CrashTrace

namespace Process

/-- Changes the thread of a timer. -/
def changeTimer (p : Process) (n : Nat) (change : TimerThread → TimerThread) : Process :=
  { p with timers := p.timers.modify n change }

/-- What a timer writes: its header, and all threads. None of them is the thread that writes. -/
def timerText (p : Process) (thread : TimerThread) : Text :=
  thread.header ++ (p.dumpPieces none true).text

/-! ### The thread of a timer -/

/-- A waiting thread has waited for the whole of its time. -/
def timeOut (n : Nat) : Run Unit :=
  Run.change fun p => p.changeTimer n fun thread =>
    if thread.stage = .waiting then thread.timedOut else thread

/-- A waiting thread finds its channel closed, and returns. -/
def hangUp (n : Nat) : Run Unit :=
  Run.change fun p => p.changeTimer n fun thread =>
    if thread.stage = .waiting && thread.closed then thread.returned else thread

/-- A thread whose time is over goes on. It may have been stopped at the last moment; otherwise it
dumps, and then ends the process, waits again or returns. -/
def proceed (n : Nat) : Run Unit := do
  let p ← Run.state
  match p.timers.thread? n with
  | none => pure ()
  | some thread =>
    if thread.stage = .due then
      if thread.cancelled then
        Run.change fun p => p.changeTimer n TimerThread.returned
      else do
        let _ ← write (raise none budget) thread.sink.descriptor (p.timerText thread)
        if thread.settings.exits then Run.finish (.code 1)
        else Run.change fun p => p.changeTimer n TimerThread.dumped
    else pure ()

/-- The time of a timer is over, and its thread goes on. -/
def expire (n : Nat) : Run Unit := do
  timeOut n
  proceed n

/-- The next step of a thread while everyone else waits for it. It is woken up if its channel is
closed, and otherwise its time will be over at last. -/
def advance (n : Nat) : Run Unit := do
  let p ← Run.state
  match p.timers.thread? n with
  | none => pure ()
  | some thread =>
    match thread.stage with
    | .waiting => if thread.closed then hangUp n else timeOut n
    | .due => proceed n
    | .finished => pure ()

/-- Waits until a thread has finished, for a number of steps. A thread that dumps again and again
never does unless it is stopped. -/
def join (n : Nat) : Nat → Run Unit
  | 0 => Run.exhausted
  | steps + 1 => do
    let p ← Run.state
    match p.timers.thread? n with
    | none => pure ()
    | some thread =>
      if thread.stage = .finished then pure ()
      else do
        advance n
        join n steps

/-! ### Arming and cancelling -/

/-- Gives up a timer: raises its flag, closes its channel, and waits for its thread. -/
def giveUp (w : Watchdog) : Run Unit := do
  Run.change fun p => p.changeTimer w.flag fun thread => { thread with cancelled := true }
  match w.wake with
  | none => pure ()
  | some n => Run.change fun p => p.changeTimer n fun thread => { thread with closed := true }
  match w.thread with
  | none => pure ()
  | some n => join n budget

/-- Takes the armed timer away from the process, and gives it up. -/
def replaceTimer : Run Unit := do
  let p ← Run.state
  match p.timers.watchdog with
  | none => pure ()
  | some w => do
    Run.change fun p => { p with timers := { p.timers with watchdog := none } }
    giveUp w

/-- Starts the thread of a timer. Its header is made before anything can fail. -/
def startTimer (sink : Sink) (settings : TimerSettings) (supply : ThreadSupply) :
    Run (Except Failure Watchdog) := do
  let header := Report.timeoutHeader settings.timeout
  match supply with
  | .refused failure => pure (.error (.timerSpawn failure))
  | .available => do
    let p ← Run.state
    Run.change fun p =>
      { p with timers := p.timers.start ⟨sink, header, settings, false, false, .waiting⟩ }
    pure (.ok (.ofNumber p.timers.threads.length))

/-- Arms a timer. The one that was armed is gone before the thread of the new one is started. -/
def arm (sink : Sink) (settings : TimerSettings) (supply : ThreadSupply) :
    Run (Except Failure Unit) := do
  let p ← Run.state
  match p.descriptors.checkSink sink.descriptor with
  | .error failure => pure (.error failure)
  | .ok () => do
    replaceTimer
    match ← startTimer sink settings supply with
    | .error failure => pure (.error failure)
    | .ok w => do
      Run.change fun p => { p with timers := { p.timers with watchdog := some w } }
      Run.change (·.note (.timerArmed sink.descriptor settings))
      pure (.ok ())

/-- Cancels the timer, if there is one. The log is told whether its thread had finished. -/
def cancel : Run Unit := do
  let p ← Run.state
  match p.timers.watchdog with
  | none => pure ()
  | some w => do
    Run.change fun p => { p with timers := { p.timers with watchdog := none } }
    let fired := !p.timers.isArmed w
    giveUp w
    Run.change (·.note (.timerCancelled fired))

/-- The time of the armed timer is over. -/
def expireArmed : Run Unit := do
  let p ← Run.state
  match p.timers.watchdog.bind (·.thread) with
  | none => pure ()
  | some n => expire n

end Process

end CrashTrace
