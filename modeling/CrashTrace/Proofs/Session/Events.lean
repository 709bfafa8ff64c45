import CrashTrace.Proofs.Process.Course
import CrashTrace.Proofs.Process.OneReport
import CrashTrace.Proofs.Process.Separate
import CrashTrace.Proofs.Process.TimerCourse
import CrashTrace.Proofs.Session.Requests

/-!
# Requests as events

Four kinds of events are told of a process: those that concern the actions of its signals, its
faults, its timers, and what is set up. The requests of a session are where such events come from.
Each request that does one thing to the process is an operation, and an operation is an event of
every kind that knows of it. So what holds of all runs of events holds of the requests of a session.

## Main definitions

- `Operation` — what a request does to the process
- `Session.operation?` — the operation that a request is, once its sink and its settings are found
- `Operation.event?`, `Operation.faultEvent?`, `Operation.timerEvent?`, `Operation.setupCall?`
- `Session.Enacts` — requests that are answered one after the other are such and such events

## Main results

- `Session.step_operation` — the request comes to what the operation comes to
- `Session.step_setup` — and a call that sets something up is answered with what it answers
- `Session.Enacts.course`, `Session.Enacts.face`, `Session.Enacts.elapse`,
  `Session.Enacts.carryOutAll`

## Design notes

Writing on request, calling the fault handler, fatal errors, and saved actions used by hand are no
operations: none of the four kinds of events tells of them. A timer that is left to itself several
times over is several operations. A session also hands its log over between two requests, and here
it keeps it: no operation looks at it.
-/

namespace CrashTrace

/-- What a request does to the process. -/
inductive Operation where
  /-- The process stays as it is. -/
  | idle
  | threads (registry : Registry)
  | interpreter (i : Interpreter)
  | descriptors (table : DescriptorTable)
  | setup (call : SetupCall)
  /-- The observed program asks for an action of its own. -/
  | install (s : Signal) (a : Action)
  | signal (caller : Option ThreadId) (s : Signal)
  | segfault (caller : Option ThreadId)
  | installExceptionHandler
  | uninstallExceptionHandler
  | exception (caller : Option ThreadId) (code? : Option UInt32)
  | arm (sink : Sink) (settings : TimerSettings)
  | cancel
  /-- The time of the armed timer is over. -/
  | expire

namespace Operation

def run : Operation → Run Unit
  | .idle => pure ()
  | .threads registry => Run.change fun p => { p with registry := registry }
  | .interpreter i => Run.change fun p => { p with interpreter := i }
  | .descriptors table => Run.change fun p => { p with descriptors := table }
  | .setup call => Run.change fun p => (p.carryOut call).2
  | .install s a => Run.change fun p => p.trySetAction s a
  | .signal caller s => Process.raise caller Process.budget s
  | .segfault caller => Process.segfault caller Process.budget
  | .installExceptionHandler => Run.change Process.installExceptionHandler
  | .uninstallExceptionHandler => Run.change Process.uninstallExceptionHandler
  | .exception caller code? => do
    let _ ← Process.raiseException caller code?
    pure ()
  | .arm sink settings => do
    let _ ← Process.arm sink settings .available
    pure ()
  | .cancel => Process.cancel
  | .expire => Process.expireArmed

/-- The operation as something that happens to the signals of a process. -/
def event? (p : Process) : Operation → Option Event
  | .idle => some (.elsewhere p.registry p.descriptors p.interpreter)
  | .threads registry => some (.elsewhere registry p.descriptors p.interpreter)
  | .interpreter i => some (.elsewhere p.registry p.descriptors i)
  | .descriptors table => some (.elsewhere p.registry table p.interpreter)
  | .setup (.enable supply sink settings) => some (.enable supply sink settings)
  | .setup .disable => some .disable
  | .setup (.register signum sink settings) => some (.register signum sink settings)
  | .setup (.unregister signum) => some (.unregister signum)
  | .install s a => if h : a.Foreign then some (.install s a h) else none
  | .signal caller s => some (.deliver caller s Process.budget)
  | _ => none

/-- The operation as something that happens to a process that reports faults. -/
def faultEvent? (p : Process) : Operation → Option FaultEvent
  | .idle => some (.elsewhere p.registry p.interpreter)
  | .threads registry => some (.elsewhere registry p.interpreter)
  | .interpreter i => some (.elsewhere p.registry i)
  | .setup (.enable supply sink settings) => some (.enable supply sink settings)
  | .setup .disable => some .disable
  | .install s a => some (.install s a)
  | .signal caller s => some (.signal caller s)
  | .segfault caller => some (.segfault caller)
  | .installExceptionHandler => some .installExceptionHandler
  | .uninstallExceptionHandler => some .uninstallExceptionHandler
  | .exception caller code? => some (.exception caller code?)
  | _ => none

/-- The operation as something that happens to timers or around them. -/
def timerEvent? (p : Process) : Operation → Option TimerEvent
  | .idle => some (.elsewhere p.registry p.interpreter)
  | .threads registry => some (.elsewhere registry p.interpreter)
  | .interpreter i => some (.elsewhere p.registry i)
  | .arm sink settings => some (.arm sink settings .available)
  | .cancel => some .cancel
  | .expire =>
    match p.timers.watchdog.bind (·.thread) with
    | some n => some (.expire n)
    | none => some (.elsewhere p.registry p.interpreter)
  | _ => none

def setupCall? : Operation → Option SetupCall
  | .setup call => some call
  | _ => none

-- ════════════════════════════════════════════════════════════════════════
-- An operation and the events that it is
-- ════════════════════════════════════════════════════════════════════════

variable {p : Process} {o : Operation}

theorem after?_event {e : Event} (h : o.event? p = some e) : p.after? e = (o.run p).state? := by
  cases o with
  | setup call => cases call <;> cases h <;> rfl
  | install s a =>
    simp only [event?] at h
    split at h
    · cases h
      rfl
    · cases h
  | _ => cases h <;> rfl

theorem run_faultEvent {e : FaultEvent} (h : o.faultEvent? p = some e) : e.run p = o.run p := by
  cases o with
  | setup call => cases call <;> cases h <;> rfl
  | _ => cases h <;> rfl

theorem run_timerEvent {e : TimerEvent} (h : o.timerEvent? p = some e) : e.run p = o.run p := by
  cases o with
  | expire =>
    show e.run p = Process.expireArmed p
    unfold Process.expireArmed
    rw [Run.state_bind]
    simp only [timerEvent?] at h
    split at h
    · next n hthread =>
      cases h
      rw [hthread]
      rfl
    · next hthread =>
      cases h
      rw [hthread]
      rfl
  | _ => cases h <;> rfl

theorem eq_setup {c : SetupCall} (h : o.setupCall? = some c) : o = .setup c := by
  cases o with
  | setup call =>
    cases h
    rfl
  | _ => cases h

end Operation

/-- How a request leaves the process. -/
def Progress.outcome : Progress → Outcome Unit
  | .answered _ s => .returned () s.process
  | .ended status s => .ended status s.process
  | .unfinished => .unfinished

/-- What a request answers that is a call, with the view of the fault reports after it. -/
def SetupCall.answer (c : SetupCall) (result : SetupAnswer) (view : FaultView) : Answer :=
  match c with
  | .enable _ _ _ => .enabled (result.map fun _ => ()) view
  | .disable => .faults view
  | .register _ _ _ => .ofUnit (result.map fun _ => ())
  | .unregister _ =>
    match result with
    | .ok registered => .ok (registered.getD false)
    | .error failure => .failed failure

namespace Session

variable {s s' : Session} {o : Operation}

def controlOperation? (s : Session) : ControlRequest → Option Operation
  | .setModules names => some (.interpreter { s.process.interpreter with modules := names })
  | .setPhase phase => some (.interpreter { s.process.interpreter with phase := phase })
  | .setCollecting value => some (.interpreter { s.process.interpreter with collecting := value })
  | .openAs fd kind => some (.descriptors (s.process.descriptors.openAs fd kind))
  | .close fd => some (.descriptors (s.process.descriptors.close fd).2)
  | .contents fd => some (.descriptors (s.process.descriptors.contents fd).2)
  | .sink _ _ => some .idle
  | .validate _ => some .idle
  | .isEnabled => some .idle
  | .enable choice settings supply =>
    match s.chosenSink choice, FaultSettings.ofRequest settings with
    | .ok sink, .ok settings => some (.setup (.enable supply sink settings))
    | _, _ => some .idle
  | .disable => some (.setup .disable)
  | .register choice signum settings =>
    match s.chosenSink choice with
    | .ok sink => some (.setup (.register signum sink settings))
    | .error _ => some .idle
  | .unregister signum => some (.setup (.unregister signum))
  | .arm choice timeout repeats exits =>
    match s.chosenSink choice, TimerSettings.make timeout repeats exits with
    | .ok sink, .ok settings => some (.arm sink settings)
    | _, _ => some .idle
  | .cancel => some .cancel
  | .awaitTimer => some .expire
  | .write _ _ => none
  | .dump _ _ => none
  | .awaitRepeats _ _ => none

def signalOperation? (t : ThreadId) : SignalRequest → Option Operation
  | .install signum disposition =>
    match Signal.ofInt? signum with
    | some sig => some (.install sig ⟨disposition, ActionFlags.none⟩)
    | none => some .idle
  | .action _ => some .idle
  | .raise signum =>
    match Signal.ofInt? signum with
    | some sig => some (.signal (some t) sig)
    | none => some .idle
  | .segfault => some (.segfault (some t))
  | .installExceptionHandler => some .installExceptionHandler
  | .uninstallExceptionHandler => some .uninstallExceptionHandler
  | .raiseException code? => some (.exception (some t) code?)
  | .fault _ _ => none
  | .fatalError _ _ => none
  | .saved _ _ _ => none

/-- The operation that a request is. A request that is refused for its sink or its settings is an
idle one. -/
def operation? (s : Session) (step : Step) : Option Operation :=
  match step.request with
  | .threads request => some (.threads (s.threads step.thread request).2.process.registry)
  | .control request => s.controlOperation? request
  | .signals request => signalOperation? step.thread request

-- ════════════════════════════════════════════════════════════════════════
-- A request and its operation
-- ════════════════════════════════════════════════════════════════════════

theorem lift_outcome {α : Type} (run : Run α) (answer : α → Process → Answer) :
    (s.lift run answer).outcome = (do let _ ← run; pure () : Run Unit) s.process := by
  unfold lift
  rw [Run.bind_apply]
  cases run s.process with
  | returned value p => rfl
  | ended status p => rfl
  | unfinished => rfl

theorem lift_outcome_unit (run : Run Unit) (answer : Unit → Process → Answer) :
    (s.lift run answer).outcome = run s.process := by
  rw [lift_outcome, Run.bind_apply]
  cases run s.process with
  | returned value p => rfl
  | ended status p => rfl
  | unfinished => rfl

theorem threads_operation (t : ThreadId) (request : ThreadRequest) :
    (s.step ⟨t, .threads request⟩).outcome =
      (Operation.threads (s.threads t request).2.process.registry).run s.process := by
  obtain ⟨registry, h⟩ := SameButRegistry.threads s t request
  show Outcome.returned () (s.threads t request).2.process = _
  rw [h]
  rfl

theorem control_operation {t : ThreadId} {request : ControlRequest}
    (h : s.controlOperation? request = some o) : (s.control t request).outcome = o.run s.process := by
  cases request with
  | enable choice request supply =>
    simp only [controlOperation?] at h
    simp only [control]
    cases hchosen : s.chosenSink choice with
    | error failure =>
      rw [hchosen] at h
      cases h
      rfl
    | ok sink =>
      rw [hchosen] at h
      cases hsettings : FaultSettings.ofRequest request with
      | error failure =>
        rw [hsettings] at h
        cases h
        rfl
      | ok settings =>
        rw [hsettings] at h
        cases h
        rfl
  | register choice signum settings =>
    simp only [controlOperation?] at h
    simp only [control, withSink]
    cases hchosen : s.chosenSink choice with
    | error failure =>
      rw [hchosen] at h
      cases h
      rfl
    | ok sink =>
      rw [hchosen] at h
      cases h
      rfl
  | arm choice timeout repeats exits =>
    simp only [controlOperation?] at h
    simp only [control, withSink]
    cases hchosen : s.chosenSink choice with
    | error failure =>
      rw [hchosen] at h
      cases h
      rfl
    | ok sink =>
      rw [hchosen] at h
      cases hsettings : TimerSettings.make timeout repeats exits with
      | error failure =>
        rw [hsettings] at h
        cases h
        rfl
      | ok settings =>
        rw [hsettings] at h
        cases h
        exact lift_outcome _ _
  | sink choice name? =>
    cases h
    simp only [control, withSink]
    cases s.chosenSink choice with
    | error failure => rfl
    | ok sink =>
      cases name? with
      | none => rfl
      | some name => rfl
  | validate choice =>
    cases h
    simp only [control, withSink]
    cases s.chosenSink choice with
    | error failure => rfl
    | ok sink => rfl
  | cancel =>
    cases h
    exact lift_outcome_unit _ _
  | awaitTimer =>
    cases h
    exact lift_outcome_unit _ _
  | write choice text => cases h
  | dump choice allThreads => cases h
  | awaitRepeats fd count => cases h
  | _ =>
    cases h
    rfl

theorem signals_operation {t : ThreadId} {request : SignalRequest}
    (h : signalOperation? t request = some o) : (s.signals t request).outcome = o.run s.process := by
  cases request with
  | install signum disposition =>
    simp only [signalOperation?] at h
    simp only [signals]
    cases hsignal : Signal.ofInt? signum with
    | none =>
      rw [hsignal] at h
      cases h
      rfl
    | some sig =>
      rw [hsignal] at h
      cases h
      show _ = Outcome.returned () (s.process.trySetAction sig _)
      unfold Process.trySetAction
      rw [Option.bind_some]
      cases s.process.setAction? sig ⟨disposition, ActionFlags.none⟩ with
      | none => rfl
      | some p => rfl
  | raise signum =>
    simp only [signalOperation?] at h
    refine (lift_outcome_unit _ _).trans ?_
    unfold raiseNumber
    cases hsignal : Signal.ofInt? signum with
    | none =>
      rw [hsignal] at h
      cases h
      rfl
    | some sig =>
      rw [hsignal] at h
      cases h
      rfl
  | segfault =>
    cases h
    exact lift_outcome_unit _ _
  | raiseException code? =>
    cases h
    exact lift_outcome _ _
  | fault signum code? => cases h
  | fatalError function? message => cases h
  | saved use slot signum => cases h
  | _ =>
    cases h
    rfl

/-- A request comes to what its operation comes to: it is answered, ends the process or goes on for
ever along with it, and leaves the same process. -/
theorem step_operation {step : Step} (h : s.operation? step = some o) :
    (s.step step).outcome = o.run s.process := by
  obtain ⟨t, request⟩ := step
  cases request with
  | threads request =>
    cases h
    exact threads_operation t request
  | control request => exact control_operation h
  | signals request => exact signals_operation h

theorem map_none_map_unit (result : Except Failure Unit) :
    ((result.map fun _ => (none : Option Bool)).map fun _ => ()) = result := by
  cases result with
  | error failure => rfl
  | ok _ => rfl

theorem control_setup {t : ThreadId} {request : ControlRequest} {c : SetupCall}
    (h : s.controlOperation? request = some (.setup c)) :
    ∃ s', s.control t request =
        .answered (c.answer (s.process.carryOut c).1 s'.faultView) s' ∧
      s'.process = (s.process.carryOut c).2 := by
  cases request with
  | enable choice request supply =>
    simp only [controlOperation?] at h
    split at h
    · next sink settings hchosen hsettings =>
      cases h
      refine ⟨s.withProcess (s.process.enable supply sink settings).2, ?_, rfl⟩
      simp only [control, hchosen, hsettings]
      exact congrArg (fun result => Progress.answered (.enabled result _) _)
        (map_none_map_unit _).symm
    · cases h
  | disable =>
    cases h
    exact ⟨s.withProcess s.process.disable, rfl, rfl⟩
  | register choice signum settings =>
    simp only [controlOperation?] at h
    split at h
    · next sink hchosen =>
      cases h
      refine ⟨s.withProcess (s.process.register signum sink settings).2, ?_, rfl⟩
      simp only [control, withSink, hchosen]
      exact congrArg (fun result => Progress.answered (.ofUnit result) _)
        (map_none_map_unit _).symm
    · cases h
  | unregister signum =>
    cases h
    refine ⟨s.withProcess (s.process.unregister signum).2, ?_, rfl⟩
    simp only [control, answered, SetupCall.answer, Process.carryOut]
    cases (s.process.unregister signum).1 with
    | error failure => rfl
    | ok registered => rfl
  | arm choice timeout repeats exits =>
    simp only [controlOperation?] at h
    split at h
    · cases h
    · cases h
  | _ => cases h

theorem signalOperation?_ne_setup (t : ThreadId) (request : SignalRequest) (c : SetupCall) :
    signalOperation? t request ≠ some (.setup c) := by
  intro h
  cases request with
  | install signum disposition =>
    simp only [signalOperation?] at h
    split at h
    · cases h
    · cases h
  | raise signum =>
    simp only [signalOperation?] at h
    split at h
    · cases h
    · cases h
  | _ => cases h

/-- A call that sets something up is answered with what it answers. -/
theorem step_setup {step : Step} {c : SetupCall} (h : s.operation? step = some (.setup c)) :
    ∃ s', s.step step = .answered (c.answer (s.process.carryOut c).1 s'.faultView) s' ∧
      s'.process = (s.process.carryOut c).2 := by
  obtain ⟨t, request⟩ := step
  cases request with
  | threads request => cases h
  | control request => exact control_setup h
  | signals request => exact absurd h (signalOperation?_ne_setup t request c)

-- ════════════════════════════════════════════════════════════════════════
-- Requests one after the other
-- ════════════════════════════════════════════════════════════════════════

/-- Requests that are answered one after the other, each of which is an event of some kind. -/
inductive Enacts {E : Type} (event? : Process → Operation → Option E) :
    Session → List E → Session → Prop
  | nil (s : Session) : Enacts event? s [] s
  | cons {s s' s'' : Session} {step : Step} {o : Operation} {a : Answer} {e : E} {rest : List E}
      (operation : s.operation? step = some o) (event : event? s.process o = some e)
      (answered : s.step step = .answered a s') (after : Enacts event? s' rest s'') :
      Enacts event? s (e :: rest) s''

theorem run_of_answered {step : Step} {a : Answer} (h : s.operation? step = some o)
    (hstep : s.step step = .answered a s') : o.run s.process = .returned () s'.process := by
  rw [← step_operation h, hstep]
  rfl

namespace Enacts

/-- The process after the requests is the one after the course of the events. -/
theorem course {events : List Event} (h : Enacts (fun p o => o.event? p) s events s') :
    Process.course s.process events.reverse = some s'.process := by
  induction h with
  | nil s => rfl
  | @cons s s₁ s₂ step o a e rest operation event answered after ih =>
    have hafter := Operation.after?_event event
    rw [run_of_answered operation answered] at hafter
    have hfirst : Process.course s.process [e] = some s₁.process := hafter
    rw [List.reverse_cons, Process.course_append, hfirst]
    exact ih

/-- Runs one after the other, one for each event. -/
theorem runs {E : Type} {event? : Process → Operation → Option E} {run : E → Run Unit}
    {all : List E → Run Unit} (hnil : all [] = pure ())
    (hcons : ∀ e rest, all (e :: rest) = run e >>= fun _ => all rest)
    (hrun : ∀ p o e, event? p o = some e → run e p = o.run p) {events : List E}
    (h : Enacts event? s events s') : all events s.process = .returned () s'.process := by
  induction h with
  | nil s => rw [hnil, Run.pure_apply]
  | cons operation event answered after ih =>
    have hfirst := (hrun _ _ _ event).trans (run_of_answered operation answered)
    rw [hcons, Run.bind_of_returned hfirst, ih]

theorem face {events : List FaultEvent} (h : Enacts (fun p o => o.faultEvent? p) s events s') :
    Process.face events s.process = .returned () s'.process :=
  h.runs rfl (fun _ _ => rfl) fun _ _ _ => Operation.run_faultEvent

theorem elapse {events : List TimerEvent} (h : Enacts (fun p o => o.timerEvent? p) s events s') :
    Process.elapse events s.process = .returned () s'.process :=
  h.runs rfl (fun _ _ => rfl) fun _ _ _ => Operation.run_timerEvent

theorem carryOutAll {calls : List SetupCall} (h : Enacts (fun _ o => o.setupCall?) s calls s') :
    (s.process.carryOutAll calls).2 = s'.process := by
  induction h with
  | nil s => rfl
  | @cons s s₁ s₂ step o a call rest operation event answered after ih =>
    obtain rfl := Operation.eq_setup event
    have hrun := run_of_answered operation answered
    have hprocess : (s.process.carryOut call).2 = s₁.process := (Outcome.returned.inj hrun).2
    show ((s.process.carryOut call).2.carryOutAll rest).2 = s₂.process
    rw [hprocess]
    exact ih

end Enacts

end Session

end CrashTrace
