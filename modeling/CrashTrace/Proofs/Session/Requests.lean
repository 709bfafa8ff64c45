import CrashTrace.Proofs.Process.Settled
import CrashTrace.Session.Run

/-!
# What requests leave alone

Between two requests no handler runs. A relation that every delivery keeps, and each of the few
other things that a request does, is kept by every request that is answered. Only enabling and
disabling fault reports and registering a signal set something up and are left aside. So every
request that is answered has unblocked what it blocked, and only enabling and disabling change
whether fault reports are enabled and where they go.

## Main definitions

- `Process.Lasting` — a relation holds for each thing that a request does
- `Session.SameButRegistry` — a request on threads changes nothing of the process but its registry
- `ControlRequest.SetsUp` — enabling, disabling and registering
- `ControlRequest.Switches` — enabling and disabling
- `Session.Advance` — what a request that is answered does to the process

## Main results

- `Session.step_lasting`, `Session.step_advance`
- `Session.step_undisturbed`
-/

namespace CrashTrace

open Process (Undisturbed)

namespace Process

variable {p q : Process}

namespace Undisturbed

theorem changeUserSignal (p : Process) (s : Signal) (change : UserSignal → UserSignal) :
    Undisturbed p (p.changeUserSignal s change) :=
  of_faults rfl (List.Sublist.refl _) rfl

theorem setAction? {s : Signal} {a : Action} (h : p.setAction? s a = some q) :
    Undisturbed p q :=
  trySetAction_of_some h ▸ trySetAction p s a

theorem installDump (p : Process) (s : Signal) (sink : Sink) (settings : UserSignalSettings) :
    Undisturbed p (p.installDump s sink settings).2 := by
  unfold Process.installDump
  dsimp only
  split
  · exact refl p
  · split
    · next h => exact (changeUserSignal p s _).trans (setAction? h)
    · dsimp only
      split
      · exact changeUserSignal p s _
      · exact (changeUserSignal p s _).trans (changeUserSignal _ s _)

theorem register (p : Process) (n : Int) (sink : Sink) (settings : UserSignalSettings) :
    Undisturbed p (p.register n sink settings).2 := by
  unfold Process.register
  split
  · exact refl p
  · next s _ =>
    split
    · exact refl p
    · have hinstall := installDump p s sink settings
      split
      · next h =>
        rw [h] at hinstall
        exact hinstall
      · next h =>
        rw [h] at hinstall
        exact hinstall.trans (of_faults rfl (List.Sublist.refl _) rfl)

end Undisturbed

/-- A relation holds for each thing that a request does, unless it sets something up. -/
structure Lasting (R : Process → Process → Prop) : Prop extends Tolerant R where
  raise : ∀ caller s, Run.Within R (Process.raise caller budget s)
  handleFault : ∀ caller s sent,
    Run.Within R (Process.handleFault (Process.raise caller budget) caller s sent)
  unregister : ∀ p n, R p (p.unregister n).2
  reinstate : ∀ p s kept, R p (p.reinstate kept s)
  setAction? : ∀ {p q s a}, p.setAction? s a = some q → R p q

theorem Undisturbed.lasting : Lasting Undisturbed where
  toTolerant := Undisturbed.closed.tolerant
  raise caller s := raise_undisturbed caller budget s
  handleFault caller s sent := handleFault_undisturbed (raise_undisturbed caller budget) caller s sent
  unregister := Undisturbed.unregister
  reinstate p s kept := Undisturbed.reinstate p s kept
  setAction? := Undisturbed.setAction?

-- ════════════════════════════════════════════════════════════════════════
-- Runs of the public operations
-- ════════════════════════════════════════════════════════════════════════

namespace Lasting

variable {R : Process → Process → Prop} (hR : Lasting R) (caller : Option ThreadId)

include hR

theorem elsewhere (p : Process) (registry : Registry) (interpreter : Interpreter)
    (descriptors : DescriptorTable) : R p { p with
      registry := registry, interpreter := interpreter, descriptors := descriptors } :=
  hR.of_same ⟨rfl, rfl, rfl, rfl, rfl, rfl, rfl⟩ rfl

theorem writeTo (fd : Int) (text : Text) :
    Run.Within R (write (Process.raise caller budget) fd text) :=
  hR.write (hR.raise caller _) fd text

theorem dump (sink : Sink) (allThreads : Bool) :
    Run.Within R (Process.dump caller sink allThreads) := by
  refine Run.Within.state_bind fun p => ?_
  split
  · exact hR.pure _
  · exact hR.bind (hR.writeTo caller _ _) fun _ => hR.pure _

theorem timers (p : Process) (timers : Timers) : R p { p with timers := timers } :=
  hR.of_same ⟨rfl, rfl, rfl, rfl, rfl, rfl, rfl⟩ rfl

theorem changeTimer (n : Nat) (change : TimerThread → TimerThread) :
    Run.Within R (Run.change fun p => p.changeTimer n change) :=
  .change fun p => hR.timers p _

theorem note (e : LogEvent) : Run.Within R (Run.change (·.note e)) :=
  .change fun _ => hR.of_same ⟨rfl, rfl, rfl, rfl, rfl, rfl, rfl⟩ rfl

theorem proceed (n : Nat) : Run.Within R (Process.proceed n) := by
  refine Run.Within.state_bind fun p => ?_
  split
  · exact hR.pure ()
  · split
    · split
      · exact hR.changeTimer n _
      · refine hR.bind (hR.writeTo none _ _) fun _ => ?_
        split
        · exact .finish _
        · exact hR.changeTimer n _
    · exact hR.pure ()

theorem expire (n : Nat) : Run.Within R (Process.expire n) :=
  hR.bind (hR.changeTimer n _) fun _ => hR.proceed n

theorem advance (n : Nat) : Run.Within R (Process.advance n) := by
  refine Run.Within.state_bind fun p => ?_
  split
  · exact hR.pure ()
  · split
    · split
      · exact hR.changeTimer n _
      · exact hR.changeTimer n _
    · exact hR.proceed n
    · exact hR.pure ()

theorem join (n steps : Nat) : Run.Within R (Process.join n steps) := by
  induction steps with
  | zero =>
    intro p v q h
    cases h
  | succ steps ih =>
    refine Run.Within.state_bind fun p => ?_
    split
    · exact hR.pure ()
    · split
      · exact hR.pure ()
      · exact hR.bind (hR.advance n) fun _ => ih

theorem giveUp (w : Watchdog) : Run.Within R (Process.giveUp w) := by
  obtain ⟨flag, wake, thread⟩ := w
  refine hR.bind (hR.changeTimer flag _) fun _ => ?_
  cases thread with
  | none =>
    cases wake with
    | none => exact hR.pure ()
    | some m => exact hR.bind (hR.changeTimer m _) fun _ => hR.pure ()
  | some n =>
    cases wake with
    | none => exact hR.join n _
    | some m => exact hR.bind (hR.changeTimer m _) fun _ => hR.join n _

theorem replaceTimer : Run.Within R Process.replaceTimer := by
  refine Run.Within.state_bind fun p => ?_
  split
  · exact hR.pure ()
  · exact hR.bind (.change fun p => hR.timers p _) fun _ => hR.giveUp _

theorem arm (sink : Sink) (settings : TimerSettings) (supply : ThreadSupply) :
    Run.Within R (Process.arm sink settings supply) := by
  refine Run.Within.state_bind fun p => ?_
  split
  · exact hR.pure _
  · refine hR.bind hR.replaceTimer fun _ => hR.bind ?_ fun started => ?_
    · cases supply with
      | refused failure => exact hR.pure _
      | available =>
        refine Run.Within.state_bind fun p => ?_
        exact hR.bind (.change fun p => hR.timers p _) fun _ => hR.pure _
    · split
      · exact hR.pure _
      · refine hR.bind (.change fun p => hR.timers p _) fun _ => ?_
        exact hR.bind (hR.note _) fun _ => hR.pure _

theorem cancel : Run.Within R Process.cancel := by
  refine Run.Within.state_bind fun p => ?_
  split
  · exact hR.pure ()
  · refine hR.bind (.change fun p => hR.timers p _) fun _ => ?_
    exact hR.bind (hR.giveUp _) fun _ => hR.note _

theorem expireArmed : Run.Within R Process.expireArmed := by
  refine Run.Within.state_bind fun p => ?_
  split
  · exact hR.pure ()
  · exact hR.expire _

theorem raiseException (code? : Option UInt32) :
    Run.Within R (Process.raiseException caller code?) := by
  refine Run.Within.state_bind fun p => ?_
  split
  · split
    · refine hR.bind ?_ fun _ => hR.pure _
      exact hR.reportFault (hR.raise caller _) caller _
    · exact hR.pure _
  · exact hR.pure _

end Lasting

section Runs

variable (caller : Option ThreadId)

/-- A fault that comes back is not survived. -/
theorem segfault_not_returned (budget : Nat) :
    Run.Within (fun _ _ => False) (segfault caller budget) := by
  induction budget with
  | zero =>
    intro p v q h
    cases h
  | succ budget ih =>
    refine Run.Within.state_bind fun p => ?_
    dsimp only
    split
    · split
      · exact .finish _
      · intro p v q h
        obtain ⟨_, r, -, hagain⟩ := Run.bind_returned.mp h
        exact ih r _ q hagain
    · exact .finish _

theorem fatalError_not_returned (function? : Option String) (message : String) :
    Run.Within (fun _ _ => False) (fatalError caller function? message) := by
  refine Run.Within.state_bind fun p r v q h => ?_
  obtain ⟨_, r₁, -, h⟩ := Run.bind_returned.mp h
  rw [Run.change_bind] at h
  unfold abort at h
  rw [Run.change_bind] at h
  obtain ⟨_, r₂, -, h⟩ := Run.bind_returned.mp h
  cases h

end Runs

end Process

namespace Session

variable {s s' : Session}

-- ════════════════════════════════════════════════════════════════════════
-- Requests on threads
-- ════════════════════════════════════════════════════════════════════════

/-- Nothing of the process differs but the registry. -/
def SameButRegistry (s s' : Session) : Prop :=
  ∃ r, s'.process = s.process.withRegistry r

namespace SameButRegistry

theorem refl (s : Session) : SameButRegistry s s := ⟨s.process.registry, rfl⟩

theorem trans {s₁ s₂ s₃ : Session} (h₁₂ : SameButRegistry s₁ s₂) (h₂₃ : SameButRegistry s₂ s₃) :
    SameButRegistry s₁ s₃ := by
  obtain ⟨r, h₁₂⟩ := h₁₂
  obtain ⟨r', h₂₃⟩ := h₂₃
  exact ⟨r', by rw [h₂₃, h₁₂]; rfl⟩

theorem lasting {R : Process → Process → Prop} (hR : Process.Lasting R)
    (h : SameButRegistry s s') : R s.process s'.process := by
  obtain ⟨r, h⟩ := h
  rw [h]
  exact hR.elsewhere _ r _ _

theorem registerThread (s : Session) (t : ThreadId) :
    SameButRegistry s (s.registerThread t).2 := by
  unfold Session.registerThread
  split
  · exact ⟨_, rfl⟩
  · exact refl s

theorem enterFrames (s : Session) (t : ThreadId) (code : CodeLocation) (step : UInt32)
    (count : Nat) (line : UInt32) : SameButRegistry s (s.enterFrames t code step count line) :=
  ⟨_, rfl⟩

theorem registerFrom (s : Session) (code? : Option CodeLocation) (n number : Nat) :
    SameButRegistry s (s.registerFrom code? n number).2 := by
  induction n generalizing s number with
  | zero => exact refl s
  | succ n ih =>
    have hfirst := registerThread s (ThreadId.ofNumber number)
    unfold Session.registerFrom
    dsimp only
    split
    · refine hfirst.trans (trans ?_ (ih _ _))
      split
      · exact enterFrames _ _ _ _ _ _
      · exact refl _
    · refine hfirst.trans (trans ?_ (ih _ _))
      split
      · exact enterFrames _ _ _ _ _ _
      · exact refl _

theorem takeGuard? {t : ThreadId} {i : Int} {guard : FrameGuard}
    (h : s.takeGuard? t i = some (guard, s')) : SameButRegistry s s' := by
  unfold Session.takeGuard? at h
  obtain ⟨j, -, h⟩ := Option.bind_eq_some_iff.mp h
  obtain ⟨taken, -, h⟩ := Option.bind_eq_some_iff.mp h
  cases h
  exact refl s

theorem threads (s : Session) (t : ThreadId) (request : ThreadRequest) :
    SameButRegistry s (s.threads t request).2 := by
  cases request with
  | register => exact registerThread s t
  | unregister => exact ⟨_, rfl⟩
  | enter code line count step => exact enterFrames s t code step count line
  | setLine i line =>
    simp only [Session.threads]
    split
    · exact ⟨_, rfl⟩
    · exact refl s
  | leave count => exact ⟨_, rfl⟩
  | drop i =>
    simp only [Session.threads]
    split
    · next h => exact (takeGuard? h).trans ⟨_, rfl⟩
    · exact refl s
  | forget i =>
    simp only [Session.threads]
    split
    · next h => exact takeGuard? h
    · exact refl s
  | registerRange first last code? => exact registerFrom s code? _ _
  | snapshot =>
    simp only [Session.threads]
    split
    · exact refl s
    · exact refl s
  | current =>
    simp only [Session.threads]
    split
    · exact refl s
    · exact refl s
  | threads name? =>
    simp only [Session.threads]
    split
    · exact ⟨_, rfl⟩
    · exact refl s
  | read name index =>
    simp only [Session.threads]
    split
    · exact refl s
    · exact refl s
  | sameHandles a b => exact refl s
  | walk name handles index =>
    simp only [Session.threads]
    split
    · exact ⟨_, rfl⟩
    · exact refl s
  | next name count =>
    simp only [Session.threads]
    split
    · exact ⟨_, rfl⟩
    · exact refl s
  | report subject collecting walk writer => exact ⟨_, rfl⟩

end SameButRegistry

-- ════════════════════════════════════════════════════════════════════════
-- Requests on sinks, reports, timers and signals
-- ════════════════════════════════════════════════════════════════════════

section Lasting

variable {R : Process → Process → Prop} (hR : Process.Lasting R)

theorem lasting_of_lift {α : Type} {run : Run α} {answer : α → Process → Answer} {a : Answer}
    (hrun : Run.Within R run) (h : s.lift run answer = .answered a s') :
    R s.process s'.process := by
  unfold lift at h
  split at h
  · next v p hv =>
    obtain ⟨-, rfl⟩ := Progress.answered.inj h
    exact hrun _ _ _ hv
  · cases h
  · cases h

theorem withSink_answered {choice : SinkChoice} {next : Sink → Progress} {a : Answer}
    (h : s.withSink choice next = .answered a s') :
    s' = s ∨ ∃ sink, next sink = .answered a s' := by
  unfold withSink at h
  split at h
  · next sink _ => exact .inr ⟨sink, h⟩
  · exact .inl (Progress.answered.inj h).2.symm

include hR

theorem lasting_of_withSink {choice : SinkChoice} {next : Sink → Progress} {a : Answer}
    (hnext : ∀ sink, next sink = .answered a s' → R s.process s'.process)
    (h : s.withSink choice next = .answered a s') : R s.process s'.process := by
  obtain rfl | ⟨sink, h⟩ := withSink_answered h
  · exact hR.refl _
  · exact hnext sink h

theorem expireTimes_lasting (n : Nat) : Run.Within R (expireTimes n) := by
  induction n with
  | zero => exact hR.pure ()
  | succ n ih => exact hR.bind hR.expireArmed fun _ => ih

theorem repeatTimer_lasting (fd : Int) (count : Nat) :
    Run.Within R (repeatTimer fd count) := by
  have hdescriptors : ∀ (p : Process) (table : DescriptorTable),
      R p { p with descriptors := table } := fun p table => hR.elsewhere p _ _ table
  refine hR.bind (.change fun p => hdescriptors p _) fun _ => ?_
  refine hR.bind hR.expireArmed fun _ => ?_
  refine hR.bind (.answer fun p => hdescriptors p _) fun _ => ?_
  refine hR.bind (expireTimes_lasting hR count) fun _ => ?_
  refine hR.bind (.answer fun p => hdescriptors p _) fun _ => ?_
  refine hR.bind hR.cancel fun _ => ?_
  exact hR.bind (.change fun p => hdescriptors p _) fun _ => hR.pure _

theorem useSaved_lasting (p : Process) (kept : SavedAction) (signum : Int) (use : SavedUse) :
    R p (useSaved p kept signum use).2.2 := by
  cases use with
  | capture =>
    simp only [useSaved]
    split
    · exact hR.refl p
    · split
      · exact hR.refl p
      · split
        · exact hR.refl p
        · exact hR.refl p
  | mark => exact hR.refl p
  | unmark => exact hR.refl p
  | restore =>
    simp only [useSaved]
    split
    · rw [Process.restore_eq]
      exact hR.reinstate p _ _
    · exact hR.refl p
  | reinstate =>
    simp only [useSaved]
    split
    · exact hR.reinstate p _ _
    · exact hR.refl p

theorem raiseNumber_lasting (t : ThreadId) (signum : Int) :
    Run.Within R (raiseNumber t signum) := by
  unfold raiseNumber
  split
  · exact hR.raise _ _
  · exact hR.pure ()

theorem faultNumber_lasting (t : ThreadId) (signum : Int) (sent : Bool) :
    Run.Within R (faultNumber t signum sent) := by
  unfold faultNumber
  split
  · exact hR.handleFault _ _ _
  · exact hR.pure ()

theorem signals_lasting {t : ThreadId} {request : SignalRequest} {a : Answer}
    (h : s.signals t request = .answered a s') : R s.process s'.process := by
  cases request with
  | install signum disposition =>
    simp only [signals] at h
    split at h
    · next p hp =>
      obtain ⟨-, rfl⟩ := Progress.answered.inj h
      obtain ⟨sig, -, hset⟩ := Option.bind_eq_some_iff.mp hp
      exact hR.setAction? hset
    · obtain ⟨-, rfl⟩ := Progress.answered.inj h
      exact hR.refl _
  | action signum =>
    obtain ⟨-, rfl⟩ := Progress.answered.inj h
    exact hR.refl _
  | raise signum => exact lasting_of_lift (raiseNumber_lasting hR t signum) h
  | fault signum code? => exact lasting_of_lift (faultNumber_lasting hR t signum _) h
  | segfault =>
    refine lasting_of_lift (fun p v q hv => ?_) h
    exact (Process.segfault_not_returned _ _ p v q hv).elim
  | fatalError function? message =>
    refine lasting_of_lift (fun p v q hv => ?_) h
    exact (Process.fatalError_not_returned _ _ _ p v q hv).elim
  | saved use slot signum =>
    obtain ⟨-, rfl⟩ := Progress.answered.inj h
    exact useSaved_lasting hR _ _ _ _
  | installExceptionHandler =>
    obtain ⟨-, rfl⟩ := Progress.answered.inj h
    exact hR.of_same ⟨rfl, rfl, rfl, rfl, rfl, rfl, rfl⟩ rfl
  | uninstallExceptionHandler =>
    obtain ⟨-, rfl⟩ := Progress.answered.inj h
    exact hR.of_same ⟨rfl, rfl, rfl, rfl, rfl, rfl, rfl⟩ rfl
  | raiseException code? => exact lasting_of_lift (hR.raiseException _ _) h

end Lasting

end Session

/-- Enabling and disabling fault reports. -/
def ControlRequest.Switches : ControlRequest → Prop
  | .enable _ _ _ => True
  | .disable => True
  | _ => False

/-- Enabling and disabling fault reports, and registering a signal. -/
def ControlRequest.SetsUp : ControlRequest → Prop
  | .register _ _ _ => True
  | request => request.Switches

namespace Session

variable {s s' : Session} {R : Process → Process → Prop}

theorem control_lasting (hR : Process.Lasting R) {t : ThreadId} {request : ControlRequest}
    {a : Answer} (hrequest : ¬ request.SetsUp) (h : s.control t request = .answered a s') :
    R s.process s'.process := by
  have hdescriptors := fun table => hR.elsewhere s.process s.process.registry
    s.process.interpreter table
  have hinterpreter := fun interpreter => hR.elsewhere s.process s.process.registry interpreter
    s.process.descriptors
  cases request with
  | setModules names =>
    obtain ⟨-, rfl⟩ := Progress.answered.inj h
    exact hinterpreter _
  | setPhase phase =>
    obtain ⟨-, rfl⟩ := Progress.answered.inj h
    exact hinterpreter _
  | setCollecting value =>
    obtain ⟨-, rfl⟩ := Progress.answered.inj h
    exact hinterpreter _
  | openAs fd kind =>
    obtain ⟨-, rfl⟩ := Progress.answered.inj h
    exact hdescriptors _
  | close fd =>
    obtain ⟨-, rfl⟩ := Progress.answered.inj h
    exact hdescriptors _
  | sink choice name? =>
    refine lasting_of_withSink hR (fun sink h => ?_) h
    obtain ⟨-, rfl⟩ := Progress.answered.inj h
    cases name? with
    | some name => exact hR.refl _
    | none => exact hR.refl _
  | validate choice =>
    refine lasting_of_withSink hR (fun sink h => ?_) h
    obtain ⟨-, rfl⟩ := Progress.answered.inj h
    exact hR.refl _
  | write choice text =>
    refine lasting_of_withSink hR (fun sink h => ?_) h
    exact lasting_of_lift (hR.writeTo _ _ _) h
  | contents fd =>
    obtain ⟨-, rfl⟩ := Progress.answered.inj h
    exact hdescriptors _
  | dump choice allThreads =>
    refine lasting_of_withSink hR (fun sink h => ?_) h
    exact lasting_of_lift (hR.dump _ _ _) h
  | enable choice settings supply => exact absurd trivial hrequest
  | disable => exact absurd trivial hrequest
  | isEnabled =>
    obtain ⟨-, rfl⟩ := Progress.answered.inj h
    exact hR.refl _
  | arm choice timeout repeats exits =>
    refine lasting_of_withSink hR (fun sink h => ?_) h
    split at h
    · obtain ⟨-, rfl⟩ := Progress.answered.inj h
      exact hR.refl _
    · exact lasting_of_lift (hR.arm _ _ _) h
  | cancel => exact lasting_of_lift hR.cancel h
  | awaitTimer => exact lasting_of_lift hR.expireArmed h
  | awaitRepeats fd count => exact lasting_of_lift (repeatTimer_lasting hR fd count) h
  | register choice signum settings => exact absurd trivial hrequest
  | unregister signum =>
    obtain ⟨-, rfl⟩ := Progress.answered.inj h
    exact hR.unregister _ _

/-- A request to enable fault reports, which needs a sink and valid settings to get anywhere. -/
theorem enable_answered {t : ThreadId} {choice : SinkChoice} {request : FaultSettings.Request}
    {supply : StackSupply} {a : Answer}
    (h : s.control t (.enable choice request supply) = .answered a s') :
    s' = s ∧ (∀ sink settings, s.chosenSink choice = .ok sink →
        FaultSettings.ofRequest request ≠ .ok settings) ∨
      ∃ sink settings, s.chosenSink choice = .ok sink ∧
        FaultSettings.ofRequest request = .ok settings ∧
        s' = s.withProcess (s.process.enable supply sink settings).2 := by
  simp only [control] at h
  cases hchosen : s.chosenSink choice with
  | error failure =>
    rw [hchosen] at h
    exact .inl ⟨(Progress.answered.inj h).2.symm, nofun⟩
  | ok sink =>
    rw [hchosen] at h
    dsimp only at h
    cases hsettings : FaultSettings.ofRequest request with
    | error failure =>
      rw [hsettings] at h
      exact .inl ⟨(Progress.answered.inj h).2.symm, nofun⟩
    | ok settings =>
      rw [hsettings] at h
      exact .inr ⟨sink, settings, rfl, rfl, (Progress.answered.inj h).2.symm⟩

/-- A request that is answered and sets nothing up. -/
theorem step_lasting (hR : Process.Lasting R) {step : Step} {a : Answer}
    (hrequest : ∀ request, step.request = .control request → ¬ request.SetsUp)
    (h : s.step step = .answered a s') : R s.process s'.process := by
  obtain ⟨t, request⟩ := step
  cases request with
  | threads request =>
    obtain ⟨-, rfl⟩ := Progress.answered.inj h
    exact (SameButRegistry.threads s t request).lasting hR
  | control request => exact control_lasting hR (hrequest request rfl) h
  | signals request => exact signals_lasting hR h

/-- What a request that is answered does to the process: it enables or disables fault reports, it
registers a signal, or it only does things that last. -/
inductive Advance (p : Process) : Process → Prop
  | enable (supply : StackSupply) (sink : Sink) (settings : FaultSettings) :
      Advance p (p.enable supply sink settings).2
  | disable : Advance p p.disable
  | register (signum : Int) (sink : Sink) (settings : UserSignalSettings) :
      Advance p (p.register signum sink settings).2
  | lasting (q : Process) : (∀ R, Process.Lasting R → R p q) → Advance p q

theorem step_advance {step : Step} {a : Answer} (h : s.step step = .answered a s') :
    Advance s.process s'.process := by
  have hrefl : Advance s.process s.process := .lasting _ fun R hR => hR.refl s.process
  obtain ⟨t, request⟩ := step
  by_cases hsetup : ∃ control, request = .control control ∧ control.SetsUp
  · obtain ⟨control, rfl, hsetup⟩ := hsetup
    have h : s.control t control = .answered a s' := h
    cases control with
    | register choice signum settings =>
      obtain rfl | ⟨sink, h⟩ := withSink_answered h
      · exact hrefl
      · obtain ⟨-, rfl⟩ := Progress.answered.inj h
        exact .register signum sink settings
    | enable choice settings supply =>
      obtain ⟨rfl, -⟩ | ⟨sink, settings, -, -, rfl⟩ := enable_answered h
      · exact hrefl
      · exact .enable supply sink settings
    | disable =>
      obtain ⟨-, rfl⟩ := Progress.answered.inj h
      exact .disable
    | _ => cases hsetup
  · exact .lasting _ fun R hR =>
      step_lasting hR (fun control hrequest hs => hsetup ⟨control, hrequest, hs⟩) h

/-- A request that is answered and does not enable or disable fault reports. -/
theorem step_undisturbed {step : Step} {a : Answer}
    (hrequest : ∀ request, step.request = .control request → ¬ request.Switches)
    (h : s.step step = .answered a s') : Undisturbed s.process s'.process := by
  have hlasting := Process.Undisturbed.lasting
  by_cases hregister : ∃ choice signum settings,
      step.request = .control (.register choice signum settings)
  · obtain ⟨choice, signum, settings, hregister⟩ := hregister
    obtain ⟨t, _⟩ := step
    obtain rfl : _ = Request.control (.register choice signum settings) := hregister
    have h : s.control t (.register choice signum settings) = .answered a s' := h
    simp only [control] at h
    refine lasting_of_withSink hlasting (fun sink h => ?_) h
    obtain ⟨-, rfl⟩ := Progress.answered.inj h
    exact Undisturbed.register _ _ _ _
  · refine step_lasting hlasting (fun request hr hsetup => ?_) h
    cases request with
    | register choice signum settings => exact hregister ⟨_, _, _, hr⟩
    | enable choice settings supply => exact hrequest _ hr trivial
    | disable => exact hrequest _ hr trivial
    | _ => exact hsetup.elim

end Session

end CrashTrace
