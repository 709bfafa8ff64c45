import CrashTrace.Proofs.Session.Registered

/-!
# Requests that are refused

A request that sets something up is refused for a bad sink, settings or signal, for a thread that
is registered already, or since there is no room. Some refusals come late: the target has been set
and the mark of the signal too, and both are taken back. Nothing that can be observed is then
different, since what is not set up never has a target.

## Main definitions

- `Process.Tidy` — what is not set up has no target
- `Process.Unaffected`, `Session.Unaffected` — nothing that can be observed differs
- `Request.Arranges` — requests that set something up or take it down, and can be refused
- `Answer.Refuses` — answers that report a failure

## Main results

- `Session.Registered.tidy`
- `Session.refusal_unaffected`
-/

namespace CrashTrace

open Process (Rests Undisturbed)

namespace Process

variable {p q : Process}

/-- What is not set up has no target. -/
structure Tidy (p : Process) : Prop where
  faults : p.faults.enabled = false → p.faults.target.load? = none
  users : ∀ s, (p.userSignal s).saved.installed = false → (p.userSignal s).target.load? = none

/-- Nothing that can be observed differs. Only targets and what is kept for ordinary signals may
have been written, so all signal actions with their flags, whether fault reports are enabled, the
actions saved for fatal signals, the timer, and the registered threads are the same. All targets
load the same, the same signals are registered, and for those everything is as it was. -/
structure Unaffected (p q : Process) : Prop where
  elsewhere : q = { p with
    faults := { p.faults with target := q.faults.target }, userSignals := q.userSignals }
  faultTarget : q.faults.target.load? = p.faults.target.load?
  userTarget : ∀ s, (q.userSignal s).target.load? = (p.userSignal s).target.load?
  marks : ∀ s, (q.userSignal s).saved.installed = (p.userSignal s).saved.installed
  registered : ∀ s, (p.userSignal s).saved.installed → q.userSignal s = p.userSignal s

theorem Unaffected.refl (p : Process) : Unaffected p p :=
  ⟨rfl, rfl, fun _ => rfl, fun _ => rfl, fun _ _ => rfl⟩

-- ════════════════════════════════════════════════════════════════════════
-- Operations that fail
-- ════════════════════════════════════════════════════════════════════════

namespace Tidy

variable (hp : Tidy p) {sink : Sink}

include hp

theorem unaffected_of_undone (h : Undone p q) : Unaffected p q := by
  cases h with
  | unchanged => exact .refl p
  | vacated s change hmark hvacant =>
    have huser : ∀ u, (p.changeUserSignal s change).userSignal u =
        if s = u then change (p.userSignal u) else p.userSignal u :=
      fun u => userSignal_changeUserSignal p s u change
    refine ⟨rfl, rfl, fun u => ?_, fun u => ?_, fun u hu => ?_⟩
    · rw [huser]
      split
      · next hsame => rw [← hsame, hvacant.target, hp.users s hmark]
      · rfl
    · rw [huser]
      split
      · next hsame => rw [← hsame, hvacant.unmarked, hmark]
      · rfl
    · rw [huser, if_neg]
      rintro rfl
      rw [hmark] at hu
      cases hu

/-- Enabling fails before anything is written, or without fault reports being enabled, when there
was no target. -/
theorem enable_refused {settings : FaultSettings} {supply : StackSupply} {failure : Failure}
    (h : (p.enable supply sink settings).1 = .error failure) :
    Unaffected p (p.enable supply sink settings).2 := by
  have houtcome := enable_outcome p supply sink settings
  generalize p.enable supply sink settings = answered at houtcome h ⊢
  cases houtcome with
  | refused failure => exact .refl p
  | replaced hon => cases h
  | noStack failure hoff =>
    exact ⟨rfl, (hp.faults hoff).symm, fun _ => rfl, fun _ => rfl, fun _ _ => rfl⟩
  | enabled altStack installed hoff hinstalled => cases h

/-- Registering fails before anything is written, or for a signal whose action cannot be changed,
and such a signal is not registered. -/
theorem register_refused (hchangeable : ∀ s, (p.userSignal s).saved.installed → s.actionChangeable)
    {signum : Int} {settings : UserSignalSettings} {failure : Failure}
    (h : (p.register signum sink settings).1 = .error failure) :
    Unaffected p (p.register signum sink settings).2 := by
  have houtcome := register_outcome hchangeable signum sink settings
  generalize p.register signum sink settings = answered at houtcome h ⊢
  cases houtcome with
  | refused failure q hq => exact hp.unaffected_of_undone hq
  | registered s q hs hq => cases h

end Tidy

/-- With a thread to be had, arming fails before the timer that was armed is touched. -/
theorem eq_of_arm_error {sink : Sink} {settings : TimerSettings} {failure : Failure}
    (h : arm sink settings .available p = .returned (.error failure) q) : q = p := by
  unfold arm at h
  rw [Run.state_bind] at h
  cases hsink : p.descriptors.checkSink sink.descriptor with
  | error failure =>
    rw [hsink] at h
    cases h
    rfl
  | ok _ =>
    rw [hsink] at h
    obtain ⟨_, replaced, -, h⟩ := Run.bind_returned.mp h
    obtain ⟨started, r, hstart, h⟩ := Run.bind_returned.mp h
    cases hstart
    cases h

theorem unregister_refused {signum : Int} {failure : Failure}
    (h : (p.unregister signum).1 = .error failure) : (p.unregister signum).2 = p := by
  unfold unregister at h ⊢
  split
  · rfl
  · next s hs =>
    rw [hs] at h
    cases h

-- ════════════════════════════════════════════════════════════════════════
-- What keeps a process tidy
-- ════════════════════════════════════════════════════════════════════════

namespace Tidy

theorem initial : Tidy Process.initial := by
  refine ⟨fun _ => rfl, fun s _ => ?_⟩
  simp [Process.initial, userSignal, DumpTarget.initial, DumpTarget.load?]

theorem of_rests (hp : Tidy p) (h : Rests p q)
    (hfaults : q.faults.enabled = false → q.faults.target.load? = none) : Tidy q := by
  refine ⟨hfaults, fun s hs => ?_⟩
  rcases h.retained.kept s with hsame | hvacant
  · rw [hsame] at hs ⊢
    exact hp.users s hs
  · exact hvacant.target

theorem of_undisturbed (hp : Tidy p) (h : Rests p q) (hu : Undisturbed p q) : Tidy q := by
  refine hp.of_rests h fun hoff => ?_
  rw [hu.enabled] at hoff
  rw [hu.target]
  exact hp.faults hoff

theorem enable (hp : Tidy p) (supply : StackSupply) (sink : Sink) (settings : FaultSettings) :
    Tidy (p.enable supply sink settings).2 := by
  refine hp.of_rests (.enable p supply sink settings) ?_
  have houtcome := enable_outcome p supply sink settings
  generalize p.enable supply sink settings = answered at houtcome
  cases houtcome with
  | refused failure => exact hp.faults
  | replaced hon => exact fun hoff => absurd (hoff.symm.trans hon) (by decide)
  | noStack failure hoff => exact fun _ => rfl
  | enabled altStack installed hoff hinstalled => exact nofun

theorem disable (hp : Tidy p) : Tidy p.disable := by
  refine hp.of_rests (.disable p) ?_
  unfold Process.disable
  split
  · exact fun _ => rfl
  · exact hp.faults

theorem register (hp : Tidy p)
    (hchangeable : ∀ s, (p.userSignal s).saved.installed → s.actionChangeable) (signum : Int)
    (sink : Sink) (settings : UserSignalSettings) : Tidy (p.register signum sink settings).2 := by
  have hundisturbed := Undisturbed.register p signum sink settings
  have houtcome := register_outcome hchangeable signum sink settings
  generalize p.register signum sink settings = answered at houtcome hundisturbed ⊢
  cases houtcome with
  | refused failure q hq => exact hp.of_undisturbed hq.rests hundisturbed
  | registered s q hs hq =>
    refine ⟨fun hoff => ?_, fun u hu => ?_⟩
    · rw [hundisturbed.enabled] at hoff
      rw [hundisturbed.target]
      exact hp.faults hoff
    · by_cases hsame : s = u
      · subst hsame
        exact absurd (hu.symm.trans hq.installed) (by decide)
      · rw [hq.others u hsame] at hu ⊢
        exact hp.users u hu

end Tidy

end Process

/-- A request to enable, arm, register or unregister. -/
def Request.Arranges : Request → Prop
  | .control (.enable _ _ _) => True
  | .control (.arm _ _ _ _) => True
  | .control (.register _ _ _) => True
  | .control (.unregister _) => True
  | .threads .register => True
  | _ => False

/-- An answer that reports a failure. -/
def Answer.Refuses : Answer → Prop
  | .failed _ => True
  | .enabled (.error _) _ => True
  | .registered (.error _) => True
  | _ => False

namespace Session

variable {s s' : Session} {latest : Registrations}

/-- Nothing that can be observed differs. -/
structure Unaffected (s s' : Session) : Prop where
  process : s.process.Unaffected s'.process
  elsewhere : s' = s.withProcess s'.process

-- ════════════════════════════════════════════════════════════════════════
-- Reached states are tidy
-- ════════════════════════════════════════════════════════════════════════

theorem tidy_advance {p q : Process} (hp : p.Tidy)
    (hchangeable : ∀ sig, (p.userSignal sig).saved.installed → sig.actionChangeable)
    (h : Advance p q) : q.Tidy := by
  cases h with
  | enable supply sink settings => exact hp.enable supply sink settings
  | disable => exact hp.disable
  | register signum sink settings => exact hp.register hchangeable signum sink settings
  | lasting q h => exact hp.of_undisturbed (h _ Rests.lasting) (h _ Undisturbed.lasting)

theorem Registered.tidy (h : Registered latest s) : s.process.Tidy := by
  induction h with
  | initial => exact .initial
  | step hs hstep ih =>
    have hp := tidy_advance ih hs.prepared.changeable (step_advance hstep)
    exact ⟨hp.faults, hp.users⟩

-- ════════════════════════════════════════════════════════════════════════
-- Refused requests
-- ════════════════════════════════════════════════════════════════════════

theorem Unaffected.refl (s : Session) : Unaffected s s := ⟨.refl s.process, rfl⟩

theorem Unaffected.withProcess {p : Process} (h : s.process.Unaffected p) :
    Unaffected s (s.withProcess p) := ⟨h, rfl⟩

/-- An operation whose failures leave everything as it was is refused without any effect. -/
theorem unaffected_of_answered {α : Type} {operation : Process → Answered α}
    {answer : Except Failure α → Answer} {a : Answer}
    (h : s.answered operation answer = .answered a s') (hrefuses : a.Refuses)
    (hok : ∀ v, ¬ (answer (.ok v)).Refuses)
    (herror : ∀ failure, (operation s.process).1 = .error failure →
      s.process.Unaffected (operation s.process).2) : Unaffected s s' := by
  obtain ⟨rfl, rfl⟩ := Progress.answered.inj h
  cases hresult : (operation s.process).1 with
  | ok v =>
    rw [hresult] at hrefuses
    exact absurd hrefuses (hok v)
  | error failure => exact .withProcess (herror failure hresult)

theorem enable_unaffected (hp : s.process.Tidy) {t : ThreadId} {choice : SinkChoice}
    {request : FaultSettings.Request} {supply : StackSupply} {a : Answer}
    (h : s.control t (.enable choice request supply) = .answered a s') (hrefuses : a.Refuses) :
    Unaffected s s' := by
  simp only [control] at h
  split at h
  · obtain ⟨-, rfl⟩ := Progress.answered.inj h
    exact .refl s
  · next sink _ =>
    split at h
    · obtain ⟨-, rfl⟩ := Progress.answered.inj h
      exact .refl s
    · next settings _ =>
      obtain ⟨rfl, rfl⟩ := Progress.answered.inj h
      cases hresult : (s.process.enable supply sink settings).1 with
      | ok v =>
        rw [hresult] at hrefuses
        exact hrefuses.elim
      | error failure => exact .withProcess (hp.enable_refused hresult)

theorem arm_unaffected {t : ThreadId} {choice : SinkChoice} {timeout : Duration}
    {repeats exits : Bool} {a : Answer}
    (h : s.control t (.arm choice timeout repeats exits) = .answered a s')
    (hrefuses : a.Refuses) : Unaffected s s' := by
  obtain rfl | ⟨sink, h⟩ := withSink_answered h
  · exact .refl _
  · split at h
    · obtain ⟨-, rfl⟩ := Progress.answered.inj h
      exact .refl s
    · unfold lift at h
      split at h
      · next result p harm =>
        obtain ⟨rfl, rfl⟩ := Progress.answered.inj h
        cases result with
        | ok _ => exact hrefuses.elim
        | error failure =>
          rw [Process.eq_of_arm_error harm]
          exact .refl _
      · cases h
      · cases h

theorem registerThread_unaffected {t : ThreadId} {a : Answer}
    (h : s.step ⟨t, .threads .register⟩ = .answered a s') (hrefuses : a.Refuses) :
    Unaffected s s' := by
  have h : Progress.answered (.registered (s.registerThread t).1) (s.registerThread t).2 =
    .answered a s' := h
  obtain ⟨rfl, rfl⟩ := Progress.answered.inj h
  unfold registerThread at hrefuses ⊢
  split
  · next r hr =>
    rw [hr] at hrefuses
    exact hrefuses.elim
  · exact .refl s

/-- Whatever the requests before it did, a request that is refused leaves everything that can be
observed as it was. -/
theorem refusal_unaffected (hs : Registered latest s) {step : Step} {a : Answer}
    (hstep : s.step step = .answered a s') (harranges : step.request.Arranges)
    (hrefuses : a.Refuses) : Unaffected s s' := by
  obtain ⟨t, request⟩ := step
  cases request with
  | threads request =>
    cases request with
    | register => exact registerThread_unaffected hstep hrefuses
    | _ => exact harranges.elim
  | control request =>
    have h : s.control t request = .answered a s' := hstep
    cases request with
    | enable choice settings supply => exact enable_unaffected hs.tidy h hrefuses
    | arm choice timeout repeats exits => exact arm_unaffected h hrefuses
    | register choice signum settings =>
      obtain rfl | ⟨sink, h⟩ := withSink_answered h
      · exact .refl _
      · exact unaffected_of_answered h hrefuses (fun _ h => h) fun failure hresult =>
          hs.tidy.register_refused hs.prepared.changeable hresult
    | unregister signum =>
      simp only [control] at h
      refine unaffected_of_answered h hrefuses (fun _ h => h) fun failure hresult => ?_
      rw [Process.unregister_refused hresult]
      exact .refl _
    | _ => exact harranges.elim
  | signals request => exact harranges.elim

-- The states of the example are compared by evaluation.
set_option maxRecDepth 8000 in
/-- Fault reports are enabled and dumps are registered for one signal. For a signal whose action
cannot be changed the registration is refused late. -/
theorem refusal_unaffected_uninstallable : ∃ latest s s' failure, Registered latest s ∧
    s.process.faults.enabled ∧ (s.process.userSignal Signal.user1).saved.installed ∧
    s.step ⟨4096, .control (.register ⟨none, 5⟩ 9 ⟨true, true⟩)⟩ =
      .answered (.failed failure) s' ∧ Unaffected s s' := by
  have h₁ := Registered.step .initial
    (show Session.initial.step ⟨4096, .control (.openAs 5 .file)⟩ = .answered _ _ from rfl)
  have h₂ := Registered.step h₁
    (show Session.step _ ⟨4096, .control (.enable ⟨none, 5⟩ .standard .available)⟩ =
      .answered _ _ from rfl)
  have h₃ := Registered.step h₂
    (show Session.step _ ⟨4096, .control (.register ⟨none, 5⟩ 10 ⟨false, true⟩)⟩ =
      .answered _ _ from rfl)
  refine ⟨_, _, _, .system Errno.invalidArgument, h₃, rfl, rfl, rfl, ?_⟩
  exact refusal_unaffected h₃
    (show Session.step _ ⟨4096, .control (.register ⟨none, 5⟩ 9 ⟨true, true⟩)⟩ =
      .answered (.failed (.system Errno.invalidArgument)) _ from rfl) trivial trivial

end Session

end CrashTrace
