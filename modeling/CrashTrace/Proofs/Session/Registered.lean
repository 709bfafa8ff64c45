import CrashTrace.Proofs.Process.Resting
import CrashTrace.Proofs.Session.Requests
import Mathlib.Logic.Function.Basic

/-!
# Registered signals of a session

The states between two requests of a session, together with the latest request for each signal
that registered it and succeeded. In all of them no dump is under way, whatever was written to and
whatever handlers ran, and what is set up for a registered signal is what that request asked for.

## Main definitions

- `Session.registering?` — what a request asks for that registers a signal and succeeds
- `Session.Registered` — the states between two requests
- `Session.Prepared` — what holds in all of them

## Main results

- `Session.Registered.prepared`
-/

namespace CrashTrace

open Process (Idle Rests RegisteredFor)

theorem Process.Rests.lasting : Process.Lasting Rests where
  toTolerant := Rests.tolerant
  raise caller s := Rests.raise caller _ s
  handleFault caller s sent := Rests.handleFault caller _ s sent
  unregister := Rests.unregister
  reinstate p s kept := Rests.reinstate p s kept
  setAction? {p _ s a} h := Process.trySetAction_of_some h ▸ Rests.trySetAction p s a

namespace Session

/-- The sink and the settings of the latest request that registered a signal and succeeded. -/
abbrev Registrations := Signal → Option (Sink × UserSignalSettings)

variable {s s' : Session} {latest : Registrations}

/-- The signal, the sink and the settings of a request that registers a signal and succeeds. -/
def registering? (s : Session) (step : Step) : Option (Signal × Sink × UserSignalSettings) :=
  match step.request with
  | .control (.register choice signum settings) =>
    match s.chosenSink choice, Signal.registrable signum with
    | .ok sink, .ok sig =>
      match (s.process.register signum sink settings).1 with
      | .ok () => some (sig, sink, settings)
      | .error _ => none
    | _, _ => none
  | _ => none

/-- A request has been answered that may have registered a signal. -/
def Registrations.after (latest : Registrations) :
    Option (Signal × Sink × UserSignalSettings) → Registrations
  | some (sig, registration) => Function.update latest sig (some registration)
  | none => latest

/-- The states between two requests, and what the latest request for each signal asked for that
registered it and succeeded. -/
inductive Registered : Registrations → Session → Prop
  | initial : Registered (fun _ => none) Session.initial
  | step {latest : Registrations} {s s' : Session} {step : Step} {a : Answer} :
      Registered latest s → s.step step = .answered a s' →
      Registered (latest.after (s.registering? step)) s'.takeLog.2

/-- What holds between two requests. -/
structure Prepared (latest : Registrations) (p : Process) : Prop where
  idle : Idle p
  dumping : p.dumping = Exclusion.free
  ordinary : ∀ sig, (p.userSignal sig).saved.installed → sig.faultName?.isSome = false
  changeable : ∀ sig, (p.userSignal sig).saved.installed → sig.actionChangeable
  registered : ∀ sig, (p.userSignal sig).saved.installed →
    ∃ sink settings, latest sig = some (sink, settings) ∧
      (p.userSignal sig).target.load? = some (sink.descriptor, settings.allThreads) ∧
      (p.userSignal sig).chain = settings.chain

namespace Prepared

variable {p q : Process}

theorem initial : Prepared (fun _ => none) Process.initial := by
  have hunmarked : ∀ sig, (Process.initial.userSignal sig).saved.installed = false := by
    intro sig
    simp [Process.initial, Process.userSignal, SavedAction.initial]
  refine ⟨⟨rfl, rfl⟩, rfl, fun sig h => ?_, fun sig h => ?_, fun sig h => ?_⟩
  all_goals
    rw [hunmarked] at h
    cases h

theorem rests (hp : Prepared latest p) (h : Rests p q) : Prepared latest q := by
  have hsame := h.retained.userSignal
  refine ⟨h.idle hp.idle, h.retained.dumping.trans hp.dumping, fun sig hmark => ?_,
    fun sig hmark => ?_, fun sig hmark => ?_⟩
  · exact hp.ordinary sig (hsame sig hmark ▸ hmark)
  · exact hp.changeable sig (hsame sig hmark ▸ hmark)
  · rw [hsame sig hmark]
    exact hp.registered sig (hsame sig hmark ▸ hmark)

theorem register (hp : Prepared latest p) {signum : Int} {sig : Signal} {sink : Sink}
    {settings : UserSignalSettings} (hsig : Signal.registrable signum = .ok sig)
    (h : RegisteredFor sig sink settings p q) :
    Prepared (latest.after (some (sig, sink, settings))) q := by
  refine ⟨h.idle hp.idle, h.dumping.trans hp.dumping, fun u hmark => ?_, fun u hmark => ?_,
    fun u hmark => ?_⟩
  · by_cases hu : sig = u
    · exact hu ▸ (Signal.registrable_eq_ok.mp hsig).2
    · rw [h.others u hu] at hmark
      exact hp.ordinary u hmark
  · by_cases hu : sig = u
    · exact hu ▸ h.changeable
    · rw [h.others u hu] at hmark
      exact hp.changeable u hmark
  · by_cases hu : sig = u
    · subst hu
      exact ⟨sink, settings, Function.update_self .., h.target, h.chain⟩
    · rw [h.others u hu] at hmark ⊢
      obtain ⟨sink', settings', hlatest, hset⟩ := hp.registered u hmark
      exact ⟨sink', settings', (Function.update_of_ne (Ne.symm hu) _ _).trans hlatest, hset⟩

/-- A request that registers a signal, or fails to. -/
theorem step_register (hs : Prepared latest s.process) {t : ThreadId} {choice : SinkChoice}
    {signum : Int} {settings : UserSignalSettings} {a : Answer}
    (h : s.control t (.register choice signum settings) = .answered a s') :
    Prepared (latest.after (s.registering? ⟨t, .control (.register choice signum settings)⟩))
      s'.process := by
  simp only [control, withSink] at h
  simp only [registering?]
  cases hchosen : s.chosenSink choice with
  | error failure =>
    rw [hchosen] at h
    obtain ⟨-, rfl⟩ := Progress.answered.inj h
    exact hs
  | ok sink =>
    rw [hchosen] at h
    obtain ⟨-, rfl⟩ := Progress.answered.inj h
    have houtcome := Process.register_outcome hs.changeable signum sink settings
    show Prepared _ (s.process.register signum sink settings).2
    cases hregistrable : Signal.registrable signum with
    | error failure =>
      generalize s.process.register signum sink settings = answered at houtcome ⊢
      cases houtcome with
      | refused failure' q hq => exact hs.rests hq.rests
      | registered sig q hsig hq => cases hregistrable.symm.trans hsig
    | ok sig =>
      dsimp only
      generalize s.process.register signum sink settings = answered at houtcome ⊢
      cases houtcome with
      | refused failure q hq => exact hs.rests hq.rests
      | registered sig' q hsig hq =>
        obtain rfl := Except.ok.inj (hregistrable.symm.trans hsig)
        exact hs.register hsig hq

theorem step (hs : Prepared latest s.process) {step : Step} {a : Answer}
    (h : s.step step = .answered a s') :
    Prepared (latest.after (s.registering? step)) s'.process := by
  obtain ⟨t, request⟩ := step
  by_cases hsetup : ∃ control, request = .control control ∧ control.SetsUp
  · obtain ⟨control, rfl, hsetup⟩ := hsetup
    have h : s.control t control = .answered a s' := h
    cases control with
    | register choice signum settings => exact hs.step_register h
    | enable choice settings supply =>
      obtain ⟨rfl, -⟩ | ⟨sink, settings, -, -, rfl⟩ := enable_answered h
      · exact hs
      · exact hs.rests (.enable _ supply sink settings)
    | disable =>
      obtain ⟨-, rfl⟩ := Progress.answered.inj h
      exact hs.rests (.disable _)
    | _ => cases hsetup
  · have hnone : s.registering? ⟨t, request⟩ = none := by
      unfold registering?
      split
      · next hrequest => exact absurd ⟨_, hrequest, trivial⟩ hsetup
      · rfl
    rw [hnone]
    exact hs.rests (step_lasting Process.Rests.lasting
      (fun control hrequest hs => hsetup ⟨control, hrequest, hs⟩) h)

end Prepared

theorem Registered.prepared (h : Registered latest s) : Prepared latest s.process := by
  induction h with
  | initial => exact .initial
  | step _ hstep ih => exact (ih.step hstep).rests (.of_same rfl rfl rfl rfl)

end Session

end CrashTrace
