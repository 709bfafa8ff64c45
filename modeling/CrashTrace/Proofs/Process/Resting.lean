import CrashTrace.Proofs.Process.Retained
import CrashTrace.Proofs.Process.Setup
import CrashTrace.Proofs.Process.Waiting

/-!
# Processes at rest

Between two operations no handler runs: no signal is blocked, and none waits. Deliveries that
return, and operations that set something up or take it down, leave a process at rest. What is set
up for a registered signal is then what its latest registration asked for.

## Main definitions

- `Process.Idle` — no signal is blocked, and none waits
- `Process.Rests` — what everything but a registration keeps
- `Process.RegisteredFor` — what a registration does

## Main results

- `Process.register_outcome`
-/

namespace CrashTrace

namespace Process

variable {p q r : Process}

/-- No signal is blocked, and none waits. -/
structure Idle (p : Process) : Prop where
  blocked : p.blocked = []
  pending : p.pending = []

namespace Idle

theorem not_blocked (h : Idle p) (s : Signal) : s ∉ p.blocked := by
  rw [h.blocked]
  exact List.not_mem_nil

theorem not_pending (h : Idle p) (s : Signal) : s ∉ p.pending := by
  rw [h.pending]
  exact List.not_mem_nil

theorem of_sublist (hp : Idle p) (hblocked : q.blocked = p.blocked)
    (hpending : q.pending.Sublist p.pending) : Idle q := by
  refine ⟨hblocked.trans hp.blocked, ?_⟩
  rw [hp.pending] at hpending
  exact List.sublist_nil.mp hpending

theorem settled (hp : Idle p) : Settled p := by
  constructor
  · intro s _ hmem
    rw [hp.pending] at hmem
    cases hmem
  · intro s _
    rw [hp.pending]
    exact Nat.zero_le 1

/-- Signals that are kept once do not wait since they are settled, and the others since they are
cleared. -/
theorem of_cleared (hp : Idle p) (h : Undisturbed p q)
    (hclears : ∀ s, s.queues → Clears s p q) : Idle q := by
  have hblocked : q.blocked = [] := h.blocked.trans hp.blocked
  refine ⟨hblocked, List.eq_nil_iff_forall_not_mem.mpr fun s hmem => ?_⟩
  cases hs : s.queues with
  | true =>
    exact (hclears s hs (hp.not_blocked s) (hp.not_pending s)).2 hmem
  | false =>
    have := (h.settled hp.settled).blocked s hs hmem
    rw [hblocked] at this
    cases this

end Idle

/-- A process at rest stays at rest, the guard of dumps is as it was, and so is what is set up for
each signal that is registered still. -/
structure Rests (p q : Process) : Prop where
  idle : Idle p → Idle q
  retained : Retained p q

namespace Rests

theorem trans (hpq : Rests p q) (hqr : Rests q r) : Rests p r :=
  ⟨fun hp => hqr.idle (hpq.idle hp), hpq.retained.trans hqr.retained⟩

theorem of_sublist (hblocked : q.blocked = p.blocked) (hpending : q.pending.Sublist p.pending)
    (h : Retained p q) : Rests p q :=
  ⟨fun hp => hp.of_sublist hblocked hpending, h⟩

theorem of_same (hblocked : q.blocked = p.blocked) (hpending : q.pending = p.pending)
    (hdumping : q.dumping = p.dumping) (husers : q.userSignals = p.userSignals) : Rests p q :=
  of_sublist hblocked (hpending ▸ List.Sublist.refl _) (.of_same hdumping husers)

theorem refl (p : Process) : Rests p p := of_same rfl rfl rfl rfl

theorem tolerant : Tolerant Rests :=
  ⟨trans, fun h hdumping => of_same h.blocked h.pending hdumping h.userSignals⟩

theorem raise (caller : Option ThreadId) (budget : Nat) (s : Signal) :
    Run.Within Rests (Process.raise caller budget s) := by
  intro p v q h
  exact ⟨fun hp => hp.of_cleared (raise_undisturbed caller budget s p v q h) fun u hu =>
    raise_clears hu caller budget s p v q h, raise_retained caller budget s p v q h⟩

theorem handleFault (caller : Option ThreadId) (budget : Nat) (s : Signal) (sent : Bool) :
    Run.Within Rests (Process.handleFault (Process.raise caller budget) caller s sent) := by
  intro p v q h
  refine ⟨fun hp => hp.of_cleared
    (handleFault_undisturbed (raise_undisturbed caller budget) caller s sent p v q h)
    fun u hu => ?_, handleFault_retained (raise_retained caller budget) caller s sent p v q h⟩
  exact (Clears.closed u).steady.handleFault (.of_all (raise_clears hu caller budget) s) caller
    (fun p => Clears.trySetAction p s surrenderedAction) sent p v q h

theorem unregister (p : Process) (n : Int) : Rests p (p.unregister n).2 :=
  of_sublist (Undisturbed.unregister p n).blocked (p.unregister_pending n) (.unregister p n)

theorem trySetAction (p : Process) (s : Signal) (a : Action) : Rests p (p.trySetAction s a) :=
  of_sublist (p.trySetAction_blocked s a) (p.trySetAction_pending s a) (.trySetAction p s a)

theorem reinstate (p : Process) (s : Signal) (kept : SavedAction) :
    Rests p (p.reinstate kept s) :=
  of_sublist (p.reinstate_blocked s kept) (p.reinstate_pending s kept) (.reinstate p s kept)

-- ════════════════════════════════════════════════════════════════════════
-- Fault reports
-- ════════════════════════════════════════════════════════════════════════

theorem uninstallFault (p : Process) (s : Signal) : Rests p (p.uninstallFault s) :=
  of_sublist (Undisturbed.uninstallFault p s).blocked (p.uninstallFault_pending s)
    (.uninstallFault p s)

theorem installFault (settings : FaultSettings) (p : Process) (s : Signal) :
    Rests p (Process.installFault settings p s) :=
  of_sublist rfl (installed_installFault settings p s).pending (.of_same rfl rfl)

theorem foldl {change : Process → Signal → Process} (h : ∀ p s, Rests p (change p s))
    (signals : List Signal) (p : Process) : Rests p (signals.foldl change p) := by
  induction signals generalizing p with
  | nil => exact refl p
  | cons s signals ih => exact (h p s).trans (ih _)

theorem disable (p : Process) : Rests p p.disable := by
  unfold Process.disable
  split
  · have huninstalled := foldl uninstallFault faultSignals p
    unfold uninstallFaults
    generalize faultSignals.foldl Process.uninstallFault p = q at huninstalled ⊢
    exact huninstalled.trans (of_same rfl rfl rfl rfl)
  · exact refl p

theorem enable (p : Process) (supply : StackSupply) (sink : Sink) (settings : FaultSettings) :
    Rests p (p.enable supply sink settings).2 := by
  unfold Process.enable
  split
  · exact refl p
  · dsimp only
    split
    · exact of_same rfl rfl rfl rfl
    · split
      · exact of_same rfl rfl rfl rfl
      · next ready hready =>
        obtain ⟨altStack, rfl⟩ := provideAltStack_eq hready
        have haimed : Rests p
            ((p.aim sink settings).changeFaults fun f => { f with altStack := altStack }) :=
          of_same rfl rfl rfl rfl
        have hinstalled := haimed.trans (foldl (installFault settings) faultSignals _)
        unfold aim at hinstalled
        generalize faultSignals.foldl (Process.installFault settings) _ = q at hinstalled ⊢
        exact hinstalled.trans (of_same rfl rfl rfl rfl)

end Rests

-- ════════════════════════════════════════════════════════════════════════
-- Registrations
-- ════════════════════════════════════════════════════════════════════════

/-- A signal has been registered: what is set up for it is what was asked for, and the rest is as
it was. -/
structure RegisteredFor (s : Signal) (sink : Sink) (settings : UserSignalSettings)
    (p q : Process) : Prop where
  changeable : s.actionChangeable
  installed : (q.userSignal s).saved.installed
  target : (q.userSignal s).target.load? = some (sink.descriptor, settings.allThreads)
  chain : (q.userSignal s).chain = settings.chain
  others : ∀ u, s ≠ u → q.userSignal u = p.userSignal u
  idle : Idle p → Idle q
  dumping : q.dumping = p.dumping

/-- An attempt to register a signal has come to nothing. If the attempt was given up late, the
signal was not registered and is not registered now. -/
inductive Undone (p : Process) : Process → Prop
  | unchanged : Undone p p
  | vacated (s : Signal) (change : UserSignal → UserSignal) :
      (p.userSignal s).saved.installed = false → (change (p.userSignal s)).Vacant →
      Undone p (p.changeUserSignal s change)

theorem Undone.rests (h : Undone p q) : Rests p q := by
  cases h with
  | unchanged => exact .refl p
  | vacated s change _ hvacant => exact .of_sublist rfl (List.Sublist.refl _) (.unmark hvacant)

/-- What registering a signal can come to. -/
inductive RegisterOutcome (p : Process) (signum : Int) (sink : Sink)
    (settings : UserSignalSettings) : Answered Unit → Prop
  | refused (failure : Failure) (q : Process) : Undone p q →
      RegisterOutcome p signum sink settings (.error failure, q)
  | registered (s : Signal) (q : Process) : Signal.registrable signum = .ok s →
      RegisteredFor s sink settings p q → RegisterOutcome p signum sink settings (.ok (), q)

section Register

variable {s : Signal} {sink : Sink} {settings : UserSignalSettings}

theorem registeredFor_setAction (hchangeable : s.actionChangeable) {saved : SavedAction}
    (hsaved : saved.installed) (a : Action) :
    RegisteredFor s sink settings p
      ((p.changeUserSignal s fun u =>
        ⟨u.target.set sink.descriptor settings.allThreads, settings.chain, saved⟩).setAction s
          a) := by
  set change : UserSignal → UserSignal := fun u =>
    ⟨u.target.set sink.descriptor settings.allThreads, settings.chain, saved⟩
  have huser : ∀ u, ((p.changeUserSignal s change).setAction s a).userSignal u =
      if s = u then change (p.userSignal u) else p.userSignal u :=
    fun u => userSignal_changeUserSignal p s u change
  refine ⟨hchangeable, ?_, ?_, ?_, fun u hu => ?_, fun hp => ?_, rfl⟩
  · rw [huser, if_pos rfl]
    exact hsaved
  · rw [huser, if_pos rfl]
    rfl
  · rw [huser, if_pos rfl]
  · rw [huser, if_neg hu]
  · refine hp.of_sublist rfl ?_
    unfold setAction
    split
    · exact List.filter_sublist
    · exact List.Sublist.refl _

/-- A signal that is set up already can be changed. Otherwise nothing remains of an attempt that
fails. -/
theorem installDump_outcome (hp : (p.userSignal s).saved.installed → s.actionChangeable)
    (sink : Sink) (settings : UserSignalSettings) :
    (∃ failure q, p.installDump s sink settings = (.error failure, q) ∧ Undone p q) ∨
      ∃ q, p.installDump s sink settings = (.ok (), q) ∧ RegisteredFor s sink settings p q := by
  unfold installDump
  by_cases hchangeable : s.actionChangeable
  · have hreadable := Signal.readable_of_changeable s hchangeable
    refine .inr ?_
    dsimp only
    cases hmark : (p.userSignal s).saved.installed with
    | true =>
      rw [if_pos rfl]
      dsimp only
      rw [setAction?, if_pos hchangeable]
      exact ⟨_, rfl, registeredFor_setAction hchangeable rfl _⟩
    | false =>
      rw [if_neg (by decide), capture, action?, if_pos hreadable]
      dsimp only
      rw [setAction?, if_pos hchangeable]
      exact ⟨_, rfl, registeredFor_setAction hchangeable rfl _⟩
  · have hmark : (p.userSignal s).saved.installed = false :=
      Bool.eq_false_iff.mpr fun hmark => hchangeable (hp hmark)
    refine .inl ?_
    dsimp only
    rw [hmark, if_neg (by decide), capture, action?]
    by_cases hreadable : s.actionReadable
    · rw [if_pos hreadable]
      dsimp only
      rw [setAction?, if_neg hchangeable]
      rw [if_neg (by decide), changeUserSignal_changeUserSignal]
      exact ⟨_, _, rfl, .vacated s _ hmark ⟨rfl, rfl⟩⟩
    · rw [if_neg hreadable]
      exact ⟨_, _, rfl, .unchanged⟩

theorem register_outcome (hp : ∀ u, (p.userSignal u).saved.installed → u.actionChangeable)
    (signum : Int) (sink : Sink) (settings : UserSignalSettings) :
    RegisterOutcome p signum sink settings (p.register signum sink settings) := by
  unfold register
  cases hs : Signal.registrable signum with
  | error failure => exact .refused failure p .unchanged
  | ok s =>
    dsimp only
    cases p.descriptors.checkSink sink.descriptor with
    | error failure => exact .refused failure p .unchanged
    | ok _ =>
      dsimp only
      obtain ⟨failure, q, hinstall, hq⟩ | ⟨q, hinstall, hq⟩ :=
        installDump_outcome (hp s) sink settings
      · rw [hinstall]
        exact .refused failure q hq
      · rw [hinstall]
        exact .registered s _ hs ⟨hq.changeable, hq.installed, hq.target, hq.chain, hq.others,
          fun h => (hq.idle h).of_sublist rfl (List.Sublist.refl _), hq.dumping⟩

end Register

end Process

end CrashTrace
