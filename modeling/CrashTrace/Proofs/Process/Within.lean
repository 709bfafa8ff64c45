import CrashTrace.Process.Delivery

/-!
# What a run keeps

A run that returns takes a state to a state, and handlers set off other handlers. So a property of
signal handling is stated as a relation between the state before and the state after, and it is
proved once for each thing that a handler can do.

## Main definitions

- `Run.Within` — wherever the run returns, two states are related
- `Process.Alike` — two states differ in nothing that concerns signals
- `Process.Steady` — a relation holds for each thing that a handler does
- `Process.Closed` — the same for relations that do not see whether a dump is being made

## Design notes

The inversion lemmas (`raise_returned`, `invoke_returned`, `handleFault_returned`) say all that a
delivery can do. Proofs about deliveries take a run apart with them and never unfold it.

A handler raises few signals: its own one, the one for a broken pipe, and those that the handlers
of the observed program raise. The lemmas on handlers ask for no others (`Handled`).
-/

namespace CrashTrace

namespace Run

variable {α β : Type} {p q : Process}

theorem bind_returned {run : Run α} {next : α → Run β} {w : β} :
    (run >>= next) p = .returned w q ↔
      ∃ v r, run p = .returned v r ∧ next v r = .returned w q := by
  rw [bind_apply]
  cases run p with
  | returned v r =>
    constructor
    · intro h
      exact ⟨v, r, rfl, h⟩
    · rintro ⟨_, _, ⟨⟩, h⟩
      exact h
  | ended status r => simp
  | unfinished => simp

theorem bind_of_returned {run : Run α} {v : α} (h : run p = .returned v q) (next : α → Run β) :
    (run >>= next) p = next v q := by
  rw [bind_apply, h]

theorem bind_of_ended {run : Run α} {status : ExitStatus} (h : run p = .ended status q)
    (next : α → Run β) : (run >>= next) p = .ended status q := by
  rw [bind_apply, h]

theorem bind_of_eq {run run' : Run α} (h : run p = run' q) (next : α → Run β) :
    (run >>= next) p = (run' >>= next) q := by
  rw [bind_apply, h, bind_apply]

theorem state_bind (next : Process → Run β) : (state >>= next) p = next p p := rfl

theorem change_bind (f : Process → Process) (next : Unit → Run β) :
    (change f >>= next) p = next () (f p) := rfl

theorem pure_returned {v w : α} : (pure v : Run α) p = .returned w q ↔ v = w ∧ p = q := by
  rw [pure_apply, Outcome.returned.injEq]

theorem change_returned {f : Process → Process} {v : Unit} :
    change f p = .returned v q ↔ f p = q := by
  rw [change_apply, Outcome.returned.injEq]
  exact ⟨And.right, fun h => ⟨rfl, h⟩⟩

/-- Wherever the run returns, the state before it and the state after it are related. -/
def Within (R : Process → Process → Prop) (run : Run α) : Prop :=
  ∀ p v q, run p = .returned v q → R p q

namespace Within

variable {R : Process → Process → Prop}

theorem state_bind {next : Process → Run β} (hnext : ∀ p, Within R (next p)) :
    Within R (state >>= next) := by
  intro p w q h
  exact hnext p p w q h

theorem change {f : Process → Process} (hf : ∀ p, R p (f p)) : Within R (Run.change f) := by
  intro p v q h
  rw [← change_returned.mp h]
  exact hf p

theorem answer {operation : Process → α × Process} (h : ∀ p, R p (operation p).2) :
    Within R (Run.answer operation) := by
  intro p v q hq
  obtain ⟨-, rfl⟩ := Outcome.returned.inj hq
  exact h p

theorem finish (status : ExitStatus) : Within R (Run.finish status) := by
  intro p v q h
  cases h

end Within

end Run

namespace Process

variable {p q r : Process}

/-- Two states differ in nothing that concerns signals. -/
structure Alike (p q : Process) : Prop where
  actions : q.actions = p.actions
  blocked : q.blocked = p.blocked
  pending : q.pending = p.pending
  enabled : q.faults.enabled = p.faults.enabled
  target : q.faults.target = p.faults.target
  saved : q.faults.saved = p.faults.saved
  userSignals : q.userSignals = p.userSignals

/-- A relation holds for whatever concerns neither signals nor the guard of dumps. -/
structure Tolerant (R : Process → Process → Prop) : Prop where
  trans : ∀ {p q r}, R p q → R q r → R p r
  of_same : ∀ {p q}, Alike p q → q.dumping = p.dumping → R p q

/-- A relation holds for each thing that a handler does, apart from what only a signal that was
sent brings about. A dump is one thing here, since it holds a guard meanwhile. -/
structure Steady (R : Process → Process → Prop) : Prop extends Tolerant R where
  dump : ∀ {raise : Raise} (caller : Option ThreadId) (s : Signal),
    Run.Within R (raise Signal.pipe) → Run.Within R (dumpForSignal raise caller s)
  unregister : ∀ p n, R p (p.unregister n).2
  uninstall : ∀ p s, s.faultName?.isSome → R p (p.uninstallFault s)
  reinstate : ∀ p s, R p (p.reinstate (p.userSignal s).saved s)
  reinstall : ∀ p s, (p.userSignal s).saved.installed →
    R p (p.trySetAction s (p.dumpAction true))

/-- A relation holds for each single thing that a handler does, apart from what only a signal that
was sent brings about. -/
structure Closed (R : Process → Process → Prop) : Prop where
  trans : ∀ {p q r}, R p q → R q r → R p r
  of_alike : ∀ {p q}, Alike p q → R p q
  unregister : ∀ p n, R p (p.unregister n).2
  uninstall : ∀ p s, s.faultName?.isSome → R p (p.uninstallFault s)
  reinstate : ∀ p s, R p (p.reinstate (p.userSignal s).saved s)
  reinstall : ∀ p s, (p.userSignal s).saved.installed →
    R p (p.trySetAction s (p.dumpAction true))

/-- A relation holds wherever one of the signals returns that the handler of `s` may raise. -/
structure Handled (R : Process → Process → Prop) (raise : Raise) (s : Signal) : Prop where
  own : Run.Within R (raise s)
  pipe : Run.Within R (raise Signal.pipe)
  abort : Run.Within R (raise Signal.abort)
  user1 : Run.Within R (raise Signal.user1)

theorem Handled.of_all {R : Process → Process → Prop} {raise : Raise}
    (h : ∀ s, Run.Within R (raise s)) (s : Signal) : Handled R raise s :=
  ⟨h s, h _, h _, h _⟩

-- ════════════════════════════════════════════════════════════════════════
-- What a delivery that returns has done
-- ════════════════════════════════════════════════════════════════════════

section Returned

variable {raise : Raise} {caller : Option ThreadId} {s : Signal}

/-- The report on a fatal signal, and nothing for any other one. -/
def reportNamed (raise : Raise) (caller : Option ThreadId) (s : Signal) : Run Unit :=
  match s.faultName? with
  | some name => reportFault raise caller (faultHeader name)
  | none => pure ()

theorem handleFault_eq (raise : Raise) (caller : Option ThreadId) (s : Signal) (sent : Bool) :
    handleFault raise caller s sent = (do
      reportNamed raise caller s
      Run.change fun p => if s.faultName?.isSome then p.uninstallFault s else p
      raise s
      if sent then do
        Run.change fun p => p.trySetAction s surrenderedAction
        raise s
      else pure ()) := by
  unfold handleFault reportNamed
  cases s.faultName? with
  | some name => rfl
  | none => rfl

theorem handleFault_returned {sent : Bool} {v : Unit}
    (h : handleFault raise caller s sent p = .returned v q) :
    ∃ p₁ p₂, reportNamed raise caller s p = .returned () p₁ ∧
      raise s (if s.faultName?.isSome then p₁.uninstallFault s else p₁) = .returned () p₂ ∧
      (sent = false ∧ q = p₂ ∨
        sent = true ∧ raise s (p₂.trySetAction s surrenderedAction) = .returned () q) := by
  rw [handleFault_eq] at h
  obtain ⟨_, p₁, hreport, h⟩ := Run.bind_returned.mp h
  rw [Run.change_bind] at h
  obtain ⟨_, p₂, hraise, h⟩ := Run.bind_returned.mp h
  refine ⟨p₁, p₂, hreport, hraise, ?_⟩
  cases sent with
  | false =>
    obtain ⟨-, rfl⟩ := Run.pure_returned.mp h
    exact .inl ⟨rfl, rfl⟩
  | true => exact .inr ⟨rfl, h⟩

theorem invoke_returned {sent : Bool} {flags : ActionFlags} {k : Handler} {v : Unit}
    (h : invoke raise caller s sent flags k p = .returned v q) :
    ∃ r, handle raise caller s sent k
        { p with blocked := if flags.noDefer then p.blocked else s :: p.blocked } =
          .returned () r ∧
      deliverPending raise s { r with blocked := p.blocked } = .returned () q := by
  unfold invoke at h
  rw [Run.state_bind, Run.change_bind] at h
  obtain ⟨_, r, hhandle, h⟩ := Run.bind_returned.mp h
  exact ⟨r, hhandle, h⟩

theorem dumpForSignal_returned {v : Unit} (h : dumpForSignal raise caller s p = .returned v q) :
    q = p ∨ ∃ fd text held written r, p.dumping.take? = some held ∧
      write raise fd text { p with dumping := held } = .returned written r ∧
      q = { r with dumping := r.dumping.release } := by
  unfold dumpForSignal at h
  rw [Run.state_bind] at h
  cases htarget : (p.userSignal s).target.load? with
  | none =>
    rw [htarget] at h
    exact .inl (Run.pure_returned.mp h).2.symm
  | some target =>
    obtain ⟨fd, allThreads⟩ := target
    rw [htarget] at h
    dsimp only at h
    cases htake : p.dumping.take? with
    | none =>
      rw [htake] at h
      exact .inl (Run.pure_returned.mp h).2.symm
    | some held =>
      rw [htake] at h
      dsimp only at h
      rw [Run.change_bind] at h
      obtain ⟨written, r, hwrite, h⟩ := Run.bind_returned.mp h
      exact .inr ⟨fd, _, held, written, r, rfl, hwrite, (Run.change_returned.mp h).symm⟩

theorem deliverPending_returned {v : Unit} (h : deliverPending raise s p = .returned v q) :
    q = p ∧ (s ∈ p.pending → s ∈ p.blocked) ∨
      s ∈ p.pending ∧ raise s { p with pending := p.pending.erase s } = .returned () q := by
  unfold deliverPending at h
  rw [Run.state_bind] at h
  split at h
  · next arrived =>
    rw [Bool.and_eq_true, List.contains_iff_mem] at arrived
    exact .inr ⟨arrived.1, h⟩
  · next waiting =>
    obtain ⟨-, rfl⟩ := Run.pure_returned.mp h
    refine .inl ⟨rfl, fun hs => ?_⟩
    simpa [hs] using waiting

theorem raise_free (hreserved : s.reserved = false) (hfree : s ∉ p.blocked) (budget : Nat) :
    Process.raise caller (budget + 1) s p =
      takePlace (Process.raise caller budget) caller s p := by
  unfold Process.raise
  rw [Run.state_bind, if_neg (by simp [hreserved]), if_neg (by simpa using hfree)]

theorem raise_reserved (hreserved : s.reserved) (budget : Nat) :
    Process.raise caller (budget + 1) s p = .returned () p := by
  unfold Process.raise
  rw [Run.state_bind, if_pos hreserved]
  rfl

theorem raise_blocked (hreserved : s.reserved = false) (hblocked : s ∈ p.blocked) (budget : Nat) :
    Process.raise caller (budget + 1) s p = .returned () (p.keepPending s) := by
  unfold Process.raise
  rw [Run.state_bind, if_neg (by simp [hreserved]), if_pos (by simpa using hblocked)]
  rfl

/-- A signal whose default action takes place ends the process, unless that action is nothing. -/
theorem raise_default (hreserved : s.reserved = false) (hdeadly : s.ignoredByDefault = false)
    (hfree : s ∉ p.blocked) (haction : (p.actions.get s).disposition = .byDefault)
    (caller : Option ThreadId) (budget : Nat) :
    Process.raise caller (budget + 1) s p = .ended (.signal s) p := by
  rw [raise_free hreserved hfree]
  unfold takePlace
  rw [Run.state_bind, haction]
  dsimp only
  rw [if_neg (by simp [hdeadly])]
  rfl

theorem raise_returned {budget : Nat} {v : Unit}
    (h : Process.raise caller (budget + 1) s p = .returned v q) :
    q = p ∨ s ∈ p.blocked ∧ q = p.keepPending s ∨
      s ∉ p.blocked ∧ ∃ k flags, p.actions.get s = ⟨.handled k, flags⟩ ∧
        invoke (Process.raise caller budget) caller s true flags k p = .returned () q := by
  unfold Process.raise at h
  rw [Run.state_bind] at h
  split at h
  · obtain ⟨-, rfl⟩ := Run.pure_returned.mp h
    exact .inl rfl
  · split at h
    · next hblocked =>
      have hkeep := Run.change_returned.mp h
      exact .inr (.inl ⟨List.contains_iff_mem.mp hblocked, hkeep.symm⟩)
    · next hfree =>
      unfold takePlace at h
      rw [Run.state_bind] at h
      cases haction : p.actions.get s with
      | mk disposition flags =>
        rw [haction] at h
        cases disposition with
        | ignored =>
          obtain ⟨-, rfl⟩ := Run.pure_returned.mp h
          exact .inl rfl
        | byDefault =>
          dsimp only at h
          split at h
          · obtain ⟨-, rfl⟩ := Run.pure_returned.mp h
            exact .inl rfl
          · cases h
        | handled k =>
          exact .inr (.inr ⟨fun hs => hfree (List.contains_iff_mem.mpr hs), k, flags, rfl, h⟩)

end Returned

-- ════════════════════════════════════════════════════════════════════════
-- Handlers
-- ════════════════════════════════════════════════════════════════════════

namespace Tolerant

variable {R : Process → Process → Prop} (hR : Tolerant R)

section Rules

variable {α β : Type}

include hR

theorem refl (p : Process) : R p p := hR.of_same ⟨rfl, rfl, rfl, rfl, rfl, rfl, rfl⟩ rfl

theorem pure (v : α) : Run.Within R (pure v : Run α) := by
  intro p w q h
  obtain ⟨-, rfl⟩ := Run.pure_returned.mp h
  exact hR.refl p

theorem bind {run : Run α} {next : α → Run β} (hrun : Run.Within R run)
    (hnext : ∀ v, Run.Within R (next v)) : Run.Within R (run >>= next) := by
  intro p w q h
  obtain ⟨v, r, hv, hw⟩ := Run.bind_returned.mp h
  exact hR.trans (hrun p v r hv) (hnext v r w q hw)

end Rules

variable {raise : Raise} (hpipe : Run.Within R (raise Signal.pipe)) (caller : Option ThreadId)

include hR hpipe

theorem write (fd : Int) (text : Text) : Run.Within R (Process.write raise fd text) := by
  refine Run.Within.state_bind fun p => ?_
  cases p.descriptors.offer fd text with
  | taken table =>
    refine hR.bind (.change fun q => ?_) fun _ => hR.pure _
    exact hR.of_same ⟨rfl, rfl, rfl, rfl, rfl, rfl, rfl⟩ rfl
  | refused failure => exact hR.pure _
  | pipeBroken => exact hR.bind hpipe fun _ => hR.pure _

theorem reportFault (header : Process → Pieces) :
    Run.Within R (Process.reportFault raise caller header) := by
  refine Run.Within.state_bind fun p => ?_
  split
  · exact hR.pure ()
  · refine hR.bind (.change fun q => ?_) fun _ => ?_
    · exact hR.of_same ⟨rfl, rfl, rfl, rfl, rfl, rfl, rfl⟩ rfl
    · split
      · exact hR.pure ()
      · exact hR.bind (hR.write hpipe _ _) fun _ => hR.pure ()

theorem reportNamed (s : Signal) : Run.Within R (Process.reportNamed raise caller s) := by
  unfold Process.reportNamed
  split
  · exact hR.reportFault hpipe caller _
  · exact hR.pure ()

end Tolerant

theorem Closed.tolerant {R : Process → Process → Prop} (hR : Closed R) : Tolerant R :=
  ⟨hR.trans, fun h _ => hR.of_alike h⟩

/-- A dump takes the guard and releases it, which such a relation does not see. -/
theorem Closed.steady {R : Process → Process → Prop} (hR : Closed R) : Steady R where
  toTolerant := hR.tolerant
  dump caller s hpipe := by
    refine Run.Within.state_bind fun p => ?_
    split
    · exact hR.tolerant.pure ()
    · split
      · exact hR.tolerant.pure ()
      · refine hR.tolerant.bind (.change fun q => ?_) fun _ =>
          hR.tolerant.bind (hR.tolerant.write hpipe _ _) fun _ => .change fun q => ?_
        · exact hR.of_alike ⟨rfl, rfl, rfl, rfl, rfl, rfl, rfl⟩
        · exact hR.of_alike ⟨rfl, rfl, rfl, rfl, rfl, rfl, rfl⟩
  unregister := hR.unregister
  uninstall := hR.uninstall
  reinstate := hR.reinstate
  reinstall := hR.reinstall

namespace Steady

variable {R : Process → Process → Prop} (hR : Steady R) {raise : Raise} {s : Signal}
  (hraise : Handled R raise s) (caller : Option ThreadId)

include hR hraise

/-- The report, and the signal raised again so that the saved action takes place. -/
theorem handleFault_unsent : Run.Within R (handleFault raise caller s false) := by
  intro p v q h
  obtain ⟨p₁, p₂, hreport, hpassed, ⟨-, rfl⟩ | ⟨hsent, -⟩⟩ := handleFault_returned h
  · have h₁ : R p p₁ := hR.reportNamed hraise.pipe caller s _ _ _ hreport
    have h₂ := hraise.own _ _ _ hpassed
    split at h₂
    · next hfatal => exact hR.trans h₁ (hR.trans (hR.uninstall p₁ s hfatal) h₂)
    · exact hR.trans h₁ h₂
  · cases hsent

/-- A signal that was sent is raised once more, after the default action has been set. -/
theorem handleFault (hsurrender : ∀ p, R p (p.trySetAction s surrenderedAction)) (sent : Bool) :
    Run.Within R (Process.handleFault raise caller s sent) := by
  cases sent with
  | false => exact hR.handleFault_unsent hraise caller
  | true =>
    intro p v q h
    obtain ⟨p₁, p₂, hreport, hpassed, ⟨hsent, -⟩ | ⟨-, hagain⟩⟩ := handleFault_returned h
    · cases hsent
    · have h₁ : R p p₁ := hR.reportNamed hraise.pipe caller s _ _ _ hreport
      have h₂ := hraise.own _ _ _ hpassed
      have h₃ := hR.trans (hsurrender p₂) (hraise.own _ _ _ hagain)
      split at h₂
      · next hfatal =>
        exact hR.trans h₁ (hR.trans (hR.uninstall p₁ s hfatal) (hR.trans h₂ h₃))
      · exact hR.trans h₁ (hR.trans h₂ h₃)

theorem handleDump : Run.Within R (Process.handleDump raise caller s) := by
  refine hR.bind (hR.dump caller s hraise.pipe) fun _ => Run.Within.state_bind fun p => ?_
  split
  · refine hR.bind (.change fun q => hR.reinstate q s) fun _ =>
      hR.bind hraise.own fun _ => .change fun q => ?_
    split
    · next hinstalled => exact hR.reinstall q s hinstalled
    · exact hR.refl q
  · exact hR.pure ()

omit hraise in
/-- A handler of the observed program never raises its own signal. -/
theorem handleOwn (habort : Run.Within R (raise Signal.abort))
    (huser1 : Run.Within R (raise Signal.user1)) (k : OwnHandler) :
    Run.Within R (Process.handleOwn raise s k) := by
  refine hR.bind (.change fun q => ?_) fun _ => ?_
  · exact hR.of_same ⟨rfl, rfl, rfl, rfl, rfl, rfl, rfl⟩ rfl
  · cases k with
    | counts => exact hR.pure ()
    | exits => exact .finish _
    | aborts => exact habort
    | unregisters => exact .change fun q => hR.unregister q _
    | raisesUser1 => exact huser1

/-- Every handler keeps the relation, apart from the last step of the fault handler for a signal
that was sent. -/
theorem handle {sent : Bool} {k : Handler} (hsent : k = .report → sent = false) :
    Run.Within R (Process.handle raise caller s sent k) := by
  cases k with
  | own k => exact hR.handleOwn hraise.abort hraise.user1 k
  | report =>
    rw [hsent rfl]
    exact hR.handleFault_unsent hraise caller
  | dump => exact hR.handleDump hraise caller

/-- Every handler keeps the relation if setting the default action does. -/
theorem handleAny (hsurrender : ∀ p, R p (p.trySetAction s surrenderedAction)) (sent : Bool)
    (k : Handler) : Run.Within R (Process.handle raise caller s sent k) := by
  cases k with
  | own k => exact hR.handleOwn hraise.abort hraise.user1 k
  | report => exact hR.handleFault hraise caller hsurrender sent
  | dump => exact hR.handleDump hraise caller

/-- A delivery keeps a relation that sees neither what is blocked nor that the signal is taken out
of those that wait. -/
theorem invoke (hsurrender : ∀ p, R p (p.trySetAction s surrenderedAction))
    (hblocked : ∀ p blocked, R p { p with blocked := blocked })
    (htaken : ∀ p, R p { p with pending := p.pending.erase s }) (sent : Bool)
    (flags : ActionFlags) (k : Handler) :
    Run.Within R (Process.invoke raise caller s sent flags k) := by
  intro p v q h
  obtain ⟨r, hhandle, hpending⟩ := invoke_returned h
  have hhandled := hR.handleAny hraise caller hsurrender sent k _ _ _ hhandle
  have hr := hR.trans (hR.trans (hblocked p _) hhandled) (hblocked r p.blocked)
  obtain ⟨rfl, -⟩ | ⟨-, hagain⟩ := deliverPending_returned hpending
  · exact hr
  · exact hR.trans hr (hR.trans (htaken _) (hraise.own _ _ _ hagain))

end Steady

end Process

end CrashTrace
