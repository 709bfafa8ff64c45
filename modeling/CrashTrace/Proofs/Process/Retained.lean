import CrashTrace.Proofs.Process.Coherent

/-!
# The guard of dumps

A dump for a signal holds a guard while it writes, and a write to a broken pipe sets off another
handler meanwhile. Whatever that handler does, the dump gives the guard back. So a delivery that
returns leaves the guard as it was, and it changes what is set up for a signal only by
unregistering it.

## Main definitions

- `UserSignal.Vacant` — a signal is not registered
- `Process.Retained` — what every delivery that returns keeps of the guard and of what is set up

## Main results

- `Process.raise_retained`, `Process.handleFault_retained`
-/

namespace CrashTrace

/-- The guard that was taken is given back. -/
theorem Exclusion.release_of_take? {e held : Exclusion} (h : e.take? = some held) :
    held.release = e := by
  obtain ⟨holders⟩ := e
  unfold Exclusion.take? at h
  split at h
  · next hfree =>
    cases h
    exact congrArg Exclusion.mk hfree.symm
  · cases h

/-- The guard cannot be taken twice. -/
theorem Exclusion.take?_of_take? {e held : Exclusion} (h : e.take? = some held) :
    held.take? = none := by
  unfold Exclusion.take? at h ⊢
  split at h
  · cases h
    rfl
  · cases h

/-- A signal is not registered, and no dumps go anywhere for it. -/
structure UserSignal.Vacant (u : UserSignal) : Prop where
  unmarked : u.saved.installed = false
  target : u.target.load? = none

namespace Process

variable {p q r : Process}

/-- The guard of dumps is as it was, and so is what is set up for each signal, unless the signal
has been unregistered. -/
structure Retained (p q : Process) : Prop where
  dumping : q.dumping = p.dumping
  kept : ∀ s, q.userSignal s = p.userSignal s ∨ (q.userSignal s).Vacant

namespace Retained

theorem userSignal (h : Retained p q) (s : Signal) (hs : (q.userSignal s).saved.installed) :
    q.userSignal s = p.userSignal s :=
  (h.kept s).resolve_right fun hvacant => absurd (hvacant.unmarked.symm.trans hs) (by decide)

theorem trans (hpq : Retained p q) (hqr : Retained q r) : Retained p r := by
  refine ⟨hqr.dumping.trans hpq.dumping, fun s => ?_⟩
  rcases hqr.kept s with hsame | hvacant
  · rw [hsame]
    exact hpq.kept s
  · exact .inr hvacant

theorem of_same (hdumping : q.dumping = p.dumping) (husers : q.userSignals = p.userSignals) :
    Retained p q :=
  ⟨hdumping, fun s => .inl (userSignal_congr husers s)⟩

theorem tolerant : Tolerant Retained := ⟨trans, fun h hdumping => of_same hdumping h.userSignals⟩

theorem trySetAction (p : Process) (s : Signal) (a : Action) :
    Retained p (p.trySetAction s a) := by
  obtain ⟨actions, pending, h, -⟩ := p.exists_trySetAction s a
  rw [h]
  exact of_same rfl rfl

theorem reinstate (p : Process) (s : Signal) (kept : SavedAction) :
    Retained p (p.reinstate kept s) := by
  obtain ⟨actions, pending, h, -⟩ := p.exists_reinstate s kept
  rw [h]
  exact of_same rfl rfl

theorem uninstallFault (p : Process) (s : Signal) : Retained p (p.uninstallFault s) := by
  rw [uninstallFault_eq]
  exact (reinstate p s _).trans (of_same rfl rfl)

theorem note (p : Process) (e : LogEvent) : Retained p (p.note e) := of_same rfl rfl

theorem unmark {s : Signal} {change : UserSignal → UserSignal}
    (h : (change (p.userSignal s)).Vacant) : Retained p (p.changeUserSignal s change) := by
  refine ⟨rfl, fun u => ?_⟩
  rw [userSignal_changeUserSignal]
  split
  · next hsame =>
    rw [← hsame]
    exact .inr h
  · exact .inl rfl

theorem unregister (p : Process) (n : Int) : Retained p (p.unregister n).2 := by
  unfold Process.unregister
  split
  · exact of_same rfl rfl
  · next s _ =>
    simp only [removeDump_eq]
    exact (reinstate p s (p.userSignal s).saved).trans ((unmark ⟨rfl, rfl⟩).trans (note _ _))

/-- The guard is held while the dump is written and given back afterwards. -/
theorem dump {raise : Raise} (caller : Option ThreadId) (s : Signal)
    (hpipe : Run.Within Retained (raise Signal.pipe)) :
    Run.Within Retained (dumpForSignal raise caller s) := by
  intro p v q h
  obtain rfl | ⟨fd, text, held, written, r, htake, hwrite, rfl⟩ := dumpForSignal_returned h
  · exact tolerant.refl q
  · have hwritten := tolerant.write hpipe fd text _ _ _ hwrite
    refine ⟨?_, hwritten.kept⟩
    show r.dumping.release = p.dumping
    rw [hwritten.dumping]
    exact Exclusion.release_of_take? htake

theorem steady : Steady Retained where
  toTolerant := tolerant
  dump := dump
  unregister := unregister
  uninstall p s _ := uninstallFault p s
  reinstate p s := reinstate p s _
  reinstall p s _ := trySetAction p s _

end Retained

theorem handleFault_retained {raise : Raise} (hraise : ∀ s, Run.Within Retained (raise s))
    (caller : Option ThreadId) (s : Signal) (sent : Bool) :
    Run.Within Retained (handleFault raise caller s sent) :=
  Retained.steady.handleFault (.of_all hraise s) caller
    (fun p => Retained.trySetAction p s surrenderedAction) sent

/-- A signal that is sent, and whatever it sets off, gives the guard of dumps back. The induction
is on the handlers that may run inside one another; what is blocked and pending meanwhile does not
matter. -/
theorem raise_retained (caller : Option ThreadId) (budget : Nat) (s : Signal) :
    Run.Within Retained (raise caller budget s) := by
  induction budget generalizing s with
  | zero =>
    intro p v q h
    cases h
  | succ budget ih =>
    intro p v q h
    obtain rfl | ⟨-, rfl⟩ | ⟨-, k, flags, -, hinvoke⟩ := raise_returned h
    · exact Retained.tolerant.refl q
    · unfold keepPending
      split
      · exact Retained.tolerant.refl p
      · exact .of_same rfl rfl
    · exact Retained.steady.invoke (.of_all ih s) caller
        (fun p => Retained.trySetAction p s surrenderedAction) (fun _ _ => .of_same rfl rfl)
        (fun _ => .of_same rfl rfl) true flags k _ _ _ hinvoke

end Process

end CrashTrace
