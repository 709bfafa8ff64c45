import CrashTrace.Proofs.Process.Actions
import CrashTrace.Proofs.Process.Within
import Mathlib.Data.List.Count

/-!
# Blocked and pending signals

Handlers run inside one another, each with its own signals blocked. A delivery that returns has
unblocked all that it blocked, and it leaves no signal pending that could have been delivered.
It also leaves alone whether fault reports are enabled and where they go, and marks no fatal
signal.

## Main definitions

- `Process.Settled` — only blocked signals are pending
- `Process.Undisturbed` — what every delivery that returns keeps

## Main results

- `Process.raise_undisturbed`, `Process.handleFault_undisturbed`
-/

namespace CrashTrace

namespace Process

variable {p q r : Process}

/-- A signal that is kept once is pending only while it is blocked, and then once. -/
structure Settled (p : Process) : Prop where
  blocked : ∀ s, s.queues = false → s ∈ p.pending → s ∈ p.blocked
  once : ∀ s, s.queues = false → p.pending.count s ≤ 1

/-- What every delivery that returns keeps. -/
structure Undisturbed (p q : Process) : Prop where
  blocked : q.blocked = p.blocked
  settled : Settled p → Settled q
  enabled : q.faults.enabled = p.faults.enabled
  target : q.faults.target = p.faults.target
  marks : ∀ s, (q.faults.saved.get s).installed → (p.faults.saved.get s).installed

namespace Settled

theorem of_sublist (h : Settled p) (hblocked : ∀ s ∈ p.blocked, s ∈ q.blocked)
    (hpending : q.pending.Sublist p.pending) : Settled q := by
  constructor
  · intro s hs hmem
    exact hblocked s (h.blocked s hs (hpending.subset hmem))
  · intro s hs
    exact Nat.le_trans (hpending.count_le s) (h.once s hs)

theorem keepPending (h : Settled p) {s : Signal} (hs : s ∈ p.blocked) :
    Settled (p.keepPending s) := by
  unfold Process.keepPending
  split
  · exact h
  · next hnew =>
    constructor
    · intro u hu hmem
      rcases List.mem_append.mp hmem with hold | hlast
      · exact h.blocked u hu hold
      · rw [List.mem_singleton.mp hlast]
        exact hs
    · intro u hu
      rw [List.count_append]
      by_cases hus : u = s
      · -- The signal is kept once, so it is not pending yet.
        subst hus
        have habsent : u ∉ p.pending := by simpa [hu] using hnew
        simp [List.count_eq_zero_of_not_mem habsent]
      · have := h.once u hu
        simp [Ne.symm hus, this]

end Settled

namespace Undisturbed

theorem trans (hpq : Undisturbed p q) (hqr : Undisturbed q r) : Undisturbed p r where
  blocked := hqr.blocked.trans hpq.blocked
  settled h := hqr.settled (hpq.settled h)
  enabled := hqr.enabled.trans hpq.enabled
  target := hqr.target.trans hpq.target
  marks s h := hpq.marks s (hqr.marks s h)

theorem of_faults (hblocked : q.blocked = p.blocked) (hpending : q.pending.Sublist p.pending)
    (hfaults : q.faults = p.faults) : Undisturbed p q where
  blocked := hblocked
  settled h := h.of_sublist (by simp [hblocked]) hpending
  enabled := by rw [hfaults]
  target := by rw [hfaults]
  marks s h := by rwa [hfaults] at h

theorem refl (p : Process) : Undisturbed p p := of_faults rfl (List.Sublist.refl _) rfl

theorem trySetAction (p : Process) (s : Signal) (a : Action) :
    Undisturbed p (p.trySetAction s a) :=
  of_faults (by simp) (p.trySetAction_pending s a) (by simp)

theorem reinstate (p : Process) (s : Signal) (kept : SavedAction) :
    Undisturbed p (p.reinstate kept s) :=
  of_faults (by simp) (p.reinstate_pending s kept) (by simp)

theorem uninstallFault (p : Process) (s : Signal) : Undisturbed p (p.uninstallFault s) := by
  rw [uninstallFault_eq]
  refine (reinstate p s (p.faults.saved.get s)).trans ?_
  refine ⟨rfl, fun h => h.of_sublist (fun _ hs => hs) (List.Sublist.refl _), rfl, rfl, ?_⟩
  intro u hu
  simp only [changeFaults, reinstate_faults, SignalTable.get_put] at hu
  split at hu
  · cases hu
  · simpa using hu

theorem unregister (p : Process) (n : Int) : Undisturbed p (p.unregister n).2 := by
  unfold Process.unregister
  split
  · exact of_faults rfl (List.Sublist.refl _) rfl
  · next s _ =>
    simp only [removeDump_eq]
    refine (reinstate p s (p.userSignal s).saved).trans ?_
    exact of_faults rfl (List.Sublist.refl _) rfl

theorem closed : Closed Undisturbed where
  trans := trans
  of_alike h := by
    refine ⟨h.blocked, fun hp => ?_, h.enabled, h.target, fun s hs => ?_⟩
    · exact hp.of_sublist (by simp [h.blocked]) (by simp [h.pending])
    · rwa [h.saved] at hs
  unregister := unregister
  uninstall p s _ := uninstallFault p s
  reinstate p s := reinstate p s _
  reinstall p s _ := trySetAction p s _

end Undisturbed

section Raise

variable {raise : Raise} (hraise : ∀ s, Run.Within Undisturbed (raise s))
  (caller : Option ThreadId)

include hraise

theorem handleFault_undisturbed (s : Signal) (sent : Bool) :
    Run.Within Undisturbed (handleFault raise caller s sent) :=
  Undisturbed.closed.steady.handleFault (.of_all hraise s) caller
    (fun p => Undisturbed.trySetAction p s surrenderedAction) sent

/-- While the handler runs its signal may become pending. It is delivered afterwards, so that the
signals are settled again. -/
theorem invoke_undisturbed {s : Signal} (sent : Bool) (flags : ActionFlags) (k : Handler)
    (hfree : s ∉ p.blocked)
    (h : invoke raise caller s sent flags k p = .returned () q) : Undisturbed p q := by
  obtain ⟨p₂, hhandle, hpending⟩ := invoke_returned h
  set p₁ : Process :=
    { p with blocked := if flags.noDefer then p.blocked else s :: p.blocked } with hp₁
  have h₁₂ : Undisturbed p₁ p₂ :=
    Undisturbed.closed.steady.handleAny (.of_all hraise s) caller
      (fun p => Undisturbed.trySetAction p s surrenderedAction) sent k _ _ _ hhandle
  have hmore : ∀ u ∈ p.blocked, u ∈ p₁.blocked := by
    intro u hu
    rw [hp₁]
    dsimp only
    split
    · exact hu
    · exact List.mem_cons_of_mem s hu
  have hless : ∀ u ∈ p₂.blocked, u = s ∨ u ∈ p.blocked := by
    intro u hu
    rw [h₁₂.blocked, hp₁] at hu
    dsimp only at hu
    split at hu
    · exact .inr hu
    · exact List.mem_cons.mp hu
  have hsettled₂ : Settled p → Settled p₂ := by
    intro hp
    exact h₁₂.settled (hp.of_sublist hmore (List.Sublist.refl _))
  obtain ⟨rfl, hwaits⟩ | ⟨-, hagain⟩ := deliverPending_returned hpending
  · refine ⟨rfl, fun hp => ⟨?_, (hsettled₂ hp).once⟩, h₁₂.enabled, h₁₂.target, h₁₂.marks⟩
    intro u hu hmem
    obtain rfl | hin := hless u ((hsettled₂ hp).blocked u hu hmem)
    · exact hwaits hmem
    · exact hin
  · have h₃ : Undisturbed p
        { p₂ with blocked := p.blocked, pending := p₂.pending.erase s } := by
      refine ⟨rfl, fun hp => ⟨?_, ?_⟩, h₁₂.enabled, h₁₂.target, h₁₂.marks⟩
      · intro u hu hmem
        have hold : u ∈ p₂.pending := List.mem_of_mem_erase hmem
        obtain rfl | hin := hless u ((hsettled₂ hp).blocked u hu hold)
        · -- It was pending once, and this arrival has been taken.
          have hcount : 0 < (p₂.pending.erase u).count u := List.count_pos_iff.mpr hmem
          rw [List.count_erase_self] at hcount
          have := (hsettled₂ hp).once u hu
          omega
        · exact hin
      · intro u hu
        exact Nat.le_trans (List.erase_sublist.count_le u) ((hsettled₂ hp).once u hu)
    exact h₃.trans (hraise s _ _ _ hagain)

end Raise

/-- A signal that is sent, and whatever it sets off, leaves the blocked signals and the setup of
fault reports as they were. The induction is on the handlers that may run inside one another. -/
theorem raise_undisturbed (caller : Option ThreadId) (budget : Nat) (s : Signal) :
    Run.Within Undisturbed (raise caller budget s) := by
  induction budget generalizing s with
  | zero =>
    intro p v q h
    cases h
  | succ budget ih =>
    intro p v q h
    obtain rfl | ⟨hblocked, rfl⟩ | ⟨hfree, k, flags, -, hinvoke⟩ := raise_returned h
    · exact Undisturbed.refl q
    · refine ⟨?_, fun hp => hp.keepPending hblocked, ?_, ?_, fun u hu => ?_⟩
      all_goals unfold Process.keepPending at *
      · split <;> rfl
      · split <;> rfl
      · split <;> rfl
      · split at hu <;> exact hu
    · exact invoke_undisturbed ih caller true flags k hfree hinvoke

end Process

end CrashTrace
