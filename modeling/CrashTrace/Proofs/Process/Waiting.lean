import CrashTrace.Proofs.Process.Settled

/-!
# Arrivals that wait

Several arrivals of a queueing signal may wait at once. While its handler runs and blocks it, the
handler raises it at most twice, and twice only after setting the default action, of which the
process then dies. So the one arrival that can be left when the handler returns is delivered right
away, and a delivery that returns leaves no arrival waiting.

## Main definitions

- `Process.Fewer` — no more arrivals of a signal wait than before
- `Process.Clears` — a signal that was free and not waiting is so again

## Main results

- `Process.raise_clears`

## Design notes

No handler raises a queueing signal other than its own. So what handlers of other signals do is
counted first (`raise_fewer`), and the induction that follows has to look at one signal only.
-/

namespace CrashTrace

namespace Signal

theorem ordinary_of_queues : ∀ s : Signal, s.queues → s.faultName? = none := by decide

theorem deadly_of_queues : ∀ s : Signal, s.queues → s.ignoredByDefault = false := by decide

theorem changeable_of_queues :
    ∀ s : Signal, s.queues → s.reserved = false → s.actionChangeable := by decide

theorem pipe_ne_of_queues : ∀ s : Signal, s.queues → pipe ≠ s := by decide

theorem abort_ne_of_queues : ∀ s : Signal, s.queues → abort ≠ s := by decide

theorem user1_ne_of_queues : ∀ s : Signal, s.queues → user1 ≠ s := by decide

end Signal

namespace Process

variable {p q r : Process} {s : Signal}

/-- No more arrivals of a signal wait than before. -/
def Fewer (s : Signal) (p q : Process) : Prop := q.pending.count s ≤ p.pending.count s

/-- A signal that is neither blocked nor waiting before is neither of the two afterwards. -/
def Clears (s : Signal) (p q : Process) : Prop :=
  s ∉ p.blocked → s ∉ p.pending → s ∉ q.blocked ∧ s ∉ q.pending

-- ════════════════════════════════════════════════════════════════════════
-- Handlers of other signals
-- ════════════════════════════════════════════════════════════════════════

namespace Fewer

theorem of_sublist (h : q.pending.Sublist p.pending) : Fewer s p q := h.count_le s

theorem closed (s : Signal) : Closed (Fewer s) where
  trans hpq hqr := Nat.le_trans hqr hpq
  of_alike h := of_sublist (h.pending ▸ List.Sublist.refl _)
  unregister p n := of_sublist (p.unregister_pending n)
  uninstall p u _ := of_sublist (p.uninstallFault_pending u)
  reinstate p u := of_sublist (p.reinstate_pending u _)
  reinstall p u _ := of_sublist (p.trySetAction_pending u _)

theorem keepPending (p : Process) {u : Signal} (hu : u ≠ s) : Fewer s p (p.keepPending u) := by
  unfold Fewer Process.keepPending
  split
  · exact Nat.le_refl _
  · rw [List.count_append, List.count_singleton, if_neg (by simpa using hu)]
    exact Nat.le_refl _

end Fewer

/-- No handler of another signal raises a queueing one. -/
theorem raise_fewer (hs : s.queues) (caller : Option ThreadId) (budget : Nat) {u : Signal}
    (hu : u ≠ s) : Run.Within (Fewer s) (raise caller budget u) := by
  induction budget generalizing u with
  | zero =>
    intro p v q h
    cases h
  | succ budget ih =>
    intro p v q h
    obtain rfl | ⟨-, rfl⟩ | ⟨-, k, flags, -, hinvoke⟩ := raise_returned h
    · exact Nat.le_refl _
    · exact .keepPending p hu
    · have hraise : Handled (Fewer s) (raise caller budget) u :=
        ⟨ih hu, ih (Signal.pipe_ne_of_queues s hs), ih (Signal.abort_ne_of_queues s hs),
          ih (Signal.user1_ne_of_queues s hs)⟩
      exact (Fewer.closed s).steady.invoke hraise caller
        (fun p => .of_sublist (p.trySetAction_pending u surrenderedAction))
        (fun _ _ => Nat.le_refl _) (fun _ => .of_sublist List.erase_sublist) true flags k _ _ _
        hinvoke

-- ════════════════════════════════════════════════════════════════════════
-- The handler of the signal itself
-- ════════════════════════════════════════════════════════════════════════

namespace Clears

theorem of_fewer (hblocked : q.blocked = p.blocked) (h : Fewer s p q) : Clears s p q := by
  intro hfree hpending
  rw [hblocked]
  refine ⟨hfree, fun hmem => ?_⟩
  have hsome : 0 < q.pending.count s := List.count_pos_iff.mpr hmem
  have hnone : p.pending.count s = 0 := List.count_eq_zero_of_not_mem hpending
  unfold Fewer at h
  omega

theorem of_sublist (hblocked : q.blocked = p.blocked) (h : q.pending.Sublist p.pending) :
    Clears s p q :=
  of_fewer hblocked (.of_sublist h)

theorem closed (s : Signal) : Closed (Clears s) where
  trans hpq hqr hfree hpending := by
    obtain ⟨hfree, hpending⟩ := hpq hfree hpending
    exact hqr hfree hpending
  of_alike h := of_sublist h.blocked (h.pending ▸ List.Sublist.refl _)
  unregister p n := of_sublist (Undisturbed.unregister p n).blocked (p.unregister_pending n)
  uninstall p u _ := of_sublist (Undisturbed.uninstallFault p u).blocked (p.uninstallFault_pending u)
  reinstate p u := of_sublist (p.reinstate_blocked u _) (p.reinstate_pending u _)
  reinstall p u _ := of_sublist (p.trySetAction_blocked u _) (p.trySetAction_pending u _)

theorem trySetAction (p : Process) (u : Signal) (a : Action) :
    Clears s p (p.trySetAction u a) :=
  of_sublist (p.trySetAction_blocked u a) (p.trySetAction_pending u a)

/-- A signal other than a queueing one, with all that it sets off. -/
theorem raise_other (hs : s.queues) (caller : Option ThreadId) (budget : Nat) {u : Signal}
    (hu : u ≠ s) : Run.Within (Clears s) (raise caller budget u) := by
  intro p v q h
  exact of_fewer (raise_undisturbed caller budget u p v q h).blocked
    (raise_fewer hs caller budget hu p v q h)

theorem handled (hs : s.queues) {caller : Option ThreadId} {budget : Nat}
    (hown : Run.Within (Clears s) (raise caller budget s)) :
    Handled (Clears s) (raise caller budget) s :=
  ⟨hown, raise_other hs caller budget (Signal.pipe_ne_of_queues s hs),
    raise_other hs caller budget (Signal.abort_ne_of_queues s hs),
    raise_other hs caller budget (Signal.user1_ne_of_queues s hs)⟩

end Clears

section Blocked

variable {caller : Option ThreadId} {budget : Nat} {v : Unit} (hs : s.queues)
  (hreserved : s.reserved = false) (hblocked : s ∈ p.blocked)

include hs in
theorem pending_keepPending (p : Process) : (p.keepPending s).pending = p.pending ++ [s] := by
  unfold keepPending
  rw [if_neg (by simp [hs])]

include hreserved hblocked in
theorem raise_waits (h : raise caller budget s p = .returned v q) : q = p.keepPending s := by
  cases budget with
  | zero => cases h
  | succ budget =>
    rw [raise_blocked hreserved hblocked] at h
    exact (Outcome.returned.inj h).2.symm

include hs hreserved hblocked

/-- The dumping handler raises its signal once if it is asked to. -/
theorem handleDump_waits (h : handleDump (raise caller budget) caller s p = .returned v q) :
    q.pending.count s ≤ p.pending.count s + 1 := by
  have hpipe := Signal.pipe_ne_of_queues s hs
  unfold handleDump at h
  obtain ⟨_, p₁, hdump, h⟩ := Run.bind_returned.mp h
  have h₁ : p₁.pending.count s ≤ p.pending.count s :=
    (Fewer.closed s).steady.dump caller s (raise_fewer hs caller budget hpipe) _ _ _ hdump
  have hblocked₁ : s ∈ p₁.blocked := by
    rw [(Undisturbed.closed.steady.dump caller s (raise_undisturbed _ _ _) _ _ _ hdump).blocked]
    exact hblocked
  rw [Run.state_bind] at h
  split at h
  · rw [Run.change_bind] at h
    obtain ⟨_, p₂, hraise, h⟩ := Run.bind_returned.mp h
    have hreinstated := (p₁.reinstate_pending s (p₁.userSignal s).saved).count_le s
    have hwaits := raise_waits hreserved (by simpa using hblocked₁) hraise
    have hlast : q.pending.count s ≤ p₂.pending.count s := by
      rw [← Run.change_returned.mp h]
      split
      · exact (p₂.trySetAction_pending s _).count_le s
      · exact Nat.le_refl _
    rw [hwaits, pending_keepPending hs, List.count_append, List.count_singleton_self] at hlast
    omega
  · rw [← (Run.pure_returned.mp h).2]
    omega

/-- The fault handler leaves the default action behind, and an arrival that waits. -/
theorem handleFault_waits
    (h : handleFault (raise caller budget) caller s true p = .returned v q) :
    s ∈ q.pending ∧ (q.actions.get s).disposition = .byDefault := by
  obtain ⟨p₁, p₂, hreport, hpassed, ⟨hsent, -⟩ | ⟨-, hagain⟩⟩ := handleFault_returned h
  · cases hsent
  · have hundisturbed := raise_undisturbed caller budget
    rw [Signal.ordinary_of_queues s hs, if_neg (by decide)] at hpassed
    have hblocked₂ : s ∈ p₂.blocked := by
      rw [(hundisturbed s _ _ _ hpassed).blocked, (Undisturbed.closed.tolerant.reportNamed
        (hundisturbed _) caller s _ _ _ hreport).blocked]
      exact hblocked
    rw [raise_waits hreserved (by simpa using hblocked₂) hagain]
    constructor
    · rw [pending_keepPending hs]
      exact List.mem_append_right _ (List.mem_singleton_self s)
    · have hactions : ∀ r : Process, (r.keepPending s).actions = r.actions := by
        intro r
        unfold keepPending
        split <;> rfl
      rw [hactions, trySetAction_get,
        if_pos ⟨rfl, Signal.changeable_of_queues s hs hreserved⟩]
      rfl

end Blocked

/-- What waits when a handler returns that its signal set off: at most one arrival, or else the
process dies of the next. -/
theorem handle_waits (hs : s.queues) (hreserved : s.reserved = false)
    {caller : Option ThreadId} {budget : Nat}
    (hown : Run.Within (Clears s) (raise caller budget s)) (hfree : s ∉ p.blocked)
    (hpending : s ∉ p.pending) {flags : ActionFlags} {k : Handler}
    (h : handle (raise caller budget) caller s true k
      { p with blocked := if flags.noDefer then p.blocked else s :: p.blocked } =
        .returned () r) :
    r.pending.count s ≤ 1 ∨ s ∈ r.pending ∧ (r.actions.get s).disposition = .byDefault := by
  have hnone : p.pending.count s = 0 := List.count_eq_zero_of_not_mem hpending
  by_cases hdefer : flags.noDefer
  · rw [if_pos hdefer] at h
    obtain ⟨-, hclear⟩ := (Clears.closed s).steady.handleAny (Clears.handled hs hown) caller
      (fun p => Clears.trySetAction p s surrenderedAction) true k _ _ _ h hfree hpending
    have : r.pending.count s = 0 := List.count_eq_zero_of_not_mem hclear
    exact .inl (by omega)
  · rw [if_neg hdefer] at h
    set p₁ : Process := { p with blocked := s :: p.blocked }
    have hblocked : s ∈ p₁.blocked := List.mem_cons_self
    have hnone : p₁.pending.count s = 0 := hnone
    cases k with
    | own k =>
      have hfew : r.pending.count s ≤ p₁.pending.count s := (Fewer.closed s).steady.handleOwn
        (raise_fewer hs caller budget (Signal.abort_ne_of_queues s hs))
        (raise_fewer hs caller budget (Signal.user1_ne_of_queues s hs)) k _ _ _ h
      exact .inl (by omega)
    | dump =>
      have hfew : r.pending.count s ≤ p₁.pending.count s + 1 :=
        handleDump_waits hs hreserved hblocked h
      exact .inl (by omega)
    | report => exact .inr (handleFault_waits hs hreserved hblocked h)

/-- A queueing signal that is sent is not left waiting, and neither is any other one that the
thread was free to take. The induction is on the handlers that may run inside one another. -/
theorem raise_clears (hs : s.queues) (caller : Option ThreadId) (budget : Nat) (u : Signal) :
    Run.Within (Clears s) (raise caller budget u) := by
  by_cases hu : u = s
  swap
  · exact Clears.raise_other hs caller budget hu
  subst hu
  induction budget with
  | zero =>
    intro p v q h
    cases h
  | succ budget ih =>
    intro p v q h hfree hpending
    cases hreserved : u.reserved with
    | true =>
      rw [raise_reserved hreserved] at h
      obtain ⟨-, rfl⟩ := Outcome.returned.inj h
      exact ⟨hfree, hpending⟩
    | false =>
      obtain rfl | ⟨hblocked, -⟩ | ⟨-, k, flags, -, hinvoke⟩ := raise_returned h
      · exact ⟨hfree, hpending⟩
      · exact absurd hblocked hfree
      · obtain ⟨r, hhandle, hdeliver⟩ := invoke_returned hinvoke
        obtain ⟨rfl, hwaits⟩ | ⟨hmem, hagain⟩ := deliverPending_returned hdeliver
        · exact ⟨hfree, fun hmem => hfree (hwaits hmem)⟩
        · obtain hfew | ⟨-, hdefault⟩ := handle_waits hs hreserved ih hfree hpending hhandle
          · -- The one arrival has been taken out before it is delivered.
            refine ih _ _ _ hagain hfree (List.count_eq_zero.mp ?_)
            show (r.pending.erase u).count u = 0
            rw [List.count_erase_self]
            omega
          · cases budget with
            | zero => cases hagain
            | succ budget =>
              have hended := raise_default
                (p := { r with blocked := p.blocked, pending := r.pending.erase u }) hreserved
                (Signal.deadly_of_queues u hs) hfree hdefault caller budget
              exact absurd (hended.symm.trans hagain) nofun

end Process

end CrashTrace
