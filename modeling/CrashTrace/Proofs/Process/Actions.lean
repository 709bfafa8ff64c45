import CrashTrace.Process.Control

/-!
# Laws of signal actions

What setting an action, putting one back and marking one as installed change, and what they leave
alone.

## Main definitions

- `Process.saved` — the saved action of any signal, fatal or ordinary
- `Action.Foreign` — an action that is none of the two handlers installed here

## Design notes

Both tables of saved actions are read through `Process.saved`, since a signal is either fatal or
ordinary and is set up in one of them only. Putting back and unmarking is one change for both:
`restore_eq` tells it through `reinstate`.
-/

namespace CrashTrace

/-- None of the handlers installed here. -/
def Action.Foreign (a : Action) : Prop :=
  a.disposition ≠ .handled .report ∧ a.disposition ≠ .handled .dump

instance (a : Action) : Decidable a.Foreign :=
  inferInstanceAs (Decidable (_ ∧ _))

namespace Signal

theorem changeable_of_fault : ∀ s : Signal, s.faultName?.isSome → s.actionChangeable := by decide

theorem not_reserved_of_fault : ∀ s : Signal, s.faultName?.isSome → s.reserved = false := by
  decide

theorem not_ignored_of_fault :
    ∀ s : Signal, s.faultName?.isSome → s.ignoredByDefault = false := by
  decide

theorem not_queues_of_fault : ∀ s : Signal, s.faultName?.isSome → s.queues = false := by decide

theorem readable_of_changeable : ∀ s : Signal, s.actionChangeable → s.actionReadable := by decide

theorem not_reserved_of_changeable : ∀ s : Signal, s.actionChangeable → s.reserved = false := by
  decide

theorem ne_zero_of_changeable : ∀ s : Signal, s.actionChangeable → s.val ≠ 0 := by decide

theorem ofInt?_number {s : Signal} (hpos : s.val ≠ 0) : ofInt? s.number = some s := by
  have hlt := s.isLt
  unfold ofInt? number
  rw [dif_pos (by omega)]
  simp

theorem registrable_eq_ok {n : Int} {s : Signal} :
    registrable n = .ok s ↔ ofInt? n = some s ∧ s.faultName?.isSome = false := by
  unfold registrable
  cases h : ofInt? n with
  | none => simp
  | some u =>
    constructor
    · intro hu
      dsimp only at hu
      split at hu
      · cases hu
      · next hfatal =>
        obtain rfl := Except.ok.inj hu
        exact ⟨rfl, Bool.eq_false_iff.mpr hfatal⟩
    · rintro ⟨⟨⟩, hs⟩
      dsimp only
      rw [if_neg (by rw [hs]; decide)]

theorem number_of_registrable {n : Int} {s : Signal} (h : registrable n = .ok s) :
    (s.number : Int) = n := by
  obtain ⟨hn, -⟩ := registrable_eq_ok.mp h
  unfold ofInt? at hn
  split at hn
  · next hrange =>
    obtain rfl := Option.some.inj hn
    exact Int.toNat_of_nonneg (by omega)
  · cases hn

end Signal

theorem SignalTable.ext_get {α : Type} {t u : SignalTable α} (h : ∀ s, t.get s = u.get s) :
    t = u := by
  obtain ⟨a⟩ := t
  obtain ⟨b⟩ := u
  have hab : a = b := Vector.ext fun i hi => h ⟨i, hi⟩
  rw [hab]

theorem SignalTable.put_put {α : Type} (t : SignalTable α) (s : Signal) (first second : α) :
    (t.put s first).put s second = t.put s second := by
  refine SignalTable.ext_get fun u => ?_
  simp only [SignalTable.get_put]
  split
  · rfl
  · rfl

theorem SignalTable.put_get {α : Type} (t : SignalTable α) (s : Signal) :
    t.put s (t.get s) = t := by
  refine SignalTable.ext_get fun u => ?_
  rw [SignalTable.get_put]
  split
  · next h => rw [h]
  · rfl

theorem SignalTable.put_comm {α : Type} (t : SignalTable α) {s u : Signal} (h : s ≠ u) (a b : α) :
    (t.put s a).put u b = (t.put u b).put s a := by
  refine SignalTable.ext_get fun v => ?_
  simp only [SignalTable.get_put]
  by_cases hs : s = v
  · rw [if_pos hs, if_pos hs, if_neg fun hu => h (hs.trans hu.symm)]
  · rw [if_neg hs, if_neg hs]

namespace Process

def saved (p : Process) (s : Signal) : SavedAction :=
  if s.faultName?.isSome then p.faults.saved.get s else (p.userSignal s).saved

theorem saved_of_fault {p : Process} {s : Signal} (h : s.faultName?.isSome) :
    p.saved s = p.faults.saved.get s := if_pos h

theorem saved_of_ordinary {p : Process} {s : Signal} (h : s.faultName?.isSome = false) :
    p.saved s = (p.userSignal s).saved := by
  unfold saved
  rw [if_neg (Bool.eq_false_iff.mp h)]

variable (p : Process) (s u : Signal) (a : Action) (kept : SavedAction)

theorem mem_faultSignals : ∀ s : Signal, s ∈ faultSignals ↔ s.faultName?.isSome := by decide

theorem nodup_faultSignals : faultSignals.Nodup := by decide

-- ════════════════════════════════════════════════════════════════════════
-- Setting an action
-- ════════════════════════════════════════════════════════════════════════

theorem trySetAction_of_changeable {s : Signal} (h : s.actionChangeable) :
    p.trySetAction s a = p.setAction s a := by
  simp [trySetAction, setAction?, h]

theorem trySetAction_of_not_changeable {s : Signal} (h : ¬ s.actionChangeable) :
    p.trySetAction s a = p := by
  simp [trySetAction, setAction?, h]

theorem trySetAction_of_some {p q : Process} {s : Signal} {a : Action}
    (h : p.setAction? s a = some q) : p.trySetAction s a = q := by
  unfold trySetAction
  rw [h]
  rfl

/-- Setting an action changes the table of actions and throws pending arrivals away. -/
theorem exists_trySetAction :
    ∃ actions pending, p.trySetAction s a = { p with actions := actions, pending := pending } ∧
      pending.Sublist p.pending := by
  by_cases h : s.actionChangeable
  · refine ⟨_, _, trySetAction_of_changeable p a h, ?_⟩
    split
    · exact List.filter_sublist
    · exact List.Sublist.refl _
  · exact ⟨_, _, trySetAction_of_not_changeable p a h, List.Sublist.refl _⟩

theorem trySetAction_pending : (p.trySetAction s a).pending.Sublist p.pending := by
  obtain ⟨actions, pending, h, hpending⟩ := p.exists_trySetAction s a
  rw [h]
  exact hpending

@[simp] theorem trySetAction_blocked : (p.trySetAction s a).blocked = p.blocked := by
  obtain ⟨actions, pending, h, -⟩ := p.exists_trySetAction s a
  rw [h]

@[simp] theorem trySetAction_faults : (p.trySetAction s a).faults = p.faults := by
  obtain ⟨actions, pending, h, -⟩ := p.exists_trySetAction s a
  rw [h]

@[simp] theorem trySetAction_userSignals :
    (p.trySetAction s a).userSignals = p.userSignals := by
  obtain ⟨actions, pending, h, -⟩ := p.exists_trySetAction s a
  rw [h]

@[simp] theorem trySetAction_calls : (p.trySetAction s a).calls = p.calls := by
  obtain ⟨actions, pending, h, -⟩ := p.exists_trySetAction s a
  rw [h]

@[simp] theorem trySetAction_descriptors :
    (p.trySetAction s a).descriptors = p.descriptors := by
  obtain ⟨actions, pending, h, -⟩ := p.exists_trySetAction s a
  rw [h]

theorem trySetAction_get :
    (p.trySetAction s a).actions.get u =
      if s = u ∧ s.actionChangeable then a else p.actions.get u := by
  by_cases h : s.actionChangeable
  · rw [trySetAction_of_changeable p a h]
    simp [setAction, SignalTable.get_put, h]
  · rw [trySetAction_of_not_changeable p a h, if_neg fun hs => h hs.2]

-- ════════════════════════════════════════════════════════════════════════
-- Putting an action back
-- ════════════════════════════════════════════════════════════════════════

theorem restore_eq :
    p.restore kept s =
      (kept.installed, { kept with installed := false }, p.reinstate kept s) := by
  obtain ⟨installed, previous⟩ := kept
  cases installed with
  | false => rfl
  | true => rfl

theorem exists_reinstate :
    ∃ actions pending, p.reinstate kept s = { p with actions := actions, pending := pending } ∧
      pending.Sublist p.pending := by
  unfold reinstate
  split
  · exact p.exists_trySetAction s kept.previous
  · exact ⟨_, _, rfl, List.Sublist.refl _⟩

theorem reinstate_pending : (p.reinstate kept s).pending.Sublist p.pending := by
  obtain ⟨actions, pending, h, hpending⟩ := p.exists_reinstate s kept
  rw [h]
  exact hpending

@[simp] theorem reinstate_blocked : (p.reinstate kept s).blocked = p.blocked := by
  obtain ⟨actions, pending, h, -⟩ := p.exists_reinstate s kept
  rw [h]

@[simp] theorem reinstate_faults : (p.reinstate kept s).faults = p.faults := by
  obtain ⟨actions, pending, h, -⟩ := p.exists_reinstate s kept
  rw [h]

@[simp] theorem reinstate_userSignals : (p.reinstate kept s).userSignals = p.userSignals := by
  obtain ⟨actions, pending, h, -⟩ := p.exists_reinstate s kept
  rw [h]

theorem reinstate_get :
    (p.reinstate kept s).actions.get u =
      if s = u ∧ s.actionChangeable ∧ kept.installed then kept.previous
      else p.actions.get u := by
  unfold reinstate
  split
  · next h => simp [trySetAction_get, h]
  · next h => rw [if_neg fun hs => h hs.2.2]

-- ════════════════════════════════════════════════════════════════════════
-- Saved actions
-- ════════════════════════════════════════════════════════════════════════

theorem uninstallFault_eq :
    p.uninstallFault s =
      (p.reinstate (p.faults.saved.get s) s).changeFaults fun f =>
        { f with saved := f.saved.put s { p.faults.saved.get s with installed := false } } := by
  unfold uninstallFault
  rw [restore_eq]

theorem removeDump_eq :
    p.removeDump s =
      ((p.userSignal s).saved.installed,
        (p.reinstate (p.userSignal s).saved s).changeUserSignal s fun u =>
          { u with
            target := u.target.clear
            saved := { (p.userSignal s).saved with installed := false } }) := by
  unfold removeDump
  rw [restore_eq]

theorem uninstallFault_pending : (p.uninstallFault s).pending.Sublist p.pending := by
  rw [uninstallFault_eq]
  exact p.reinstate_pending s (p.faults.saved.get s)

/-- Unregistering changes actions and what is set up for ordinary signals. -/
theorem exists_unregister (n : Int) :
    ∃ actions pending userSignals log, (p.unregister n).2 =
        { p with actions := actions, pending := pending, userSignals := userSignals, log := log } ∧
      pending.Sublist p.pending := by
  unfold unregister
  split
  · exact ⟨_, _, _, _, rfl, List.Sublist.refl _⟩
  · next s _ =>
    simp only [removeDump_eq]
    obtain ⟨actions, pending, h, hpending⟩ := p.exists_reinstate s (p.userSignal s).saved
    rw [h]
    exact ⟨_, _, _, _, rfl, hpending⟩

theorem unregister_pending (n : Int) : (p.unregister n).2.pending.Sublist p.pending := by
  obtain ⟨actions, pending, userSignals, log, h, hpending⟩ := p.exists_unregister n
  rw [h]
  exact hpending

theorem userSignal_changeUserSignal (change : UserSignal → UserSignal) :
    (p.changeUserSignal s change).userSignal u =
      if s = u then change (p.userSignal u) else p.userSignal u := by
  unfold userSignal changeUserSignal
  rw [SignalTable.get_put]
  split
  · next h => rw [h]; rfl
  · rfl

theorem changeUserSignal_changeUserSignal (change next : UserSignal → UserSignal) :
    (p.changeUserSignal s change).changeUserSignal s next =
      p.changeUserSignal s fun u => next (change u) := by
  unfold changeUserSignal userSignal
  rw [SignalTable.get_put, if_pos rfl, SignalTable.put_put]

-- ════════════════════════════════════════════════════════════════════════
-- Blocked signals do not matter
-- ════════════════════════════════════════════════════════════════════════

section Blocked

variable (blocked : List Signal)

theorem trySetAction_withBlocked :
    { p with blocked := blocked }.trySetAction s a =
      { p.trySetAction s a with blocked := blocked } := by
  unfold trySetAction setAction?
  split
  · rfl
  · rfl

theorem reinstate_withBlocked :
    { p with blocked := blocked }.reinstate kept s =
      { p.reinstate kept s with blocked := blocked } := by
  unfold reinstate
  split
  · exact trySetAction_withBlocked p s kept.previous blocked
  · rfl

theorem unregister_withBlocked (n : Int) :
    ({ p with blocked := blocked }.unregister n).2 =
      { (p.unregister n).2 with blocked := blocked } := by
  unfold unregister
  cases Signal.registrable n with
  | error failure => rfl
  | ok s =>
    simp only [removeDump_eq]
    show (changeUserSignal (reinstate { p with blocked := blocked } (p.userSignal s).saved s)
      s _).note _ = _
    rw [reinstate_withBlocked]
    rfl

end Blocked

end Process

end CrashTrace
