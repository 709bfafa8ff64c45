import CrashTrace.Proofs.Process.Settled

/-!
# Actions and saved actions

For each signal there is an action in force and an action that was saved. They belong together: a
handler installed here is in force only while the saved action is marked, and what is saved is
never such a handler. Deliveries put saved actions back, remove marks and install the dumping
handler again, in any order inside one another, and keep this.

## Main definitions

- `Entry` — the action in force and the saved action of one signal
- `Entry.Change` — what can happen to an entry whose action is not saved anew
- `Process.Coherent` — every entry is coherent, and marked in the table it belongs to
- `Process.Keeps` — what every delivery that returns keeps of the entries

## Main results

- `Process.raise_keeps` — a signal that is sent
- `Process.invoke_keeps` — a handler that is run for a fault of the hardware

## Design notes

A fault report on a signal that was sent ends the process, so the action that it leaves behind for
this end is never seen. The proof needs that the signal is not blocked then, which is
`Undisturbed.blocked`.
-/

namespace CrashTrace

/-- An action with the handler that is installed here for signals of this kind. -/
def Action.Fits (a : Action) (s : Signal) : Prop :=
  if s.faultName?.isSome then a.disposition = .handled .report ∧ a.flags.noDefer
  else a.disposition = .handled .dump

/-- What is in force for a signal, and what was saved. -/
structure Entry where
  action : Action
  saved : SavedAction

namespace Entry

/-- The action that was there before anything was installed here. -/
def original (e : Entry) : Action := if e.saved.installed then e.saved.previous else e.action

/-- The saved action is put back if it is marked, and the mark is removed. -/
def putBack (e : Entry) : Entry :=
  if e.saved.installed then ⟨e.saved.previous, ⟨false, e.saved.previous⟩⟩ else e

/-- The action in force and the saved one belong together. -/
structure Coherent (s : Signal) (e : Entry) : Prop where
  own : ¬ e.action.Foreign → e.saved.installed ∧ e.action.Fits s
  changeable : e.saved.installed → s.actionChangeable
  foreign : e.saved.installed → e.saved.previous.Foreign

/-- What can happen to an entry, apart from saving an action and marking it. -/
inductive Change (s : Signal) (e : Entry) : Entry → Prop
  | same : Change s e e
  | reinstated : e.saved.installed → Change s e ⟨e.saved.previous, e.saved⟩
  | restored : e.saved.installed → Change s e ⟨e.saved.previous, ⟨false, e.saved.previous⟩⟩
  | installed (a : Action) : e.saved.installed → a.Fits s → Change s e ⟨a, e.saved⟩
  /-- An action is saved for a signal whose action turns out not to be changeable. -/
  | noted : ¬ e.saved.installed → Change s e ⟨e.action, ⟨false, e.action⟩⟩

/-- The action in force is saved and marked, and a handler is installed here. -/
structure Captured (s : Signal) (e e' : Entry) : Prop where
  unmarked : e.saved.installed = false
  changeable : s.actionChangeable
  saved : e'.saved = ⟨true, e.action⟩
  fits : e'.action.Fits s

variable {s : Signal} {e e' : Entry}

theorem Coherent.foreign_of_unmarked (h : Coherent s e) (hmark : ¬ e.saved.installed) :
    e.action.Foreign := by
  by_contra hown
  exact hmark (h.own hown).1

theorem Coherent.change (h : Coherent s e) (hc : Change s e e') : Coherent s e' := by
  cases hc with
  | same => exact h
  | reinstated hmark =>
    exact ⟨fun hown => absurd (h.foreign hmark) hown, h.changeable, h.foreign⟩
  | restored hmark => exact ⟨fun hown => absurd (h.foreign hmark) hown, nofun, nofun⟩
  | installed a hmark hfits => exact ⟨fun _ => ⟨hmark, hfits⟩, h.changeable, h.foreign⟩
  | noted hmark => exact ⟨fun hown => absurd (h.own hown).1 hmark, nofun, nofun⟩

theorem Coherent.captured (h : Coherent s e) (hc : Captured s e e') : Coherent s e' := by
  constructor
  · intro _
    rw [hc.saved]
    exact ⟨rfl, hc.fits⟩
  · intro _
    exact hc.changeable
  · intro _
    rw [hc.saved]
    exact h.foreign_of_unmarked (by simp [hc.unmarked])

theorem Change.marks (hc : Change s e e') (hmark : e'.saved.installed) :
    e.saved.installed ∧ e'.saved.previous = e.saved.previous := by
  cases hc with
  | same => exact ⟨hmark, rfl⟩
  | reinstated h => exact ⟨h, rfl⟩
  | restored h => cases hmark
  | installed a h _ => exact ⟨h, rfl⟩
  | noted h => cases hmark

theorem Change.original (hc : Change s e e') : e'.original = e.original := by
  cases hc with
  | same => rfl
  | reinstated h => simp [Entry.original, h]
  | restored h => simp [Entry.original, h]
  | installed a h _ => simp [Entry.original, h]
  | noted h => simp [Entry.original, h]

theorem putBack_unmarked (e : Entry) : e.putBack.saved.installed = false := by
  unfold putBack
  split
  · rfl
  · next h => exact Bool.eq_false_iff.mpr h

theorem putBack_putBack (e : Entry) : e.putBack.putBack = e.putBack := by
  rw [putBack.eq_1 e.putBack, putBack_unmarked]
  rfl

theorem change_putBack (s : Signal) (e : Entry) : Change s e e.putBack := by
  unfold putBack
  split
  · next h => exact .restored h
  · exact .same

theorem Captured.original (hc : Captured s e e') : e'.original = e.original := by
  simp [Entry.original, hc.saved, hc.unmarked]

end Entry

namespace Process

variable {p q r : Process}

def entry (p : Process) (s : Signal) : Entry := ⟨p.actions.get s, p.saved s⟩

/-- Every entry is coherent, each signal is marked in its own table, and fatal signals are marked
only while fault reports are enabled. -/
structure Coherent (p : Process) : Prop where
  entry : ∀ s, (p.entry s).Coherent s
  fatal : ∀ s, (p.faults.saved.get s).installed → s.faultName?.isSome
  ordinary : ∀ s, (p.userSignal s).saved.installed → s.faultName?.isSome = false
  enabled : ∀ s, (p.faults.saved.get s).installed → p.faults.enabled

/-- What every delivery that returns keeps of a coherent state: no signal is marked, no saved
action replaced, and every action can still be put back. -/
structure Keeps (p q : Process) : Prop where
  coherent : Coherent q
  marks : ∀ s, (q.saved s).installed →
    (p.saved s).installed ∧ (q.saved s).previous = (p.saved s).previous
  original : ∀ s, (q.entry s).original = (p.entry s).original

theorem userSignal_congr (h : q.userSignals = p.userSignals) (s : Signal) :
    q.userSignal s = p.userSignal s := by
  unfold userSignal
  rw [h]

theorem entry_congr (hactions : q.actions = p.actions)
    (hfaults : q.faults.saved = p.faults.saved) (husers : q.userSignals = p.userSignals)
    (s : Signal) : q.entry s = p.entry s := by
  simp only [entry, saved, userSignal, hactions, hfaults, husers]

namespace Keeps

theorem trans (hpq : Keeps p q) (hqr : Keeps q r) : Keeps p r := by
  refine ⟨hqr.coherent, fun s h => ?_, fun s => (hqr.original s).trans (hpq.original s)⟩
  obtain ⟨hq, hprevious⟩ := hqr.marks s h
  obtain ⟨hp, hprevious'⟩ := hpq.marks s hq
  exact ⟨hp, hprevious.trans hprevious'⟩

theorem of_change (hp : Coherent p)
    (hchange : ∀ s, Entry.Change s (p.entry s) (q.entry s))
    (hfatal : ∀ s, (q.faults.saved.get s).installed →
      (p.faults.saved.get s).installed ∧ q.faults.enabled = p.faults.enabled)
    (hordinary : ∀ s, (q.userSignal s).saved.installed → (p.userSignal s).saved.installed) :
    Keeps p q := by
  refine ⟨⟨fun s => (hp.entry s).change (hchange s), fun s h => hp.fatal s (hfatal s h).1,
    fun s h => hp.ordinary s (hordinary s h), fun s h => ?_⟩, fun s => (hchange s).marks,
    fun s => (hchange s).original⟩
  rw [(hfatal s h).2]
  exact hp.enabled s (hfatal s h).1

theorem of_alike (hp : Coherent p) (hactions : q.actions = p.actions)
    (hfaults : q.faults.saved = p.faults.saved) (henabled : q.faults.enabled = p.faults.enabled)
    (husers : q.userSignals = p.userSignals) : Keeps p q := by
  refine of_change hp (fun s => ?_) (fun s h => ?_) (fun s h => ?_)
  · rw [entry_congr hactions hfaults husers]
    exact .same
  · rw [hfaults] at h
    exact ⟨h, henabled⟩
  · rwa [userSignal_congr husers] at h

end Keeps

theorem saved_uninstallFault {s : Signal} (hs : s.faultName?.isSome) (u : Signal) :
    (p.uninstallFault s).saved u =
      if s = u then { p.saved s with installed := false } else p.saved u := by
  unfold saved userSignal
  rw [uninstallFault_eq, if_pos hs]
  simp only [changeFaults, reinstate_faults, reinstate_userSignals, SignalTable.get_put]
  by_cases hu : s = u
  · subst hu
    simp [hs]
  · simp [hu]

theorem saved_removeDump {s : Signal} (hs : s.faultName?.isSome = false) (u : Signal) :
    (p.removeDump s).2.saved u =
      if s = u then { p.saved s with installed := false } else p.saved u := by
  unfold saved
  rw [removeDump_eq]
  simp only [userSignal_changeUserSignal]
  by_cases hu : s = u
  · subst hu
    simp [hs]
  · simp [hu, changeUserSignal, userSignal]

/-- A saved action has been put back and its mark removed; nothing else happened to an entry. -/
theorem entry_of_restored (hp : Coherent p) {s : Signal}
    (hactions : q.actions = (p.reinstate (p.saved s) s).actions)
    (hsaved : ∀ u, q.saved u = if s = u then { p.saved s with installed := false } else p.saved u)
    (u : Signal) : q.entry u = if s = u then (p.entry u).putBack else p.entry u := by
  have haction := congrArg (fun t => t.get u) hactions
  simp only [reinstate_get] at haction
  unfold Process.entry
  rw [haction, hsaved u]
  by_cases hu : s = u
  · subst hu
    rw [if_pos rfl, if_pos rfl]
    unfold Entry.putBack
    cases hmark : (p.saved s).installed with
    | false =>
      have hkeep : ({ p.saved s with installed := false } : SavedAction) = p.saved s := by
        rw [← hmark]
      rw [if_neg (by simp), hkeep, if_neg (by simp)]
    | true =>
      have hchangeable := (hp.entry s).changeable hmark
      rw [if_pos ⟨rfl, hchangeable, rfl⟩, if_pos rfl]
  · rw [if_neg fun h => hu h.1, if_neg hu, if_neg hu]

theorem entry_uninstallFault (hp : Coherent p) {s : Signal} (hs : s.faultName?.isSome)
    (u : Signal) :
    (p.uninstallFault s).entry u = if s = u then (p.entry u).putBack else p.entry u := by
  refine entry_of_restored hp ?_ (saved_uninstallFault hs) u
  rw [uninstallFault_eq, saved_of_fault hs]
  rfl

theorem entry_removeDump (hp : Coherent p) {s : Signal} (hs : s.faultName?.isSome = false)
    (u : Signal) :
    (p.removeDump s).2.entry u = if s = u then (p.entry u).putBack else p.entry u := by
  refine entry_of_restored hp ?_ (saved_removeDump hs) u
  rw [removeDump_eq, saved_of_ordinary hs]
  rfl

namespace Keeps

theorem uninstallFault (hp : Coherent p) {s : Signal} (hs : s.faultName?.isSome) :
    Keeps p (p.uninstallFault s) := by
  refine of_change hp (fun u => ?_) ?_ ?_
  · rw [entry_uninstallFault hp hs]
    split
    · exact Entry.change_putBack u _
    · exact .same
  · intro u hu
    have hun := Undisturbed.uninstallFault p s
    exact ⟨hun.marks u hu, hun.enabled⟩
  · intro u hu
    rw [uninstallFault_eq] at hu
    simpa [userSignal, changeFaults] using hu

theorem removeDump (hp : Coherent p) {s : Signal} (hs : s.faultName?.isSome = false) :
    Keeps p (p.removeDump s).2 := by
  refine of_change hp (fun u => ?_) ?_ ?_
  · rw [entry_removeDump hp hs]
    split
    · exact Entry.change_putBack u _
    · exact .same
  · intro u hu
    rw [removeDump_eq] at hu ⊢
    simpa [changeUserSignal] using hu
  · intro u hu
    rw [removeDump_eq, userSignal_changeUserSignal] at hu
    split at hu
    · cases hu
    · simpa [userSignal] using hu

theorem unregister (hp : Coherent p) (n : Int) : Keeps p (p.unregister n).2 := by
  unfold Process.unregister
  split
  · exact of_alike hp rfl rfl rfl rfl
  · next s hs =>
    have hordinary := (Signal.registrable_eq_ok.mp hs).2
    have hremoved := removeDump hp hordinary
    exact hremoved.trans (of_alike hremoved.coherent rfl rfl rfl rfl)

theorem reinstate (hp : Coherent p) (s : Signal) :
    Keeps p (p.reinstate (p.userSignal s).saved s) := by
  have hsaved : ∀ u, (p.reinstate (p.userSignal s).saved s).saved u = p.saved u := by
    intro u
    simp [Process.saved, userSignal]
  refine of_change hp (fun u => ?_) (fun u h => ?_) (fun u h => ?_)
  · unfold Process.entry
    rw [hsaved, reinstate_get]
    split
    · next h =>
      obtain ⟨rfl, -, hmark⟩ := h
      have hown := saved_of_ordinary (p := p) (hp.ordinary s hmark)
      rw [← hown] at hmark ⊢
      exact .reinstated hmark
    · exact .same
  · simpa using h
  · simpa [userSignal] using h

theorem reinstall (hp : Coherent p) (s : Signal) (hmark : (p.userSignal s).saved.installed) :
    Keeps p (p.trySetAction s (p.dumpAction true)) := by
  have hordinary := hp.ordinary s hmark
  have hsaved : ∀ u, (p.trySetAction s (p.dumpAction true)).saved u = p.saved u := by
    intro u
    simp [Process.saved, userSignal]
  refine of_change hp (fun u => ?_) (fun u h => ?_) (fun u h => ?_)
  · unfold Process.entry
    rw [hsaved, trySetAction_get]
    split
    · next h =>
      obtain ⟨rfl, -⟩ := h
      rw [← saved_of_ordinary hordinary] at hmark
      refine .installed _ hmark ?_
      rw [Action.Fits, if_neg (by simp [hordinary])]
      rfl
    · exact .same
  · simpa using h
  · simpa [userSignal] using h

theorem closed : Closed fun p q => Coherent p → Keeps p q where
  trans hpq hqr hp := (hpq hp).trans (hqr (hpq hp).coherent)
  of_alike h hp := of_alike hp h.actions h.saved h.enabled h.userSignals
  unregister _ n hp := unregister hp n
  uninstall _ _ hs hp := uninstallFault hp hs
  reinstate _ s hp := reinstate hp s
  reinstall _ s hs hp := reinstall hp s hs

end Keeps

-- ════════════════════════════════════════════════════════════════════════
-- Deliveries
-- ════════════════════════════════════════════════════════════════════════

/-- A fault report on a signal that was sent does not return. -/
theorem handleFault_sent_not_returned {s : Signal} (hs : s.faultName?.isSome)
    (hfree : s ∉ p.blocked) (caller : Option ThreadId) (budget : Nat) (v : Unit) :
    handleFault (raise caller budget) caller s true p ≠ .returned v q := by
  intro h
  obtain ⟨p₁, p₂, hreport, hpassed, ⟨hsent, -⟩ | ⟨-, hagain⟩⟩ := handleFault_returned h
  · cases hsent
  · have hraise := raise_undisturbed caller budget
    have h₁ : p₁.blocked = p.blocked :=
      (Undisturbed.closed.tolerant.reportNamed (hraise _) caller s _ _ _ hreport).blocked
    have h₂ : p₂.blocked = (p₁.uninstallFault s).blocked := by
      rw [if_pos hs] at hpassed
      exact (hraise s _ _ _ hpassed).blocked
    have hfree' : s ∉ (p₂.trySetAction s surrenderedAction).blocked := by
      rw [trySetAction_blocked, h₂, (Undisturbed.uninstallFault p₁ s).blocked, h₁]
      exact hfree
    cases budget with
    | zero => cases hagain
    | succ budget =>
      rw [raise_default (Signal.not_reserved_of_fault s hs) (Signal.not_ignored_of_fault s hs) hfree' ?_
        caller budget] at hagain
      · cases hagain
      · rw [trySetAction_get, if_pos ⟨rfl, Signal.changeable_of_fault s hs⟩]
        rfl

section Keeps

variable {raise : Raise}
  (hraise : ∀ s, Run.Within (fun p q => Coherent p → Keeps p q) (raise s))
  (caller : Option ThreadId)

include hraise

theorem invoke_keeps {s : Signal} {sent : Bool} {flags : ActionFlags} {k : Handler}
    (hsent : k = .report → sent = false) :
    Run.Within (fun p q => Coherent p → Keeps p q) (invoke raise caller s sent flags k) := by
  intro p v q h hp
  obtain ⟨p₂, hhandle, hpending⟩ := invoke_returned h
  have h₁ : Keeps p { p with blocked := if flags.noDefer then p.blocked else s :: p.blocked } :=
    .of_alike hp rfl rfl rfl rfl
  have h₂ := h₁.trans
    (Keeps.closed.steady.handle (.of_all hraise s) caller hsent _ _ _ hhandle h₁.coherent)
  have h₃ : Keeps p { p₂ with blocked := p.blocked } :=
    h₂.trans (.of_alike h₂.coherent rfl rfl rfl rfl)
  obtain ⟨rfl, -⟩ | ⟨-, hagain⟩ := deliverPending_returned hpending
  · exact h₃
  · have h₄ := h₃.trans (r :=
      { p₂ with blocked := p.blocked, pending := p₂.pending.erase s })
      (.of_alike h₃.coherent rfl rfl rfl rfl)
    exact h₄.trans (hraise s _ _ _ hagain h₄.coherent)

end Keeps

/-- A signal that is sent, and whatever it sets off, keeps the entries if it returns. The
induction is on the handlers that may run inside one another. -/
theorem raise_keeps (caller : Option ThreadId) (budget : Nat) (s : Signal) :
    Run.Within (fun p q => Coherent p → Keeps p q) (raise caller budget s) := by
  induction budget generalizing s with
  | zero =>
    intro p v q h
    cases h
  | succ budget ih =>
    intro p v q h hp
    obtain rfl | ⟨-, rfl⟩ | ⟨hfree, k, flags, haction, hinvoke⟩ := raise_returned h
    · exact .of_alike hp rfl rfl rfl rfl
    · unfold keepPending
      split
      · exact .of_alike hp rfl rfl rfl rfl
      · exact .of_alike hp rfl rfl rfl rfl
    · by_cases hk : k = .report
      · -- The report has the signal unblocked, so it ends the process.
        subst hk
        obtain ⟨-, hfits⟩ := (hp.entry s).own (by simp [Process.entry, haction, Action.Foreign])
        obtain ⟨p₂, hhandle, -⟩ := invoke_returned hinvoke
        have hreport : s.faultName?.isSome ∧ flags.noDefer := by
          unfold Action.Fits Process.entry at hfits
          rw [haction] at hfits
          split at hfits
          · next hs => exact ⟨hs, hfits.2⟩
          · cases hfits
        rw [if_pos hreport.2] at hhandle
        exact absurd hhandle
          (handleFault_sent_not_returned (p := { p with blocked := p.blocked }) hreport.1 hfree
            caller budget ())
      · exact invoke_keeps ih caller (fun h => absurd h hk) p () q hinvoke hp

end Process

end CrashTrace
