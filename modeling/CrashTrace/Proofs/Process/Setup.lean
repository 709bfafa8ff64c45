import CrashTrace.Proofs.Process.Coherent

/-!
# Setting up and taking down

What enabling, disabling, registering and unregistering do to actions and saved actions. Only
enabling and registering save an action, and they save the one in force. Disabling and
unregistering put it back.

## Main definitions

- `Process.Installed` — the outcome of installing the reporting handler for some signals
- `Process.Sets` — what an operation may do to the entries, given the signals that it may mark
- `Process.SameBut` — an operation on one signal leaves the others
- `Process.EnableOutcome` — what enabling fault reports can come to

## Main results

- `Process.enable_sets`, `Process.register_sets`
- `Process.entry_disable`, `Process.entry_unregister`
-/

namespace CrashTrace

namespace Process

variable {p q : Process}

-- ════════════════════════════════════════════════════════════════════════
-- Fault reports
-- ════════════════════════════════════════════════════════════════════════

/-- The reporting handler has been installed for some signals. -/
structure Installed (settings : FaultSettings) (signals : List Signal) (p q : Process) :
    Prop where
  actions : ∀ u ∈ signals, q.actions.get u = reportAction settings
  saved : ∀ u ∈ signals, q.faults.saved.get u = ⟨true, p.actions.get u⟩
  others : ∀ u ∉ signals, q.actions.get u = p.actions.get u ∧
    q.faults.saved.get u = p.faults.saved.get u
  userSignals : q.userSignals = p.userSignals
  enabled : q.faults.enabled = p.faults.enabled
  target : q.faults.target = p.faults.target
  blocked : q.blocked = p.blocked
  pending : q.pending.Sublist p.pending

theorem installed_installFault (settings : FaultSettings) (p : Process) (s : Signal) :
    Installed settings [s] p (installFault settings p s) := by
  have hactions : ∀ u, (installFault settings p s).actions.get u =
      if s = u then reportAction settings else p.actions.get u :=
    fun u => SignalTable.get_put _ _ _ _
  have hsaved : ∀ u, (installFault settings p s).faults.saved.get u =
      if s = u then ⟨true, p.actions.get s⟩ else p.faults.saved.get u :=
    fun u => SignalTable.get_put _ _ _ _
  refine ⟨fun u hu => ?_, fun u hu => ?_, fun u hu => ⟨?_, ?_⟩, rfl, rfl, rfl, rfl, ?_⟩
  · obtain rfl := List.mem_singleton.mp hu
    rw [hactions, if_pos rfl]
  · obtain rfl := List.mem_singleton.mp hu
    rw [hsaved, if_pos rfl]
  · rw [hactions, if_neg fun h => hu (List.mem_singleton.mpr h.symm)]
  · rw [hsaved, if_neg fun h => hu (List.mem_singleton.mpr h.symm)]
  · unfold installFault setAction
    split
    · exact List.filter_sublist
    · exact List.Sublist.refl _

theorem Installed.cons {settings : FaultSettings} {s : Signal} {signals : List Signal}
    {r : Process} (hs : s ∉ signals) (hpq : Installed settings [s] p q)
    (hqr : Installed settings signals q r) : Installed settings (s :: signals) p r where
  actions u hu := by
    obtain rfl | hu := List.mem_cons.mp hu
    · rw [(hqr.others u hs).1]
      exact hpq.actions u (List.mem_singleton_self u)
    · exact hqr.actions u hu
  saved u hu := by
    obtain rfl | hu := List.mem_cons.mp hu
    · rw [(hqr.others u hs).2]
      exact hpq.saved u (List.mem_singleton_self u)
    · have hne : u ∉ [s] := fun h => hs (List.mem_singleton.mp h ▸ hu)
      rw [hqr.saved u hu, (hpq.others u hne).1]
  others u hu := by
    have hne : u ∉ [s] := fun h => hu (List.mem_cons.mpr (.inl (List.mem_singleton.mp h)))
    obtain ⟨haction, hsaved⟩ := hqr.others u fun h => hu (List.mem_cons_of_mem s h)
    obtain ⟨haction', hsaved'⟩ := hpq.others u hne
    exact ⟨haction.trans haction', hsaved.trans hsaved'⟩
  userSignals := hqr.userSignals.trans hpq.userSignals
  enabled := hqr.enabled.trans hpq.enabled
  target := hqr.target.trans hpq.target
  blocked := hqr.blocked.trans hpq.blocked
  pending := hqr.pending.trans hpq.pending

theorem installed_foldl (settings : FaultSettings) {signals : List Signal}
    (hnodup : signals.Nodup) (p : Process) :
    Installed settings signals p (signals.foldl (installFault settings) p) := by
  induction signals generalizing p with
  | nil => exact ⟨nofun, nofun, fun _ _ => ⟨rfl, rfl⟩, rfl, rfl, rfl, rfl, List.Sublist.refl _⟩
  | cons s signals ih =>
    obtain ⟨hs, hrest⟩ := List.nodup_cons.mp hnodup
    exact (installed_installFault settings p s).cons hs (ih hrest _)

theorem Installed.undisturbed {settings : FaultSettings} {signals : List Signal}
    (h : Installed settings signals p q) (hp : Settled p) : Settled q :=
  hp.of_sublist (by simp [h.blocked]) h.pending

/-- Every saved action of some fatal signals is put back. -/
theorem uninstall_foldl {signals : List Signal}
    (hfatal : ∀ s ∈ signals, s.faultName?.isSome) (hp : Coherent p) :
    Keeps p (signals.foldl uninstallFault p) ∧
      (∀ u ∈ signals, (signals.foldl uninstallFault p).entry u = (p.entry u).putBack) ∧
      ∀ u ∉ signals, (signals.foldl uninstallFault p).entry u = p.entry u := by
  induction signals generalizing p with
  | nil => exact ⟨.of_alike hp rfl rfl rfl rfl, nofun, fun _ _ => rfl⟩
  | cons s signals ih =>
    have hs := hfatal s List.mem_cons_self
    have hfirst := Keeps.uninstallFault hp hs
    obtain ⟨hrest, hthese, hothers⟩ :=
      ih (fun u hu => hfatal u (List.mem_cons_of_mem s hu)) hfirst.coherent
    refine ⟨hfirst.trans hrest, fun u hu => ?_, fun u hu => ?_⟩
    · rw [List.foldl_cons]
      by_cases hlater : u ∈ signals
      · rw [hthese u hlater, entry_uninstallFault hp hs]
        split
        · exact Entry.putBack_putBack _
        · rfl
      · obtain rfl := (List.mem_cons.mp hu).resolve_right hlater
        rw [hothers u hlater, entry_uninstallFault hp hs, if_pos rfl]
    · rw [List.mem_cons, not_or] at hu
      rw [List.foldl_cons, hothers u hu.2, entry_uninstallFault hp hs, if_neg (Ne.symm hu.1)]

theorem uninstallFaults_keeps (hp : Coherent p) : Keeps p p.uninstallFaults :=
  (uninstall_foldl (fun s hs => (mem_faultSignals s).mp hs) hp).1

theorem entry_uninstallFaults (hp : Coherent p) (s : Signal) :
    p.uninstallFaults.entry s =
      if s.faultName?.isSome then (p.entry s).putBack else p.entry s := by
  obtain ⟨-, hthese, hothers⟩ := uninstall_foldl (fun u hu => (mem_faultSignals u).mp hu) hp
  split
  · next hs => exact hthese s ((mem_faultSignals s).mpr hs)
  · next hs => exact hothers s fun hmem => hs ((mem_faultSignals s).mp hmem)

theorem uninstall_foldl_undisturbed (signals : List Signal) (p : Process) :
    Undisturbed p (signals.foldl uninstallFault p) := by
  induction signals generalizing p with
  | nil => exact Undisturbed.refl p
  | cons s signals ih => exact (Undisturbed.uninstallFault p s).trans (ih _)

/-- The turn of a signal removes its mark, and no later turn sets it again. -/
theorem uninstall_foldl_unmarked {signals : List Signal} {s : Signal} (hs : s ∈ signals) :
    ((signals.foldl uninstallFault p).faults.saved.get s).installed = false := by
  induction signals generalizing p with
  | nil => cases hs
  | cons u signals ih =>
    obtain rfl | hrest := List.mem_cons.mp hs
    · have hnow : ((p.uninstallFault s).faults.saved.get s).installed = false := by
        simp [uninstallFault_eq, changeFaults, SignalTable.get_put]
      by_contra hmark
      rw [Bool.not_eq_false] at hmark
      have := (uninstall_foldl_undisturbed signals _).marks s hmark
      exact absurd (this.symm.trans hnow) (by decide)
    · exact ih hrest

theorem uninstallFaults_unmarked
    (hfatal : ∀ s, (p.faults.saved.get s).installed → s.faultName?.isSome) (s : Signal) :
    (p.uninstallFaults.faults.saved.get s).installed = false := by
  unfold uninstallFaults
  by_contra hmark
  rw [Bool.not_eq_false] at hmark
  have hs := hfatal s ((uninstall_foldl_undisturbed faultSignals p).marks s hmark)
  rw [uninstall_foldl_unmarked ((mem_faultSignals s).mpr hs)] at hmark
  cases hmark

theorem disable_of_enabled (h : p.faults.enabled) :
    p.disable.actions = p.uninstallFaults.actions ∧
      p.disable.faults.saved = p.uninstallFaults.faults.saved ∧
      p.disable.userSignals = p.uninstallFaults.userSignals := by
  unfold disable
  rw [if_pos h]
  generalize p.uninstallFaults = q
  exact ⟨rfl, rfl, rfl⟩

theorem disable_settled (hp : Settled p) :
    Settled p.disable ∧ p.disable.blocked = p.blocked := by
  unfold disable
  split
  · have h := uninstall_foldl_undisturbed faultSignals p
    unfold uninstallFaults
    generalize faultSignals.foldl uninstallFault p = q at h
    exact ⟨(h.settled hp).of_sublist (fun _ hs => hs) (List.Sublist.refl _), h.blocked⟩
  · exact ⟨hp, rfl⟩

/-- Disabling puts the saved actions of the fatal signals back and leaves everything else. -/
theorem entry_disable (hp : Coherent p) (s : Signal) :
    p.disable.entry s = if s.faultName?.isSome then (p.entry s).putBack else p.entry s := by
  by_cases hon : p.faults.enabled
  · obtain ⟨hactions, hsaved, husers⟩ := disable_of_enabled hon
    rw [entry_congr hactions hsaved husers, entry_uninstallFaults hp]
  · rw [disable, if_neg hon]
    split
    · next hs =>
      have hunmarked : ¬ (p.entry s).saved.installed := by
        intro hmark
        have hmark : (p.saved s).installed := hmark
        rw [saved_of_fault hs] at hmark
        exact hon (hp.enabled s hmark)
      rw [Entry.putBack, if_neg hunmarked]
    · rfl

theorem disable_keeps (hp : Coherent p) : Keeps p p.disable := by
  by_cases hon : p.faults.enabled
  · obtain ⟨-, hsaved, husers⟩ := disable_of_enabled hon
    refine Keeps.of_change hp (fun s => ?_) (fun s h => ?_) (fun s h => ?_)
    · rw [entry_disable hp]
      split
      · exact Entry.change_putBack s _
      · exact .same
    · rw [hsaved, uninstallFaults_unmarked hp.fatal] at h
      cases h
    · rw [userSignal_congr husers] at h
      have hkeep := uninstallFaults_keeps hp
      have hordinary := hkeep.coherent.ordinary s h
      rw [← saved_of_ordinary hordinary] at h
      rw [← saved_of_ordinary (p := p) hordinary]
      exact (hkeep.marks s h).1
  · rw [disable, if_neg hon]
    exact .of_alike hp rfl rfl rfl rfl

-- ════════════════════════════════════════════════════════════════════════
-- Operations that save an action
-- ════════════════════════════════════════════════════════════════════════

/-- What an operation does to a coherent state if it may mark some signals: the action in force is
saved for each one that it marks. -/
structure Sets (call : Signal → Prop) (p q : Process) : Prop where
  coherent : Coherent q
  marks : ∀ s, (q.saved s).installed →
    (p.saved s).installed ∧ (q.saved s).previous = (p.saved s).previous ∨
      call s ∧ (p.saved s).installed = false ∧ (q.saved s).previous = p.actions.get s
  original : ∀ s, (q.entry s).original = (p.entry s).original

theorem Keeps.sets (h : Keeps p q) (call : Signal → Prop) : Sets call p q :=
  ⟨h.coherent, fun s hs => .inl (h.marks s hs), h.original⟩

theorem Sets.of_alike {call : Signal → Prop} (hp : Coherent p) (hactions : q.actions = p.actions)
    (hfaults : q.faults.saved = p.faults.saved) (henabled : q.faults.enabled = p.faults.enabled)
    (husers : q.userSignals = p.userSignals) : Sets call p q :=
  (Keeps.of_alike hp hactions hfaults henabled husers).sets call

theorem Sets.then {call : Signal → Prop} {r : Process} (hpq : Sets call p q) (hqr : Keeps q r) :
    Sets call p r := by
  refine ⟨hqr.coherent, fun s h => ?_, fun s => (hqr.original s).trans (hpq.original s)⟩
  obtain ⟨hq, hprevious⟩ := hqr.marks s h
  rw [hprevious]
  exact hpq.marks s hq

theorem Sets.of_entry {call : Signal → Prop} (hp : Coherent p)
    (hentry : ∀ s, Entry.Change s (p.entry s) (q.entry s) ∨
      call s ∧ Entry.Captured s (p.entry s) (q.entry s))
    (hfatal : ∀ s, (q.faults.saved.get s).installed →
      s.faultName?.isSome ∧ q.faults.enabled)
    (hordinary : ∀ s, (q.userSignal s).saved.installed → s.faultName?.isSome = false) :
    Sets call p q := by
  refine ⟨⟨fun s => ?_, fun s h => (hfatal s h).1, hordinary, fun s h => (hfatal s h).2⟩,
    fun s hmark => ?_, fun s => ?_⟩
  · obtain hchange | ⟨-, hcapture⟩ := hentry s
    · exact (hp.entry s).change hchange
    · exact (hp.entry s).captured hcapture
  · obtain hchange | ⟨hcall, hcapture⟩ := hentry s
    · exact .inl (hchange.marks hmark)
    · have hsaved : q.saved s = ⟨true, p.actions.get s⟩ := hcapture.saved
      rw [hsaved]
      exact .inr ⟨hcall, hcapture.unmarked, rfl⟩
  · obtain hchange | ⟨-, hcapture⟩ := hentry s
    · exact hchange.original
    · exact hcapture.original

/-- While no fatal signal is marked, the reporting handler is installed for all of them. -/
theorem Installed.sets {settings : FaultSettings} (hp : Coherent p)
    (h : Installed settings faultSignals p q) (hoff : p.faults.enabled = false)
    {r : Process} (hactions : r.actions = q.actions) (hsaved : r.faults.saved = q.faults.saved)
    (husers : r.userSignals = q.userSignals) (hon : r.faults.enabled) :
    Sets (fun s => s.faultName?.isSome) p r := by
  have hunmarked : ∀ s, (p.faults.saved.get s).installed = false := by
    intro s
    by_contra hmark
    have := hp.enabled s (by simpa using hmark)
    simp [hoff] at this
  have hsignals : r.userSignals = p.userSignals := husers.trans h.userSignals
  refine Sets.of_entry hp (fun s => ?_) (fun s hmark => ⟨?_, hon⟩) (fun s hmark => ?_)
  · by_cases hs : s.faultName?.isSome
    · refine .inr ⟨hs, ?_, Signal.changeable_of_fault s hs, ?_, ?_⟩
      · exact (congrArg SavedAction.installed (saved_of_fault hs)).trans (hunmarked s)
      · show r.saved s = ⟨true, p.actions.get s⟩
        rw [saved_of_fault hs, hsaved, h.saved s ((mem_faultSignals s).mpr hs)]
      · show (r.actions.get s).Fits s
        rw [hactions, h.actions s ((mem_faultSignals s).mpr hs), Action.Fits, if_pos hs]
        exact ⟨rfl, rfl⟩
    · have hentry : r.entry s = p.entry s := by
        have hsame : r.saved s = p.saved s := by
          have hs' := Bool.eq_false_iff.mpr hs
          rw [saved_of_ordinary hs', saved_of_ordinary hs', userSignal_congr hsignals]
        unfold entry
        rw [hsame, hactions, (h.others s fun hmem => hs ((mem_faultSignals s).mp hmem)).1]
      rw [hentry]
      exact .inl .same
  · by_contra hs
    have hsame := (h.others s fun hmem => hs ((mem_faultSignals s).mp hmem)).2
    rw [hsaved, hsame, hunmarked] at hmark
    cases hmark
  · rw [userSignal_congr hsignals] at hmark
    exact hp.ordinary s hmark

theorem provideAltStack_eq {supply : StackSupply} {settings : FaultSettings}
    (h : p.provideAltStack supply settings = .ok q) :
    ∃ altStack, q = p.changeFaults fun f => { f with altStack := altStack } := by
  unfold provideAltStack at h
  split at h
  · cases supply with
    | available => exact ⟨true, (Except.ok.inj h).symm⟩
    | noMemory => cases h
    | noGuard => cases h
    | inUse => cases h
  · exact ⟨p.faults.altStack, (Except.ok.inj h).symm⟩

/-- The descriptor and the choice of threads have been set. -/
def aim (p : Process) (sink : Sink) (settings : FaultSettings) : Process :=
  p.changeFaults fun f => { f with target := f.target.set sink.descriptor settings.allThreads }

/-- What enabling fault reports can come to. -/
inductive EnableOutcome (p : Process) (sink : Sink) (settings : FaultSettings) :
    Answered Unit → Prop
  | refused (failure : Failure) : EnableOutcome p sink settings (.error failure, p)
  | replaced : p.faults.enabled →
      EnableOutcome p sink settings
        (.ok (), (p.aim sink settings).note (.sinkReplaced sink.descriptor))
  | noStack (failure : Failure) : p.faults.enabled = false →
      EnableOutcome p sink settings (.error failure, (p.aim sink settings).clearFaultTarget)
  | enabled (altStack : Bool) (installed : Process) : p.faults.enabled = false →
      Installed settings faultSignals
        ((p.aim sink settings).changeFaults fun f => { f with altStack := altStack }) installed →
      EnableOutcome p sink settings
        (.ok (), (installed.changeFaults fun f => { f with enabled := true }).note
          (.enabled sink.descriptor settings.allThreads))

theorem enable_outcome (p : Process) (supply : StackSupply) (sink : Sink)
    (settings : FaultSettings) :
    EnableOutcome p sink settings (p.enable supply sink settings) := by
  unfold enable
  split
  · exact .refused _
  · dsimp only
    split
    · next hon => exact .replaced hon
    · next hoff =>
      have hoff := Bool.eq_false_iff.mpr hoff
      split
      · exact .noStack _ hoff
      · next ready hready =>
        obtain ⟨altStack, rfl⟩ := provideAltStack_eq hready
        exact .enabled altStack _ hoff (installed_foldl settings nodup_faultSignals _)

theorem enable_sets (hp : Coherent p) (supply : StackSupply) (sink : Sink)
    (settings : FaultSettings) :
    Sets (fun s => s.faultName?.isSome) p (p.enable supply sink settings).2 := by
  have houtcome := enable_outcome p supply sink settings
  generalize p.enable supply sink settings = answered at houtcome
  cases houtcome with
  | refused failure => exact .of_alike hp rfl rfl rfl rfl
  | replaced hon => exact .of_alike hp rfl rfl rfl rfl
  | noStack failure hoff => exact .of_alike hp rfl rfl rfl rfl
  | enabled altStack installed hoff hinstalled =>
    have haimed : Keeps p
        ((p.aim sink settings).changeFaults fun f => { f with altStack := altStack }) :=
      .of_alike hp rfl rfl rfl rfl
    have hsets := hinstalled.sets (r := (installed.changeFaults fun f =>
        { f with enabled := true }).note (.enabled sink.descriptor settings.allThreads))
      haimed.coherent hoff rfl rfl rfl rfl
    exact ⟨hsets.coherent, hsets.marks, hsets.original⟩

/-- Nothing that reports on another signal than `s` has changed. -/
structure SameBut (s : Signal) (p q : Process) : Prop where
  faults : q.faults = p.faults
  actions : ∀ u, s ≠ u → q.actions.get u = p.actions.get u
  userSignals : ∀ u, s ≠ u → q.userSignal u = p.userSignal u

theorem SameBut.trans {s : Signal} {r : Process} (hpq : SameBut s p q) (hqr : SameBut s q r) :
    SameBut s p r :=
  ⟨hqr.faults.trans hpq.faults, fun u hu => (hqr.actions u hu).trans (hpq.actions u hu),
    fun u hu => (hqr.userSignals u hu).trans (hpq.userSignals u hu)⟩

theorem SameBut.entry {s u : Signal} (h : SameBut s p q) (hu : s ≠ u) : q.entry u = p.entry u := by
  simp only [Process.entry, saved, h.actions u hu, h.userSignals u hu, h.faults]

theorem Sets.of_one {s : Signal} (hp : Coherent p) (hs : s.faultName?.isSome = false)
    (hothers : SameBut s p q)
    (hone : Entry.Change s (p.entry s) (q.entry s) ∨ Entry.Captured s (p.entry s) (q.entry s)) :
    Sets (fun u => u = s) p q := by
  refine Sets.of_entry hp (fun u => ?_) (fun u hmark => ?_) (fun u hmark => ?_)
  · by_cases hu : s = u
    · subst hu
      exact hone.imp id fun h => ⟨rfl, h⟩
    · rw [hothers.entry hu]
      exact .inl .same
  · rw [hothers.faults] at hmark ⊢
    exact ⟨hp.fatal u hmark, hp.enabled u hmark⟩
  · by_cases hu : s = u
    · rw [← hu]
      exact hs
    · rw [hothers.userSignals u hu] at hmark
      exact hp.ordinary u hmark

section Dump

variable {s : Signal} {change : UserSignal → UserSignal} {a : Action}

theorem entry_changeUserSignal (hs : s.faultName?.isSome = false) :
    (p.changeUserSignal s change).entry s =
      ⟨p.actions.get s, (change (p.userSignal s)).saved⟩ := by
  unfold entry
  rw [saved_of_ordinary hs, userSignal_changeUserSignal, if_pos rfl]
  rfl

theorem entry_setAction : (p.setAction s a).entry s = ⟨a, p.saved s⟩ := by
  have haction : (p.setAction s a).actions.get s = a := by
    simp [setAction, SignalTable.get_put]
  unfold entry
  rw [haction]
  rfl

theorem sameBut_changeUserSignal (p : Process) (s : Signal) (change : UserSignal → UserSignal) :
    SameBut s p (p.changeUserSignal s change) := by
  refine ⟨rfl, fun u _ => rfl, fun u hu => ?_⟩
  rw [userSignal_changeUserSignal, if_neg hu]

theorem sameBut_setAction (p : Process) (s : Signal) (a : Action) :
    SameBut s p (p.setAction s a) := by
  refine ⟨rfl, fun u hu => ?_, fun u _ => rfl⟩
  simp [setAction, SignalTable.get_put, hu]

theorem fits_dumpAction (hs : s.faultName?.isSome = false) (chain : Bool) :
    (p.dumpAction chain).Fits s := by
  rw [Action.Fits, if_neg (Bool.eq_false_iff.mp hs)]
  rfl

/-- A signal that is set up already keeps its saved action. Otherwise the action in force is
saved; if it turns out that it cannot be changed, the mark is removed again. -/
theorem installDump_sets (hp : Coherent p) (hs : s.faultName?.isSome = false) (sink : Sink)
    (settings : UserSignalSettings) :
    Sets (fun u => u = s) p (p.installDump s sink settings).2 := by
  have hsaved := saved_of_ordinary (p := p) hs
  unfold installDump
  by_cases hmark : (p.userSignal s).saved.installed
  · have hmark' : (p.entry s).saved.installed := (congrArg SavedAction.installed hsaved).trans hmark
    have hkeep : ({ (p.userSignal s).saved with installed := true } : SavedAction) = p.saved s := by
      rw [hsaved, ← hmark]
    dsimp only
    rw [if_pos hmark]
    dsimp only
    rw [setAction?, if_pos ((hp.entry s).changeable hmark')]
    refine Sets.of_one hp hs
      ((sameBut_changeUserSignal p s _).trans (sameBut_setAction _ s _)) (.inl ?_)
    rw [entry_setAction, saved_of_ordinary hs, userSignal_changeUserSignal, if_pos rfl, hkeep]
    exact .installed _ hmark' (fits_dumpAction hs _)
  · have hmark' : ¬ (p.entry s).saved.installed := by
      intro h
      exact hmark ((congrArg SavedAction.installed hsaved).symm.trans h)
    dsimp only
    rw [if_neg hmark]
    unfold capture action?
    by_cases hreadable : s.actionReadable
    · rw [if_pos hreadable]
      dsimp only
      rw [setAction?]
      by_cases hchangeable : s.actionChangeable
      · rw [if_pos hchangeable]
        refine Sets.of_one hp hs
          ((sameBut_changeUserSignal p s _).trans (sameBut_setAction _ s _)) (.inr ?_)
        rw [entry_setAction, saved_of_ordinary hs, userSignal_changeUserSignal, if_pos rfl]
        exact ⟨Bool.eq_false_iff.mpr hmark', hchangeable, rfl, fits_dumpAction hs _⟩
      · rw [if_neg hchangeable]
        dsimp only
        rw [if_neg hmark]
        refine Sets.of_one hp hs
          ((sameBut_changeUserSignal p s _).trans (sameBut_changeUserSignal _ s _)) (.inl ?_)
        rw [entry_changeUserSignal hs, userSignal_changeUserSignal, if_pos rfl]
        exact .noted hmark'
    · rw [if_neg hreadable]
      exact .of_alike hp rfl rfl rfl rfl

end Dump

theorem register_sets (hp : Coherent p) (n : Int) (sink : Sink)
    (settings : UserSignalSettings) :
    Sets (fun s => Signal.registrable n = .ok s) p (p.register n sink settings).2 := by
  unfold register
  split
  · exact .of_alike hp rfl rfl rfl rfl
  · next s hn =>
    have hs := (Signal.registrable_eq_ok.mp hn).2
    split
    · exact .of_alike hp rfl rfl rfl rfl
    · have hinstall := installDump_sets hp hs sink settings
      have hcall : Sets (fun u => Signal.registrable n = .ok u) p
          (p.installDump s sink settings).2 := by
        refine ⟨hinstall.coherent, fun u hu => ?_, hinstall.original⟩
        obtain hkept | ⟨rfl, hset⟩ := hinstall.marks u hu
        · exact .inl hkept
        · exact .inr ⟨hn, hset⟩
      split
      · next hinstalled =>
        rw [hinstalled] at hcall
        exact hcall
      · next hinstalled =>
        rw [hinstalled] at hcall
        exact hcall.then (.of_alike hcall.coherent rfl rfl rfl rfl)

/-- Unregistering puts the saved action of an ordinary signal back, tells whether there was one,
and leaves everything else. -/
theorem entry_unregister (hp : Coherent p) {n : Int} {s : Signal}
    (hn : Signal.registrable n = .ok s) (u : Signal) :
    (p.unregister n).2.entry u = if s = u then (p.entry u).putBack else p.entry u := by
  have hs := (Signal.registrable_eq_ok.mp hn).2
  rw [← entry_removeDump hp hs]
  unfold unregister
  rw [hn]
  rfl

end Process

end CrashTrace
