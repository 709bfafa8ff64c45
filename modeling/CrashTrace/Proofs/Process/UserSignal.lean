import CrashTrace.Proofs.Process.FatalSignal

/-!
# The delivery of a registered signal

The dumping handler makes its dump before anything else. Without chaining it has done its work
then. With chaining it puts the action back that was there before, raises the signal again so that
this action takes place, and installs itself again unless the signal has been unregistered
meanwhile.

## Main definitions

- `Action.Passes` — an action that does nothing, or returns without raising
- `Process.dumped` — the state after the dump
- `Process.afterDump` — the rest of the delivery
- `Process.PassedOn` — what that rest has done

## Main results

- `Process.takePlace_dumped` — the dump comes first
- `Process.raise_registered`

## Design notes

The signal that is raised again must not be blocked then, so with chaining the action in force has
to be one that does not block its signal. An older action, from before chaining was asked for, may
block it; then the signal waits until the handler has returned, and is dumped for once more.
-/

namespace CrashTrace

namespace Action

/-- The action does nothing, or it runs a handler of the observed program that returns without
raising anything. -/
def Passes (a : Action) (s : Signal) : Prop :=
  a.disposition = .ignored ∨ a.disposition = .byDefault ∧ s.ignoredByDefault ∨
    a.disposition = .handled (.own .counts) ∨ a.disposition = .handled (.own .unregisters)

/-- The action runs a handler that unregisters its signal. -/
def Unregisters (a : Action) : Prop := a.disposition = .handled (.own .unregisters)

end Action

namespace Process

variable {p q : Process} {s : Signal} {raise : Raise} {caller : Option ThreadId} {fd : Int}
  {allThreads : Bool} {flags : ActionFlags}

/-- The dump for a signal has been made. -/
def dumped (p : Process) (caller : Option ThreadId) (fd : Int) (allThreads : Bool) : Process :=
  { p with
    descriptors := p.descriptors.reported (some (fd, (p.dumpPieces caller allThreads).text)) }

/-- The dumping handler has been installed again, unless the signal has been unregistered. -/
def reinstalled (p : Process) (s : Signal) : Process :=
  if (p.userSignal s).saved.installed then p.trySetAction s (p.dumpAction true) else p

/-- What the dumping handler does after its dump. -/
def passOn (raise : Raise) (s : Signal) : Run Unit := do
  let p ← Run.state
  if (p.userSignal s).chain then do
    Run.change fun p => p.reinstate (p.userSignal s).saved s
    raise s
    Run.change (·.reinstalled s)
  else pure ()

/-- The rest of a delivery whose handler has made its dump. -/
def afterDump (raise : Raise) (s : Signal) (flags : ActionFlags) : Run Unit := do
  let p ← Run.state
  let before := p.blocked
  Run.change fun p => { p with blocked := if flags.noDefer then before else s :: before }
  passOn raise s
  Run.change fun p => { p with blocked := before }
  deliverPending raise s

/-- What has happened since the dump for a signal: nothing more has been written, the previous
action has taken place once if the handler chains, and the signal is registered as it was unless
that action has unregistered it. -/
structure PassedOn (s : Signal) (chain : Bool) (p q : Process) : Prop where
  descriptors : q.descriptors = p.descriptors
  calls : ∀ u, q.calls.get u = p.calls.get u +
    if s = u ∧ chain ∧ (p.userSignal s).saved.previous.runsHandler then 1 else 0
  unregistered : chain → (p.userSignal s).saved.previous.Unregisters →
    q.actions.get s = (p.userSignal s).saved.previous ∧ (q.userSignal s).saved.installed = false
  registered : (chain → ¬ (p.userSignal s).saved.previous.Unregisters) →
    (q.actions.get s).disposition = .handled .dump ∧ (chain → (q.actions.get s).flags.noDefer) ∧
      q.userSignal s = p.userSignal s

-- ════════════════════════════════════════════════════════════════════════
-- The dump
-- ════════════════════════════════════════════════════════════════════════

theorem dumpForSignal_of_works (raise : Raise) (caller : Option ThreadId)
    (hfree : p.dumping = Exclusion.free)
    (htarget : (p.userSignal s).target.load? = some (fd, allThreads))
    (hworks : p.descriptors.Works fd) :
    dumpForSignal raise caller s p = .returned () (p.dumped caller fd allThreads) := by
  have hoffer := DescriptorTable.offer_reported hworks (p.dumpPieces caller allThreads).text
  have htake : p.dumping.take? = some ⟨1⟩ := by
    rw [hfree]
    rfl
  have hwrite : write raise fd (p.dumpPieces caller allThreads).text { p with dumping := ⟨1⟩ } =
      .returned (.ok ()) { p.dumped caller fd allThreads with dumping := ⟨1⟩ } := by
    unfold write
    rw [Run.state_bind, hoffer]
    rfl
  unfold dumpForSignal
  rw [Run.state_bind, htarget]
  dsimp only
  rw [htake]
  dsimp only
  rw [Run.change_bind, Run.bind_of_returned hwrite, Run.change_apply]
  have hrelease : (⟨1⟩ : Exclusion).release = p.dumping := by
    rw [hfree]
    rfl
  dsimp only
  rw [hrelease]
  rfl

/-- The dump comes before anything that the handler raises. -/
theorem takePlace_dumped (raise : Raise) (caller : Option ThreadId)
    (haction : p.actions.get s = ⟨.handled .dump, flags⟩) (hfree : p.dumping = Exclusion.free)
    (htarget : (p.userSignal s).target.load? = some (fd, allThreads))
    (hworks : p.descriptors.Works fd) :
    takePlace raise caller s p = afterDump raise s flags (p.dumped caller fd allThreads) := by
  unfold takePlace
  rw [Run.state_bind, haction]
  show invoke raise caller s true flags .dump p = _
  have hdump := dumpForSignal_of_works
    (p := { p with blocked := if flags.noDefer then p.blocked else s :: p.blocked })
    raise caller hfree htarget hworks
  have hhandle := Run.bind_of_returned hdump fun _ => passOn raise s
  unfold invoke afterDump
  rw [Run.state_bind, Run.change_bind, Run.state_bind, Run.change_bind]
  exact Run.bind_of_eq hhandle _

-- ════════════════════════════════════════════════════════════════════════
-- The previous action
-- ════════════════════════════════════════════════════════════════════════

/-- An action that passes has taken place. -/
def passed (p : Process) (s : Signal) (a : Action) : Process :=
  match a.disposition with
  | .handled (.own k) => p.ran s k
  | _ => p

theorem raise_passes (hreserved : s.reserved = false) (hfree : s ∉ p.blocked)
    (hpending : s ∉ p.pending) (hpasses : (p.actions.get s).Passes s) (caller : Option ThreadId)
    (budget : Nat) :
    Process.raise caller (budget + 1) s p = .returned () (p.passed s (p.actions.get s)) := by
  rw [raise_free hreserved hfree]
  unfold takePlace passed
  rw [Run.state_bind]
  obtain haction | ⟨haction, hignored⟩ | haction | haction := hpasses
  · rw [haction]
    rfl
  · rw [haction]
    dsimp only
    rw [if_pos hignored]
    rfl
  · rw [haction]
    exact invoke_own hpending (.inl rfl) true _
  · rw [haction]
    exact invoke_own hpending (.inr rfl) true _

/-- An action that passes is counted if it runs a handler, and may unregister its signal. -/
theorem exists_passed {a : Action} (hpasses : a.Passes s) (p : Process) :
    ∃ actions pending userSignals log, p.passed s a =
        { p with
          calls := p.callsAfter s a
          actions := actions, pending := pending, userSignals := userSignals, log := log } ∧
      pending.Sublist p.pending := by
  unfold passed callsAfter
  obtain haction | ⟨haction, -⟩ | haction | haction := hpasses
  · rw [haction]
    exact ⟨_, _, _, _, rfl, List.Sublist.refl _⟩
  · rw [haction]
    exact ⟨_, _, _, _, rfl, List.Sublist.refl _⟩
  · rw [haction]
    exact ⟨_, _, _, _, rfl, List.Sublist.refl _⟩
  · rw [haction]
    exact exists_unregister { p with calls := p.calls.put s (p.calls.get s + 1) } s.number

theorem passed_of_stays {a : Action} (hpasses : a.Passes s) (hstays : ¬ a.Unregisters)
    (p : Process) : p.passed s a = { p with calls := p.callsAfter s a } := by
  unfold passed callsAfter
  obtain haction | ⟨haction, -⟩ | haction | haction := hpasses
  · rw [haction]
  · rw [haction]
  · rw [haction]
    rfl
  · exact absurd haction hstays

-- ════════════════════════════════════════════════════════════════════════
-- The rest of the delivery
-- ════════════════════════════════════════════════════════════════════════

theorem passOn_unchained (raise : Raise) (hchain : (p.userSignal s).chain = false) :
    passOn raise s p = .returned () p := by
  unfold passOn
  rw [Run.state_bind]
  exact congrFun (if_neg (by rw [hchain]; decide)) _

theorem afterDump_unchained (raise : Raise) (flags : ActionFlags)
    (hchain : (p.userSignal s).chain = false) (hpending : s ∉ p.pending)
    (haction : (p.actions.get s).disposition = .handled .dump) :
    afterDump raise s flags p = .returned () p ∧ PassedOn s false p p := by
  have hpass := passOn_unchained raise (s := s)
    (p := { p with blocked := if flags.noDefer then p.blocked else s :: p.blocked }) hchain
  constructor
  · unfold afterDump
    rw [Run.state_bind, Run.change_bind, Run.bind_of_returned hpass, Run.change_bind]
    exact deliverPending_absent hpending
  · exact ⟨rfl, fun u => by simp, nofun, fun _ => ⟨haction, nofun, rfl⟩⟩

/-- The previous action is in force when the signal is raised again. -/
theorem reinstate_raise (hchangeable : s.actionChangeable) (hreserved : s.reserved = false)
    (hblocked : s ∉ p.blocked) (hpending : s ∉ p.pending)
    (hmark : (p.userSignal s).saved.installed) (hpasses : (p.userSignal s).saved.previous.Passes s)
    (caller : Option ThreadId) (budget : Nat) :
    Process.raise caller (budget + 1) s (p.reinstate (p.userSignal s).saved s) =
      .returned () ((p.reinstate (p.userSignal s).saved s).passed s
        (p.userSignal s).saved.previous) := by
  have haction : (p.reinstate (p.userSignal s).saved s).actions.get s =
      (p.userSignal s).saved.previous := by
    rw [reinstate_get, if_pos ⟨rfl, hchangeable, hmark⟩]
  have hraise := raise_passes (p := p.reinstate (p.userSignal s).saved s) hreserved
    (by rw [reinstate_blocked]; exact hblocked)
    (fun hmem => hpending ((p.reinstate_pending s _).subset hmem))
    (by rw [haction]; exact hpasses) caller budget
  rw [hraise, haction]

theorem exists_reinstalled (p : Process) (s : Signal) :
    ∃ actions pending, p.reinstalled s = { p with actions := actions, pending := pending } ∧
      pending.Sublist p.pending := by
  unfold reinstalled
  split
  · exact p.exists_trySetAction s _
  · exact ⟨_, _, rfl, List.Sublist.refl _⟩

theorem unregister_registered (hordinary : s.faultName?.isSome = false)
    (hchangeable : s.actionChangeable) (hmark : (p.userSignal s).saved.installed) :
    (p.unregister s.number).2.actions.get s = (p.userSignal s).saved.previous ∧
      ((p.unregister s.number).2.userSignal s).saved.installed = false := by
  have hs : Signal.registrable s.number = .ok s := Signal.registrable_eq_ok.mpr
    ⟨Signal.ofInt?_number (Signal.ne_zero_of_changeable s hchangeable), hordinary⟩
  have hchanged := userSignal_changeUserSignal (p.reinstate (p.userSignal s).saved s) s s fun u =>
    { u with
      target := u.target.clear, saved := { (p.userSignal s).saved with installed := false } }
  rw [if_pos rfl] at hchanged
  unfold unregister
  rw [hs]
  dsimp only
  rw [removeDump_eq]
  constructor
  · show (p.reinstate (p.userSignal s).saved s).actions.get s = _
    rw [reinstate_get, if_pos ⟨rfl, hchangeable, hmark⟩]
  · exact congrArg (·.saved.installed) hchanged

/-- The previous action takes place and unregisters the signal. -/
theorem reinstalled_passed_gone (hordinary : s.faultName?.isSome = false)
    (hchangeable : s.actionChangeable) (hmark : (p.userSignal s).saved.installed) {a : Action}
    (ha : a.Unregisters) :
    ((p.passed s a).reinstalled s).actions.get s = (p.userSignal s).saved.previous ∧
      (((p.passed s a).reinstalled s).userSignal s).saved.installed = false := by
  have hran : p.passed s a = p.ran s .unregisters := by
    unfold passed
    rw [show a.disposition = _ from ha]
  obtain ⟨haction, hgone⟩ := unregister_registered
    (p := { p with calls := p.calls.put s (p.calls.get s + 1) }) hordinary hchangeable hmark
  unfold reinstalled
  rw [hran, if_neg (by rw [← Bool.not_eq_true] at hgone; exact hgone)]
  exact ⟨haction, hgone⟩

/-- The previous action takes place, and the dumping handler is installed again. -/
theorem reinstalled_passed_kept (hchangeable : s.actionChangeable)
    (hmark : (p.userSignal s).saved.installed) {a : Action} (hpasses : a.Passes s)
    (ha : ¬ a.Unregisters) :
    ((p.passed s a).reinstalled s).actions.get s = p.dumpAction true ∧
      ((p.passed s a).reinstalled s).userSignal s = p.userSignal s := by
  have huser : (p.passed s a).userSignal s = p.userSignal s := by
    rw [passed_of_stays hpasses ha]
    rfl
  unfold reinstalled
  rw [huser, if_pos hmark]
  constructor
  · rw [trySetAction_get, if_pos ⟨rfl, hchangeable⟩, passed_of_stays hpasses ha]
    rfl
  · rw [userSignal_congr (trySetAction_userSignals _ _ _), huser]

/-- The previous action is put back and takes place, and then it gives way to the dumping handler
again unless it has unregistered the signal. -/
theorem afterDump_chained (hordinary : s.faultName?.isSome = false)
    (hchangeable : s.actionChangeable) (hblocked : s ∉ p.blocked) (hpending : s ∉ p.pending)
    (hchain : (p.userSignal s).chain) (hdefer : flags.noDefer)
    (hmark : (p.userSignal s).saved.installed) (hpasses : (p.userSignal s).saved.previous.Passes s)
    (caller : Option ThreadId) (budget : Nat) :
    ∃ q, afterDump (Process.raise caller (budget + 1)) s flags p = .returned () q ∧
      PassedOn s true p q := by
  have hraise := reinstate_raise hchangeable (Signal.not_reserved_of_changeable s hchangeable)
    hblocked hpending hmark hpasses caller budget
  set previous := (p.userSignal s).saved.previous with hprevious
  set back := p.reinstate (p.userSignal s).saved s with hback
  set q := (back.passed s previous).reinstalled s with hq
  obtain ⟨_, _, hp₂, hpending₂⟩ := p.exists_reinstate s (p.userSignal s).saved
  obtain ⟨_, _, _, _, hp₃, hpending₃⟩ := exists_passed hpasses back
  obtain ⟨_, _, hp₄, hpending₄⟩ := (back.passed s previous).exists_reinstalled s
  have hpass : passOn (Process.raise caller (budget + 1)) s p = .returned () q := by
    unfold passOn
    rw [Run.state_bind, if_pos hchain, Run.change_bind, Run.bind_of_returned hraise]
    rfl
  obtain ⟨hunblocked, hdescriptors, hcalls⟩ : q.blocked = p.blocked ∧
      q.descriptors = p.descriptors ∧ q.calls = p.callsAfter s previous := by
    rw [hq, hp₄, hp₃, hback, hp₂]
    exact ⟨rfl, rfl, rfl⟩
  have habsent : s ∉ q.pending := by
    intro hmem
    rw [hq, hp₄] at hmem
    have hmem := hpending₄.subset hmem
    rw [hp₃] at hmem
    have hmem := hpending₃.subset hmem
    rw [hback, hp₂] at hmem
    exact hpending (hpending₂.subset hmem)
  have huser : back.userSignal s = p.userSignal s :=
    userSignal_congr (p.reinstate_userSignals s _) s
  have hmark' : (back.userSignal s).saved.installed := by
    rw [huser]
    exact hmark
  refine ⟨q, ?_, hdescriptors, fun u => ?_, fun _ hgone => ?_, fun hstays => ?_⟩
  · unfold afterDump
    rw [Run.state_bind, Run.change_bind, if_pos hdefer, Run.bind_of_returned hpass,
      Run.change_bind, ← hunblocked]
    exact deliverPending_absent habsent
  · rw [hcalls, callsAfter_get, hprevious]
    simp
  · have hafter := reinstalled_passed_gone hordinary hchangeable hmark' hgone
    rw [huser] at hafter
    exact hafter
  · obtain ⟨haction, hkept⟩ :=
      reinstalled_passed_kept hchangeable hmark' hpasses (hstays rfl)
    rw [huser] at hkept
    exact ⟨by rw [haction]; rfl, fun _ => by rw [haction]; rfl, hkept⟩

/-- A registered signal is delivered while no dump is being made. -/
theorem raise_registered (hordinary : s.faultName?.isSome = false)
    (hchangeable : s.actionChangeable) (hblocked : s ∉ p.blocked) (hpending : s ∉ p.pending)
    (hfree : p.dumping = Exclusion.free) (hmark : (p.userSignal s).saved.installed)
    (haction : p.actions.get s = ⟨.handled .dump, flags⟩)
    (htarget : (p.userSignal s).target.load? = some (fd, allThreads))
    (hworks : p.descriptors.Works fd)
    (hchain : (p.userSignal s).chain →
      flags.noDefer ∧ (p.userSignal s).saved.previous.Passes s)
    (caller : Option ThreadId) (budget : Nat) :
    ∃ q, Process.raise caller (budget + 2) s p = .returned () q ∧
      PassedOn s (p.userSignal s).chain (p.dumped caller fd allThreads) q := by
  rw [raise_free (Signal.not_reserved_of_changeable s hchangeable) hblocked,
    takePlace_dumped _ caller haction hfree htarget hworks]
  cases hchains : (p.userSignal s).chain with
  | true =>
    obtain ⟨hdefer, hpasses⟩ := hchain hchains
    exact afterDump_chained (p := p.dumped caller fd allThreads) hordinary hchangeable hblocked
      hpending hchains hdefer hmark hpasses caller budget
  | false =>
    have haction : (p.actions.get s).disposition = .handled .dump := by rw [haction]
    exact ⟨_, afterDump_unchained (p := p.dumped caller fd allThreads) _ flags hchains hpending
      haction⟩

end Process

end CrashTrace
