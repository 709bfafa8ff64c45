import CrashTrace.Proofs.Process.BrokenPipe
import CrashTrace.Proofs.Process.Resting

/-!
# Deliveries that come to an end

Handlers raise signals, and so does a write to a broken pipe, so a delivery need not come to an end.
It does while each handler is in force only where it has been set up: it then puts the saved action
back before it raises its signal again, and the saved action runs no handler.

## Main definitions

- `Outcome.Halts` — a run has ended the process, or has returned in a state with a property
- `Process.Orderly` — each handler is in force only where it has been set up
- `Process.Undeferred` — the dumping handler of a signal does not block it
- `Process.CopesPipe` — the signal of a broken pipe leads to an end

## Main results

- `Process.Orderly.raise_halts`, `Process.Orderly.dump_halts`

## Design notes

Six handlers inside one another are enough, redeliveries counted: a registered signal that blocks
itself, its redelivery, and four for the broken pipe that the dump is written to.

Both handlers are followed to the end, and not to where they return: where the saved action is the
default one, the process dies in the middle of a handler. So the lemmas on broken pipes that are
borne do not apply, which are about runs that return.
-/

namespace CrashTrace

/-- The action runs no handler. -/
def Action.Inert (a : Action) : Prop := a.disposition = .byDefault ∨ a.disposition = .ignored

instance (a : Action) : Decidable a.Inert := inferInstanceAs (Decidable (_ ∨ _))

namespace Outcome

variable {α β : Type} {p q : Process} {mid post : Process → Prop}

/-- The run has ended the process, or it has returned in a state with a property. -/
def Halts (post : Process → Prop) : Outcome α → Prop
  | .returned _ p => post p
  | .ended _ _ => True
  | .unfinished => False

namespace Halts

theorem ne_unfinished {o : Outcome α} (h : o.Halts post) : o ≠ .unfinished := by
  rintro rfl
  exact h

theorem of_returned {o : Outcome α} {v : α} (h : o = .returned v q) (hq : post q) :
    o.Halts post := by
  rw [h]
  exact hq

theorem mono {o : Outcome α} (h : o.Halts mid) (hpost : ∀ q, mid q → post q) : o.Halts post := by
  cases o with
  | returned v q => exact hpost q h
  | ended status q => trivial
  | unfinished => exact h

theorem bind {run : Run α} {next : α → Run β} (hrun : (run p).Halts mid)
    (hnext : ∀ v q, mid q → (next v q).Halts post) : ((run >>= next) p).Halts post := by
  rw [Run.bind_apply]
  cases hresult : run p with
  | returned v q =>
    rw [hresult] at hrun
    exact hnext v q hrun
  | ended status q => trivial
  | unfinished =>
    rw [hresult] at hrun
    exact hrun

end Halts

end Outcome

namespace Process

variable {p q : Process} {s : Signal} {caller : Option ThreadId} {budget : Nat}

/-- With chaining a signal is registered, and the saved action runs no handler. -/
structure Reverts (s : Signal) (p : Process) : Prop where
  changeable : s.actionChangeable
  installed : (p.userSignal s).saved.installed
  inert : (p.userSignal s).saved.previous.Inert

/-- The dumping handler of a signal does not block it. -/
structure Undeferred (s : Signal) (p : Process) : Prop where
  action : (p.actions.get s).disposition = .handled .dump
  noDefer : (p.actions.get s).flags.noDefer
  reverts : (p.userSignal s).chain → Reverts s p

/-- The signal of a broken pipe leads to an end. -/
inductive CopesPipe (p : Process) : Prop
  | inert : (p.actions.get Signal.pipe).Inert → CopesPipe p
  | undeferred : Undeferred Signal.pipe p → CopesPipe p
  /-- The signal waits until its handler has returned, and then the handler does not block it. -/
  | deferred : (p.actions.get Signal.pipe).disposition = .handled .dump →
      (p.userSignal Signal.pipe).chain → Reverts Signal.pipe p → CopesPipe p
  /-- The dumps for the signal do not send it once more. -/
  | apart : (p.actions.get Signal.pipe).disposition = .handled .dump →
      (p.userSignal Signal.pipe).chain = false →
      (∀ fd allThreads, (p.userSignal Signal.pipe).target.load? = some (fd, allThreads) →
        ¬ p.descriptors.Broken fd) → CopesPipe p

/-- Each handler is in force only where it has been set up, and the saved actions run none. The
dumps for the signal of a broken pipe are not set up to send that signal once more, unless it is
not blocked meanwhile. -/
structure Orderly (p : Process) : Prop where
  handlers : ∀ s, (p.actions.get s).Inert ∨
    (p.actions.get s).disposition = .handled .report ∨
    (p.actions.get s).disposition = .handled .dump
  faults : ∀ s, (p.faults.saved.get s).installed → (p.faults.saved.get s).previous.Inert
  users : ∀ s, (p.userSignal s).saved.installed → (p.userSignal s).saved.previous.Inert
  report : ∀ s, (p.actions.get s).disposition = .handled .report →
    (p.faults.saved.get s).installed
  dump : ∀ s, (p.actions.get s).disposition = .handled .dump → (p.userSignal s).chain →
    (p.userSignal s).saved.installed
  pipe : (p.actions.get Signal.pipe).disposition = .handled .dump →
    (p.userSignal Signal.pipe).chain ∨ (p.actions.get Signal.pipe).flags.noDefer ∨
      ∀ fd allThreads, (p.userSignal Signal.pipe).target.load? = some (fd, allThreads) →
        ¬ p.descriptors.Broken fd

-- ════════════════════════════════════════════════════════════════════════
-- Single signals
-- ════════════════════════════════════════════════════════════════════════

/-- A signal that waits leaves the actions. -/
theorem keepPending_eq (p : Process) (s : Signal) :
    p.keepPending s = { p with pending := (p.keepPending s).pending } := by
  unfold keepPending
  split
  · rfl
  · rfl

/-- A signal without a handler ends the process, waits, or does nothing. -/
theorem raise_inert (h : (p.actions.get s).Inert) (caller : Option ThreadId) (budget : Nat) :
    (raise caller (budget + 1) s p).Halts
      fun q => q = p ∨ s ∈ p.blocked ∧ q = p.keepPending s := by
  cases hreserved : s.reserved with
  | true => exact .of_returned (raise_reserved hreserved budget) (.inl rfl)
  | false =>
    by_cases hblocked : s ∈ p.blocked
    · exact .of_returned (raise_blocked hreserved hblocked budget) (.inr ⟨hblocked, rfl⟩)
    · rw [raise_free hreserved hblocked]
      unfold takePlace
      rw [Run.state_bind]
      obtain haction | haction := h
      · rw [haction]
        dsimp only
        split
        · exact .inl rfl
        · trivial
      · rw [haction]
        exact .inl rfl

theorem raise_inert_free (h : (p.actions.get s).Inert) (hfree : s ∉ p.blocked)
    (caller : Option ThreadId) (budget : Nat) :
    (raise caller (budget + 1) s p).Halts (· = p) :=
  (raise_inert h caller budget).mono fun _ hq =>
    hq.resolve_right fun hwaits => hfree hwaits.1

/-- A delivery comes to an end if its handler does, and what has arrived meanwhile. -/
theorem raise_handled {M post : Process → Prop} {k : Handler} (hreserved : s.reserved = false)
    (hfree : s ∉ p.blocked) (haction : (p.actions.get s).disposition = .handled k)
    (hhandle : (handle (raise caller budget) caller s true k
      { p with
        blocked := if (p.actions.get s).flags.noDefer then p.blocked
          else s :: p.blocked }).Halts M)
    (hdeliver : ∀ q, M q → (deliverPending (raise caller budget) s
      { q with blocked := p.blocked }).Halts post) :
    (raise caller (budget + 1) s p).Halts post := by
  rw [raise_free hreserved hfree]
  unfold takePlace
  rw [Run.state_bind, haction]
  exact hhandle.bind fun _ q hq => hdeliver q hq

-- ════════════════════════════════════════════════════════════════════════
-- Writing
-- ════════════════════════════════════════════════════════════════════════

section Writing

variable {raise : Raise} {K : Process → Prop} (hK : ∀ {p q}, SamePipe p q → K p → K q)

include hK

theorem write_halts (fd : Int) (hp : K p)
    (hpipe : p.descriptors.Broken fd →
      (raise Signal.pipe p).Halts fun q => OnlyPipe p q ∧ K q) (text : Text) :
    (write raise fd text p).Halts fun q => OnlyPipe p q ∧ K q := by
  by_cases hbroken : p.descriptors.offer fd text = .pipeBroken
  · rw [write_of_broken hbroken]
    exact (hpipe (DescriptorTable.offer_eq_pipeBroken.mp hbroken).2).bind fun _ _ hq => hq
  · obtain ⟨result, hresult⟩ := exists_write_of_unbroken hbroken raise
    exact .of_returned hresult
      ⟨.offered p fd text, hK (p := p) ⟨rfl, rfl, DescriptorTable.kinds_reported _ _ _⟩ hp⟩

/-- A dump writes at most once, and it holds the guard meanwhile. -/
theorem dumpForSignal_halts (caller : Option ThreadId) (hp : K p)
    (hpipe : ∀ fd allThreads held, (p.userSignal s).target.load? = some (fd, allThreads) →
      p.descriptors.Broken fd → p.dumping.take? = some held →
        (raise Signal.pipe { p with dumping := held }).Halts
          fun q => OnlyPipe { p with dumping := held } q ∧ K q) :
    (dumpForSignal raise caller s p).Halts fun q => OnlyPipe p q ∧ K q := by
  unfold dumpForSignal
  rw [Run.state_bind]
  cases htarget : (p.userSignal s).target.load? with
  | none => exact ⟨.refl p, hp⟩
  | some target =>
    obtain ⟨fd, allThreads⟩ := target
    cases htake : p.dumping.take? with
    | none => exact ⟨.refl p, hp⟩
    | some held =>
      dsimp only
      rw [Run.change_bind]
      have hwrite := write_halts hK fd (p := { p with dumping := held })
        (hK (p := p) ⟨rfl, rfl, rfl⟩ hp)
        (fun hbroken => hpipe fd allThreads held htarget hbroken htake)
        (p.dumpPieces caller allThreads).text
      refine hwrite.bind fun _ q hq => ?_
      obtain ⟨⟨htwin, hkinds⟩, hkq⟩ := hq
      have hreleased : q.dumping.release = p.dumping := by
        rw [htwin.dumping]
        exact Exclusion.release_of_take? htake
      exact ⟨⟨{ htwin with dumping := hreleased }, hkinds⟩, hK (p := q) ⟨rfl, rfl, rfl⟩ hkq⟩

end Writing

-- ════════════════════════════════════════════════════════════════════════
-- Chaining
-- ════════════════════════════════════════════════════════════════════════

/-- What is set up for a signal is the same. -/
theorem Reverts.congr (h : Reverts s p) (huser : q.userSignal s = p.userSignal s) :
    Reverts s q :=
  ⟨h.changeable, huser ▸ h.installed, huser ▸ h.inert⟩

theorem Undeferred.congr (h : Undeferred s p) (haction : q.actions.get s = p.actions.get s)
    (huser : q.userSignal s = p.userSignal s) : Undeferred s q :=
  ⟨haction ▸ h.action, haction ▸ h.noDefer, fun hchain =>
    (h.reverts (huser ▸ hchain)).congr huser⟩

/-- The dumping handler that is installed for chaining does not block its own signal. -/
theorem Undeferred.of_dumpAction (haction : q.actions.get s = p.dumpAction true)
    (hreverts : Reverts s q) : Undeferred s q := by
  refine ⟨?_, ?_, fun _ => hreverts⟩
  · rw [haction]
    rfl
  · rw [haction]
    rfl

theorem userSignal_reinstalled (p : Process) (s u : Signal) :
    (p.reinstalled s).userSignal u = p.userSignal u := by
  unfold reinstalled
  split
  · exact userSignal_congr (trySetAction_userSignals _ _ _) u
  · rfl

/-- The saved action gives way to the dumping handler again. -/
theorem Reverts.undeferred (h : Reverts s p) : Undeferred s (p.reinstalled s) := by
  have huser := p.userSignal_reinstalled s s
  have haction : (p.reinstalled s).actions.get s = p.dumpAction true := by
    unfold reinstalled
    rw [if_pos h.installed, trySetAction_get, if_pos ⟨rfl, h.changeable⟩]
  exact .of_dumpAction haction (h.congr huser)

theorem Reverts.reinstate (h : Reverts s p) :
    Reverts s (p.reinstate (p.userSignal s).saved s) ∧
      ((p.reinstate (p.userSignal s).saved s).actions.get s).Inert := by
  refine ⟨h.congr (userSignal_congr (p.reinstate_userSignals s _) s), ?_⟩
  rw [reinstate_get, if_pos ⟨rfl, h.changeable, h.installed⟩]
  exact h.inert

/-- The saved action takes place, and then the dumping handler is installed again. -/
theorem Undeferred.passOn (h : Undeferred s p) (hfree : s ∉ p.blocked)
    (caller : Option ThreadId) (budget : Nat) :
    (passOn (raise caller (budget + 1)) s p).Halts fun q => Undeferred s q ∧
      (q = p ∨ q = (p.reinstate (p.userSignal s).saved s).reinstalled s) := by
  cases hchain : (p.userSignal s).chain with
  | false => exact .of_returned (passOn_unchained _ hchain) ⟨h, .inl rfl⟩
  | true =>
    obtain ⟨hback, hinert⟩ := (h.reverts hchain).reinstate
    have hfree' : s ∉ (p.reinstate (p.userSignal s).saved s).blocked := by
      rw [reinstate_blocked]
      exact hfree
    unfold Process.passOn
    rw [Run.state_bind, if_pos hchain, Run.change_bind]
    refine (raise_inert_free hinert hfree' caller budget).bind fun _ q hq => ?_
    subst hq
    exact ⟨hback.undeferred, .inr rfl⟩

/-- While the signal is blocked the saved action does not take place: the signal waits, and by then
the dumping handler does not block it any more. -/
theorem Reverts.passOn_waits (h : Reverts s p) (hchain : (p.userSignal s).chain)
    (hblocked : s ∈ p.blocked) (hpending : p.pending = []) (caller : Option ThreadId)
    (budget : Nat) :
    ∃ q, Process.passOn (raise caller (budget + 1)) s p = .returned () q ∧ Undeferred s q ∧
      q.blocked = p.blocked ∧ q.pending.Sublist [s] ∧
      (∀ u, s ≠ u → q.actions.get u = p.actions.get u) ∧
      (∀ u, q.userSignal u = p.userSignal u) ∧ q.descriptors = p.descriptors := by
  have hreserved := Signal.not_reserved_of_changeable s h.changeable
  obtain ⟨hback, -⟩ := h.reinstate
  have hothers : ∀ u, s ≠ u →
      (p.reinstate (p.userSignal s).saved s).actions.get u = p.actions.get u := by
    intro u hu
    rw [reinstate_get, if_neg fun hs => hu hs.1]
  obtain ⟨_, pending, hp, hsub⟩ := p.exists_reinstate s (p.userSignal s).saved
  set back := p.reinstate (p.userSignal s).saved s with hdef
  have hempty : back.pending = [] := by
    rw [hp]
    rw [hpending] at hsub
    exact List.sublist_nil.mp hsub
  have hkept : back.keepPending s = { back with pending := [s] } := by
    unfold keepPending
    rw [hempty, if_neg (by simp)]
    rfl
  have hraise : raise caller (budget + 1) s back = .returned () { back with pending := [s] } := by
    rw [← hkept]
    exact raise_blocked hreserved (by rw [hp]; exact hblocked) budget
  have hwaiting : Reverts s { back with pending := [s] } := hback.congr rfl
  obtain ⟨_, pending', hq, hsub'⟩ := exists_reinstalled { back with pending := [s] } s
  refine ⟨_, ?_, hwaiting.undeferred, ?_, ?_, fun u hu => ?_, fun u => ?_, ?_⟩
  · unfold Process.passOn
    rw [Run.state_bind, if_pos hchain, Run.change_bind, ← hdef, Run.bind_of_returned hraise]
    rfl
  · rw [hq, hp]
  · rw [hq]
    exact hsub'
  · unfold reinstalled
    rw [if_pos hwaiting.installed, trySetAction_get, if_neg fun hs => hu hs.1]
    exact hothers u hu
  · rw [userSignal_reinstalled]
    exact userSignal_congr (p.reinstate_userSignals s _) u
  · rw [hq, hp]

-- ════════════════════════════════════════════════════════════════════════
-- The signal of a broken pipe
-- ════════════════════════════════════════════════════════════════════════

section Pipe

theorem SamePipe.undeferred (h : SamePipe p q) (hp : Undeferred Signal.pipe p) :
    Undeferred Signal.pipe q := hp.congr h.action h.userSignal

theorem SamePipe.copesPipe (h : SamePipe p q) (hp : CopesPipe p) : CopesPipe q := by
  obtain ⟨haction, huser, hkinds⟩ := h
  cases hp with
  | inert hinert => exact .inert (haction ▸ hinert)
  | undeferred hundeferred => exact .undeferred (hundeferred.congr haction huser)
  | deferred hdump hchain hreverts =>
    exact .deferred (haction ▸ hdump) (huser ▸ hchain) (hreverts.congr huser)
  | apart hdump hchain htarget =>
    rw [← haction] at hdump
    rw [← huser] at hchain htarget
    exact .apart hdump hchain fun fd allThreads htake hbroken =>
      htarget fd allThreads htake ((DescriptorTable.broken_congr hkinds fd).mp hbroken)

theorem OnlyPipe.reinstate_reinstalled (hpending : Signal.pipe ∉ p.pending) (kept : SavedAction) :
    OnlyPipe p ((p.reinstate kept Signal.pipe).reinstalled Signal.pipe) := by
  have hback : OnlyPipe p (p.reinstate kept Signal.pipe) := .reinstate hpending kept
  exact hback.trans (.reinstalled (hback.twin.pending ▸ hpending))

/-- The signal has not arrived before, so none is left to deliver. -/
theorem raise_pipe_dumped {K : Process → Prop} (hK : ∀ {p q}, SamePipe p q → K p → K q)
    (hfree : Signal.pipe ∉ p.blocked) (hpending : Signal.pipe ∉ p.pending)
    (haction : (p.actions.get Signal.pipe).disposition = .handled .dump)
    (h : ∀ blocked, ((p.actions.get Signal.pipe).flags.noDefer → blocked = p.blocked) →
      (handleDump (raise caller budget) caller Signal.pipe { p with blocked := blocked }).Halts
        fun q => OnlyPipe { p with blocked := blocked } q ∧ K q) :
    (raise caller (budget + 1) Signal.pipe p).Halts fun q => OnlyPipe p q ∧ K q := by
  refine raise_handled (by decide) hfree haction (h _ fun hdefer => if_pos hdefer) ?_
  rintro q ⟨⟨htwin, hkinds⟩, hq⟩
  have habsent : Signal.pipe ∉ q.pending := htwin.pending ▸ hpending
  exact .of_returned (deliverPending_absent habsent)
    ⟨⟨{ htwin with blocked := rfl }, hkinds⟩, hK (p := q) ⟨rfl, rfl, rfl⟩ hq⟩

/-- Another arrival meanwhile finds the guard held. -/
theorem Undeferred.raise_of_nested (h : Undeferred Signal.pipe p)
    (hfree : Signal.pipe ∉ p.blocked) (hpending : Signal.pipe ∉ p.pending)
    (hnested : ∀ held, p.dumping.take? = some held →
      (raise caller (budget + 1) Signal.pipe { p with dumping := held }).Halts
        fun q => OnlyPipe { p with dumping := held } q ∧ Undeferred Signal.pipe q) :
    (raise caller (budget + 2) Signal.pipe p).Halts
      fun q => OnlyPipe p q ∧ Undeferred Signal.pipe q := by
  have hdump : (dumpForSignal (raise caller (budget + 1)) caller Signal.pipe p).Halts
      fun q => OnlyPipe p q ∧ Undeferred Signal.pipe q :=
    dumpForSignal_halts SamePipe.undeferred caller h
      fun _ _ held _ _ htake => hnested held htake
  refine raise_pipe_dumped SamePipe.undeferred hfree hpending h.action fun blocked hblocked => ?_
  obtain rfl := hblocked h.noDefer
  refine hdump.bind fun _ q ⟨hpq, hq⟩ => ?_
  refine (hq.passOn (hpq.twin.blocked ▸ hfree) caller budget).mono ?_
  rintro r ⟨hr, rfl | rfl⟩
  · exact ⟨hpq, hr⟩
  · exact ⟨hpq.trans (.reinstate_reinstalled (hpq.twin.pending ▸ hpending) _), hr⟩

theorem Undeferred.raise (h : Undeferred Signal.pipe p) (hfree : Signal.pipe ∉ p.blocked)
    (hpending : Signal.pipe ∉ p.pending) (caller : Option ThreadId) (budget : Nat) :
    (Process.raise caller (budget + 3) Signal.pipe p).Halts
      fun q => OnlyPipe p q ∧ Undeferred Signal.pipe q := by
  refine h.raise_of_nested hfree hpending fun held htake => ?_
  have hheld : Undeferred Signal.pipe { p with dumping := held } := h.congr rfl rfl
  have htaken := Exclusion.take?_of_take? htake
  exact hheld.raise_of_nested hfree hpending fun held' htake' =>
    absurd (htaken.symm.trans htake') nofun

theorem Undeferred.raise_copes (h : Undeferred Signal.pipe p) (hfree : Signal.pipe ∉ p.blocked)
    (hpending : Signal.pipe ∉ p.pending) (caller : Option ThreadId) (budget : Nat) :
    (Process.raise caller (budget + 3) Signal.pipe p).Halts
      fun q => OnlyPipe p q ∧ CopesPipe q :=
  (h.raise hfree hpending caller budget).mono fun _ ⟨hpq, hq⟩ => ⟨hpq, .undeferred hq⟩

/-- The signal that chaining raises waits until the handler has returned. By then the handler does
not block it any more. -/
theorem Reverts.raise_deferred (h : Reverts Signal.pipe p)
    (haction : (p.actions.get Signal.pipe).disposition = .handled .dump)
    (hchain : (p.userSignal Signal.pipe).chain)
    (hdefer : ¬ (p.actions.get Signal.pipe).flags.noDefer) (hfree : Signal.pipe ∉ p.blocked)
    (hpending : Signal.pipe ∉ p.pending) (caller : Option ThreadId) (budget : Nat) :
    (raise caller (budget + 4) Signal.pipe p).Halts fun q => OnlyPipe p q ∧ CopesPipe q := by
  obtain ⟨descriptors, hhandle, hkinds⟩ :=
    handleDump_deferred (p := { p with blocked := Signal.pipe :: p.blocked })
      List.mem_cons_self hchain h.installed hpending caller (budget + 2)
  set q : Process := { p with
    descriptors := descriptors
    actions := p.actions.put Signal.pipe (p.dumpAction true) } with hq
  have hdump : Undeferred Signal.pipe q := .of_dumpAction
    ((SignalTable.get_put _ _ _ _).trans (if_pos rfl)) (h.congr rfl)
  have honly : OnlyPipe p q := by
    refine ⟨⟨fun s hs => ?_, fun _ _ => rfl, rfl, rfl, rfl, rfl, rfl, rfl⟩, hkinds⟩
    exact (SignalTable.get_put _ _ _ _).trans (if_neg hs.symm)
  have herase : (p.pending ++ [Signal.pipe]).erase Signal.pipe = p.pending := by
    rw [List.erase_append_right _ hpending]
    simp
  refine raise_handled (M := fun r => r = { q with
      blocked := Signal.pipe :: p.blocked
      pending := p.pending ++ [Signal.pipe] }) (by decide) hfree haction ?_ ?_
  · rw [if_neg hdefer]
    exact .of_returned hhandle rfl
  · rintro r rfl
    unfold deliverPending
    rw [Run.state_bind, if_pos (by simp [hfree]), Run.change_bind]
    dsimp only
    rw [herase]
    exact (hdump.raise_copes hfree hpending caller budget).mono fun r ⟨hqr, hr⟩ =>
      ⟨honly.trans hqr, hr⟩

/-- A broken pipe ends the process or comes back to what is written, and the next one does too. -/
theorem raise_pipe_halts (h : CopesPipe p) (hfree : Signal.pipe ∉ p.blocked)
    (hpending : Signal.pipe ∉ p.pending) (caller : Option ThreadId) (budget : Nat) :
    (raise caller (budget + 4) Signal.pipe p).Halts fun q => OnlyPipe p q ∧ CopesPipe q := by
  cases h with
  | inert hinert =>
    refine (raise_inert_free hinert hfree caller (budget + 3)).mono ?_
    rintro q rfl
    exact ⟨.refl q, .inert hinert⟩
  | undeferred hundeferred => exact hundeferred.raise_copes hfree hpending caller (budget + 1)
  | deferred haction hchain hreverts =>
    by_cases hdefer : (p.actions.get Signal.pipe).flags.noDefer
    · exact Undeferred.raise_copes ⟨haction, hdefer, fun _ => hreverts⟩ hfree hpending caller
        (budget + 1)
    · exact hreverts.raise_deferred haction hchain hdefer hfree hpending caller budget
  | apart haction hchain htarget =>
    refine raise_pipe_dumped SamePipe.copesPipe hfree hpending haction fun blocked _ => ?_
    have hdump : (dumpForSignal (raise caller (budget + 3)) caller Signal.pipe
        { p with blocked := blocked }).Halts
          fun q => OnlyPipe { p with blocked := blocked } q ∧
            (q.userSignal Signal.pipe).chain = false ∧ CopesPipe q :=
      dumpForSignal_halts (fun hsame hq => ⟨hsame.userSignal ▸ hq.1, hsame.copesPipe hq.2⟩) caller
        ⟨hchain, .apart haction hchain htarget⟩
        fun fd allThreads _ htake hbroken => absurd hbroken (htarget fd allThreads htake)
    refine hdump.bind fun _ q ⟨hpq, hq, hcopes⟩ => ?_
    exact .of_returned (passOn_unchained _ hq) ⟨hpq, hcopes⟩

end Pipe

-- ════════════════════════════════════════════════════════════════════════
-- Any signal
-- ════════════════════════════════════════════════════════════════════════

theorem deliverPending_halts {raise : Raise} {post : Process → Prop}
    (harrived : s ∈ p.pending → (raise s { p with pending := p.pending.erase s }).Halts post)
    (hnone : post p) : (deliverPending raise s p).Halts post := by
  unfold deliverPending
  rw [Run.state_bind]
  split
  · next hwaiting =>
    rw [Bool.and_eq_true, List.contains_iff_mem] at hwaiting
    exact harrived hwaiting.1
  · exact hnone

/-- A report may be written to a broken pipe, and it leaves the saved actions alone. -/
theorem reportNamed_halts (h : CopesPipe p) (hfree : Signal.pipe ∉ p.blocked)
    (hpending : Signal.pipe ∉ p.pending) (caller : Option ThreadId) (budget : Nat) (s : Signal) :
    (reportNamed (raise caller (budget + 4)) caller s p).Halts
      fun q => q.faults.saved = p.faults.saved := by
  unfold reportNamed
  cases s.faultName? with
  | none => exact rfl
  | some name =>
    dsimp only
    unfold reportFault
    rw [Run.state_bind]
    split
    · exact rfl
    · rw [Run.change_bind]
      set spent := p.changeFaults fun f => { f with spent := true } with hdef
      have hspent : CopesPipe spent := SamePipe.copesPipe (p := p) ⟨rfl, rfl, rfl⟩ h
      cases p.faults.target.load? with
      | none => exact rfl
      | some target =>
        have hwrite := write_halts SamePipe.copesPipe target.1 hspent
          (fun _ => raise_pipe_halts hspent hfree hpending caller budget)
          (p.reportPieces (faultHeader name p) caller target.2).text
        refine hwrite.bind fun _ q ⟨hpq, _⟩ => ?_
        show q.faults.saved = p.faults.saved
        rw [hpq.twin.faults]
        rfl

/-- After its report the handler puts the saved action back, and in the end the default one. -/
theorem handleFault_halts (hs : s.faultName?.isSome) (hmark : (p.faults.saved.get s).installed)
    (hinert : (p.faults.saved.get s).previous.Inert) (h : CopesPipe p)
    (hfree : Signal.pipe ∉ p.blocked) (hpending : Signal.pipe ∉ p.pending)
    (caller : Option ThreadId) (budget : Nat) :
    (handleFault (raise caller (budget + 4)) caller s true p).Halts
      fun q => (q.actions.get s).Inert := by
  have hkeeps : ∀ {p q : Process}, q = p ∨ s ∈ p.blocked ∧ q = p.keepPending s →
      q.actions = p.actions := by
    rintro p q (rfl | ⟨-, rfl⟩)
    · rfl
    · rw [keepPending_eq]
  rw [handleFault_eq]
  refine (reportNamed_halts h hfree hpending caller budget s).bind fun _ r hr => ?_
  rw [Run.change_bind, if_pos hs]
  have hback : ((r.uninstallFault s).actions.get s).Inert := by
    rw [uninstallFault_get hs (hr ▸ hmark), hr]
    exact hinert
  refine (raise_inert hback caller (budget + 3)).bind fun _ r' _ => ?_
  rw [if_pos rfl, Run.change_bind]
  have hdefault : ((r'.trySetAction s surrenderedAction).actions.get s).Inert := by
    rw [trySetAction_get, if_pos ⟨rfl, Signal.changeable_of_fault s hs⟩]
    exact .inl rfl
  refine (raise_inert hdefault caller (budget + 3)).mono fun q hq => ?_
  rw [hkeeps hq]
  exact hdefault

theorem raise_report_halts (hs : s.faultName?.isSome) (hblocked : s ∉ p.blocked)
    (haction : (p.actions.get s).disposition = .handled .report)
    (hmark : (p.faults.saved.get s).installed) (hinert : (p.faults.saved.get s).previous.Inert)
    (h : CopesPipe p) (hfree : Signal.pipe ∉ p.blocked) (hpending : Signal.pipe ∉ p.pending)
    (caller : Option ThreadId) (budget : Nat) :
    (raise caller (budget + 5) s p).Halts fun _ => True := by
  refine raise_handled (M := fun q => (q.actions.get s).Inert)
    (Signal.not_reserved_of_fault s hs) hblocked haction ?_ fun q hq => ?_
  · set blocked := if (p.actions.get s).flags.noDefer then p.blocked else s :: p.blocked
      with hblocks
    have hfree' : Signal.pipe ∉ blocked := by
      have hne : Signal.pipe ≠ s := by
        rintro rfl
        exact absurd hs (by decide)
      rw [hblocks]
      split
      · exact hfree
      · exact fun hmem => hfree ((List.mem_cons.mp hmem).resolve_left hne)
    exact handleFault_halts (p := { p with blocked := blocked }) hs hmark hinert
      (SamePipe.copesPipe (p := p) ⟨rfl, rfl, rfl⟩ h) hfree' hpending caller budget
  · refine deliverPending_halts (fun _ => ?_) trivial
    refine Outcome.Halts.mono (raise_inert ?_ caller (budget + 3)) fun _ _ => trivial
    exact hq

/-- A dump may be written to a broken pipe. -/
theorem dumpForSignal_copes (h : CopesPipe p) (hfree : Signal.pipe ∉ p.blocked)
    (hpending : Signal.pipe ∉ p.pending) (caller : Option ThreadId) (budget : Nat) (s : Signal) :
    (dumpForSignal (raise caller (budget + 4)) caller s p).Halts
      fun q => OnlyPipe p q ∧ CopesPipe q :=
  dumpForSignal_halts SamePipe.copesPipe caller h fun _ _ held _ _ _ =>
    raise_pipe_halts (p := { p with dumping := held })
      (SamePipe.copesPipe (p := p) ⟨rfl, rfl, rfl⟩ h) hfree hpending caller budget

/-- A dump of a process at rest, whose signal is not blocked meanwhile. -/
theorem Undeferred.raise_other (h : Undeferred s p) (hs : s ≠ Signal.pipe)
    (hreserved : s.reserved = false) (hidle : Idle p) (hcopes : CopesPipe p)
    (caller : Option ThreadId) (budget : Nat) :
    (Process.raise caller (budget + 5) s p).Halts fun _ => True := by
  refine raise_handled (M := fun q => q.pending = []) hreserved (hidle.not_blocked s) h.action ?_
    fun q hq => ?_
  · rw [if_pos h.noDefer]
    have hdump := dumpForSignal_copes hcopes (hidle.not_blocked _) (hidle.not_pending _) caller
      budget s
    refine hdump.bind fun _ q ⟨hpq, _⟩ => ?_
    have hq : Undeferred s q := h.congr (hpq.twin.actions s hs) (hpq.twin.userSignals s hs)
    have hpending : q.pending = [] := hpq.twin.pending.trans hidle.pending
    refine (hq.passOn (hpq.twin.blocked ▸ (hidle.not_blocked s)) caller (budget + 3)).mono ?_
    rintro r ⟨-, rfl | rfl⟩
    · exact hpending
    · obtain ⟨_, pending, hback, hsub⟩ := q.exists_reinstate s (q.userSignal s).saved
      obtain ⟨_, pending', hinstalled, hsub'⟩ :=
        (q.reinstate (q.userSignal s).saved s).exists_reinstalled s
      rw [hpending] at hsub
      rw [hback, List.sublist_nil.mp hsub] at hsub'
      rw [hinstalled]
      exact List.sublist_nil.mp hsub'
  · exact deliverPending_halts (fun hmem => absurd (hq ▸ hmem) List.not_mem_nil) trivial

/-- While its signal is blocked the handler leaves nothing to deliver, or one more arrival, for which
it does not block the signal any more. -/
theorem handleDump_blocked (hreverts : (p.userSignal s).chain → Reverts s p) (hs : s ≠ Signal.pipe)
    (hblocked : s ∈ p.blocked) (hfree : Signal.pipe ∉ p.blocked) (hpending : p.pending = [])
    (hcopes : CopesPipe p) (caller : Option ThreadId) (budget : Nat) :
    (handleDump (raise caller (budget + 4)) caller s p).Halts fun q =>
      q.pending = [] ∨ Undeferred s q ∧ q.pending.Sublist [s] ∧ CopesPipe q := by
  have habsent : Signal.pipe ∉ p.pending := by simp [hpending]
  refine (dumpForSignal_copes hcopes hfree habsent caller budget s).bind fun _ q ⟨hpq, hq⟩ => ?_
  have huser : q.userSignal s = p.userSignal s := hpq.twin.userSignals s hs
  have hpending : q.pending = [] := hpq.twin.pending.trans hpending
  cases hchain : (q.userSignal s).chain with
  | false => exact .of_returned (passOn_unchained _ hchain) (.inl hpending)
  | true =>
    have hback : Reverts s q := (hreverts (huser ▸ hchain)).congr huser
    have hblocked : s ∈ q.blocked := hpq.twin.blocked ▸ hblocked
    obtain ⟨r, hr, hinstalled, -, hwaiting, hactions, husers, hdescriptors⟩ :=
      hback.passOn_waits hchain hblocked hpending caller (budget + 3)
    have hsame : SamePipe q r :=
      ⟨hactions _ hs, husers _, congrArg DescriptorTable.kinds hdescriptors⟩
    exact .of_returned hr (.inr ⟨hinstalled, hwaiting, hsame.copesPipe hq⟩)

/-- If the signal is blocked meanwhile, it is dumped for once more at most. -/
theorem raise_dump_halts (haction : (p.actions.get s).disposition = .handled .dump)
    (hreverts : (p.userSignal s).chain → Reverts s p) (hs : s ≠ Signal.pipe)
    (hreserved : s.reserved = false) (hidle : Idle p) (hcopes : CopesPipe p)
    (caller : Option ThreadId) (budget : Nat) :
    (raise caller (budget + 6) s p).Halts fun _ => True := by
  by_cases hdefer : (p.actions.get s).flags.noDefer
  · exact Undeferred.raise_other ⟨haction, hdefer, hreverts⟩ hs hreserved hidle hcopes caller
      (budget + 1)
  · have hfree : Signal.pipe ∉ s :: p.blocked := fun hmem =>
      hidle.not_blocked _ ((List.mem_cons.mp hmem).resolve_left (Ne.symm hs))
    refine raise_handled (M := fun q => q.pending = [] ∨
      Undeferred s q ∧ q.pending.Sublist [s] ∧ CopesPipe q) hreserved (hidle.not_blocked s) haction
      ?_ fun q hq => ?_
    · rw [if_neg hdefer]
      exact handleDump_blocked (p := { p with blocked := s :: p.blocked })
        (fun hchain => (hreverts hchain).congr rfl) hs List.mem_cons_self hfree hidle.pending
        (SamePipe.copesPipe (p := p) ⟨rfl, rfl, rfl⟩ hcopes) caller (budget + 1)
    · obtain hnone | ⟨hinstalled, hwaiting, hcopes⟩ := hq
      · exact deliverPending_halts (fun hmem => absurd (hnone ▸ hmem) List.not_mem_nil) trivial
      · refine deliverPending_halts (fun _ => ?_) trivial
        have hlast : q.pending.erase s = [] := by
          have hsub := hwaiting.erase s
          rw [List.erase_cons_head] at hsub
          exact List.sublist_nil.mp hsub
        exact Undeferred.raise_other
          (p := { q with blocked := p.blocked, pending := q.pending.erase s })
          (hinstalled.congr rfl rfl) hs hreserved ⟨hidle.blocked, hlast⟩
          (SamePipe.copesPipe (p := q) ⟨rfl, rfl, rfl⟩ hcopes) caller budget

-- ════════════════════════════════════════════════════════════════════════
-- Orderly states
-- ════════════════════════════════════════════════════════════════════════

namespace Orderly

variable (h : Orderly p) (hidle : Idle p)
  (hchangeable : ∀ s, (p.userSignal s).saved.installed → s.actionChangeable)
  (hfatal : ∀ s, (p.faults.saved.get s).installed → s.faultName?.isSome)

include h

theorem reverts (hchangeable : ∀ s, (p.userSignal s).saved.installed → s.actionChangeable)
    (haction : (p.actions.get s).disposition = .handled .dump)
    (hchain : (p.userSignal s).chain) : Reverts s p :=
  have hmark := h.dump s haction hchain
  ⟨hchangeable s hmark, hmark, h.users s hmark⟩

include hchangeable hfatal

theorem copesPipe : CopesPipe p := by
  obtain hinert | hreport | hdump := h.handlers Signal.pipe
  · exact .inert hinert
  · exact absurd (hfatal _ (h.report _ hreport)) (by decide)
  · cases hchain : (p.userSignal Signal.pipe).chain with
    | true => exact .deferred hdump hchain (h.reverts hchangeable hdump hchain)
    | false =>
      obtain hchained | hdefer | htarget := h.pipe hdump
      · exact absurd (hchain.symm.trans hchained) (by decide)
      · refine .undeferred ⟨hdump, hdefer, fun hchained => ?_⟩
        exact absurd (hchain.symm.trans hchained) (by decide)
      · exact .apart hdump hchain htarget

include hidle

/-- Whatever signal is sent, the handlers come to an end. -/
theorem raise_halts (caller : Option ThreadId) (budget : Nat) (s : Signal) :
    (raise caller (budget + 6) s p).Halts fun _ => True := by
  have hcopes := h.copesPipe hchangeable hfatal
  cases hreserved : s.reserved with
  | true => exact .of_returned (raise_reserved hreserved (budget + 5)) trivial
  | false =>
    obtain hinert | hreport | hdump := h.handlers s
    · exact (raise_inert hinert caller (budget + 5)).mono fun _ _ => trivial
    · have hmark := h.report s hreport
      exact raise_report_halts (hfatal s hmark) (hidle.not_blocked s) hreport hmark (h.faults s hmark)
        hcopes (hidle.not_blocked _) (hidle.not_pending _) caller (budget + 1)
    · by_cases hs : s = Signal.pipe
      · subst hs
        exact (raise_pipe_halts hcopes (hidle.not_blocked _) (hidle.not_pending _) caller
          (budget + 2)).mono fun _ _ => trivial
      · exact raise_dump_halts hdump (h.reverts hchangeable hdump) hs hreserved hidle hcopes
          caller budget

/-- A dump on request comes to an end too, wherever it goes. -/
theorem dump_halts (caller : Option ThreadId) (sink : Sink) (allThreads : Bool) :
    (Process.dump caller sink allThreads p).Halts fun _ => True := by
  have hcopes := h.copesPipe hchangeable hfatal
  unfold Process.dump
  rw [Run.state_bind]
  cases p.descriptors.checkSink sink.descriptor with
  | error failure => trivial
  | ok _ =>
    have hwrite := write_halts SamePipe.copesPipe sink.descriptor hcopes
      (fun _ => raise_pipe_halts hcopes (hidle.not_blocked _) (hidle.not_pending _) caller 996)
      (p.dumpPieces caller allThreads).text
    exact hwrite.bind fun _ _ _ => trivial

end Orderly

end Process

end CrashTrace
