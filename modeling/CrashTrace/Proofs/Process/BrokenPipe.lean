import CrashTrace.Proofs.Process.Lockstep
import CrashTrace.Proofs.Process.Retained
import CrashTrace.Proofs.Process.Separate
import CrashTrace.Proofs.Process.UserSignal

/-!
# Broken pipes that are borne

A write to a pipe that nobody reads sends a signal in the middle of a report. Depending on the
action of that signal the process dies of it, or goes round for ever, or comes back to the report.
It comes back if the signal is ignored, if a handler of the observed program returns without
raising anything, and also if the signal is registered for dumps, unless its own dumps go to a
broken pipe too. With chaining even these are borne, since the action that was there before takes
over.

## Main definitions

- `Process.Twin` — two states agree in what concerns some signals
- `Process.BearsPipe` — the actions that come back to the report
- `Process.OnlyPipe` — nothing has changed but what concerns the signal of a broken pipe

## Main results

- `Process.raise_pipe_borne`

## Design notes

With chaining three deliveries run inside one another: the signal, the one that its dump sends, and
the one that takes place for the saved action. The dump of the second one is left out, because the
first one holds the guard.

The action in force may still block its signal, if the registration was made without chaining and
chaining was asked for later. Then the signals of the dump and of the saved action wait until the
handler has returned, as one arrival, and by then the dumping handler that does not block its signal
is installed.
-/

namespace CrashTrace

namespace Process

variable {p q r : Process} {s : Signal} {S : Signal → Prop}

/-- Two states agree in what concerns some signals, and in all that no signal owns. -/
structure Twin (S : Signal → Prop) (p q : Process) : Prop where
  actions : ∀ s, S s → q.actions.get s = p.actions.get s
  userSignals : ∀ s, S s → q.userSignal s = p.userSignal s
  faults : q.faults = p.faults
  blocked : q.blocked = p.blocked
  pending : q.pending = p.pending
  dumping : q.dumping = p.dumping
  registry : q.registry = p.registry
  interpreter : q.interpreter = p.interpreter

/-- Writing to a broken pipe is borne: the signal that it sends comes back to the write, also the
next time. -/
inductive BearsPipe (p : Process) : Prop
  /-- The signal does nothing, or a handler returns without raising anything. If that handler
  unregisters the signal, the same holds for the saved action. -/
  | passes : (p.actions.get Signal.pipe).Passes Signal.pipe →
      ((p.actions.get Signal.pipe).Unregisters → (p.userSignal Signal.pipe).saved.installed →
        (p.userSignal Signal.pipe).saved.previous.Passes Signal.pipe) → BearsPipe p
  /-- There is a dump for the signal, and it does not go to a broken pipe. -/
  | dumps : (p.actions.get Signal.pipe).disposition = .handled .dump →
      (p.userSignal Signal.pipe).chain = false →
      (∀ fd allThreads, (p.userSignal Signal.pipe).target.load? = some (fd, allThreads) →
        ¬ p.descriptors.Broken fd) → BearsPipe p
  /-- There is a dump for the signal wherever it goes, and then the saved action, which does nothing
  or returns without raising anything. -/
  | chains : (p.actions.get Signal.pipe).disposition = .handled .dump →
      (p.userSignal Signal.pipe).chain → (p.userSignal Signal.pipe).saved.installed →
      (p.userSignal Signal.pipe).saved.previous.Passes Signal.pipe → BearsPipe p

/-- Nothing has changed but what concerns the signal of a broken pipe, and what descriptors have
received. -/
structure OnlyPipe (p q : Process) : Prop where
  twin : Twin (· ≠ Signal.pipe) p q
  kinds : q.descriptors.kinds = p.descriptors.kinds

/-- A broken pipe is borne and its signal is not waiting. -/
structure Bears (p : Process) : Prop where
  borne : BearsPipe p
  blocked : Signal.pipe ∉ p.blocked
  pending : Signal.pipe ∉ p.pending

/-- The signal of a broken pipe is registered with chaining, or has been unregistered since. -/
structure Chained (p : Process) : Prop where
  chain : (p.userSignal Signal.pipe).chain
  registered : (p.userSignal Signal.pipe).saved.installed →
    (p.userSignal Signal.pipe).saved.previous.Passes Signal.pipe ∧
      (p.actions.get Signal.pipe).disposition = .handled .dump ∧
      (p.actions.get Signal.pipe).flags.noDefer
  unregistered : (p.userSignal Signal.pipe).saved.installed = false →
    (p.actions.get Signal.pipe).Passes Signal.pipe

/-- The signal of a broken pipe has been registered with chaining, and now the saved action is in
force. -/
structure Yields (p : Process) : Prop where
  chain : (p.userSignal Signal.pipe).chain
  passes : (p.actions.get Signal.pipe).Passes Signal.pipe
  previous : (p.userSignal Signal.pipe).saved.installed →
    (p.userSignal Signal.pipe).saved.previous.Passes Signal.pipe

/-- What decides whether a broken pipe is borne is the same. -/
structure SamePipe (p q : Process) : Prop where
  action : q.actions.get Signal.pipe = p.actions.get Signal.pipe
  userSignal : q.userSignal Signal.pipe = p.userSignal Signal.pipe
  kinds : q.descriptors.kinds = p.descriptors.kinds

/-- A run returns, has changed nothing but what concerns the signal of a broken pipe, and has kept
to `K`. -/
def Returns (K : Process → Prop) (run : Run Unit) (p : Process) : Prop :=
  ∃ q, run p = .returned () q ∧ OnlyPipe p q ∧ K q

namespace Twin

theorem refl (S : Signal → Prop) (p : Process) : Twin S p p :=
  ⟨fun _ _ => rfl, fun _ _ => rfl, rfl, rfl, rfl, rfl, rfl, rfl⟩

theorem symm (h : Twin S p q) : Twin S q p :=
  ⟨fun s hs => (h.actions s hs).symm, fun s hs => (h.userSignals s hs).symm, h.faults.symm,
    h.blocked.symm, h.pending.symm, h.dumping.symm, h.registry.symm, h.interpreter.symm⟩

theorem trans (hpq : Twin S p q) (hqr : Twin S q r) : Twin S p r :=
  ⟨fun s hs => (hqr.actions s hs).trans (hpq.actions s hs),
    fun s hs => (hqr.userSignals s hs).trans (hpq.userSignals s hs), hqr.faults.trans hpq.faults,
    hqr.blocked.trans hpq.blocked, hqr.pending.trans hpq.pending, hqr.dumping.trans hpq.dumping,
    hqr.registry.trans hpq.registry, hqr.interpreter.trans hpq.interpreter⟩

end Twin

/-- The signal of a broken pipe is unregistered by its own handler, which is counted. -/
theorem passed_pipe_gone {a : Action} (ha : a.Unregisters) (p : Process) :
    p.passed Signal.pipe a =
      { p with calls := p.calls.put Signal.pipe (p.calls.get Signal.pipe + 1) }.patch Signal.pipe
        (Patch.unregister Signal.pipe Signal.pipe.number (p.actions.get Signal.pipe)
          (p.userSignal Signal.pipe)) := by
  have hran : p.passed Signal.pipe a = p.ran Signal.pipe .unregisters := by
    unfold passed
    rw [show a.disposition = _ from ha]
  rw [hran]
  exact congrArg Prod.snd
    (carryOut_ordinary (c := .unregister Signal.pipe.number) (s := Signal.pipe) rfl rfl
      { p with calls := p.calls.put Signal.pipe (p.calls.get Signal.pipe + 1) })

namespace OnlyPipe

theorem refl (p : Process) : OnlyPipe p p := ⟨.refl _ p, rfl⟩

theorem trans (hpq : OnlyPipe p q) (hqr : OnlyPipe q r) : OnlyPipe p r :=
  ⟨hpq.twin.trans hqr.twin, hqr.kinds.trans hpq.kinds⟩

theorem offered (p : Process) (fd : Int) (text : Text) : OnlyPipe p (p.offered fd text) :=
  ⟨⟨fun _ _ => rfl, fun _ _ => rfl, rfl, rfl, rfl, rfl, rfl, rfl⟩,
    DescriptorTable.kinds_reported _ _ _⟩

/-- The signal is not pending, so nothing is thrown away with it. -/
theorem patch (hpending : Signal.pipe ∉ p.pending) (x : Patch) :
    OnlyPipe p (p.patch Signal.pipe x) := by
  have hkept : (p.patch Signal.pipe x).pending = p.pending := by
    unfold Process.patch
    dsimp only
    split
    · exact List.filter_eq_self.mpr fun s hs =>
        decide_eq_true fun hsame => hpending (hsame ▸ hs)
    · rfl
  refine ⟨⟨fun s hs => ?_, fun s hs => ?_, rfl, rfl, hkept, rfl, rfl, rfl⟩, rfl⟩
  · exact (SignalTable.get_put _ _ _ _).trans (if_neg hs.symm)
  · rw [userSignal_patch, if_neg hs.symm]

theorem trySetAction (hpending : Signal.pipe ∉ p.pending) (a : Action) :
    OnlyPipe p (p.trySetAction Signal.pipe a) := by
  have hpatch : p.trySetAction Signal.pipe a = p.patch Signal.pipe
      ⟨.ok none, a, p.userSignal Signal.pipe, a.discards Signal.pipe, []⟩ := by
    rw [trySetAction_of_changeable p a (by decide)]
    simp only [Process.patch, userSignal, SignalTable.put_get, List.append_nil]
    rfl
  rw [hpatch]
  exact patch hpending _

theorem reinstate (hpending : Signal.pipe ∉ p.pending) (kept : SavedAction) :
    OnlyPipe p (p.reinstate kept Signal.pipe) := by
  unfold Process.reinstate
  split
  · exact trySetAction hpending _
  · exact refl p

theorem reinstalled (hpending : Signal.pipe ∉ p.pending) :
    OnlyPipe p (p.reinstalled Signal.pipe) := by
  unfold Process.reinstalled
  split
  · exact trySetAction hpending _
  · exact refl p

/-- An action that passes concerns its own signal only. -/
theorem passed (hpending : Signal.pipe ∉ p.pending) {a : Action} (ha : a.Passes Signal.pipe) :
    OnlyPipe p (p.passed Signal.pipe a) := by
  have hcounted : ∀ calls, OnlyPipe p { p with calls := calls } := fun _ =>
    ⟨⟨fun _ _ => rfl, fun _ _ => rfl, rfl, rfl, rfl, rfl, rfl, rfl⟩, rfl⟩
  by_cases hgone : a.Unregisters
  · rw [passed_pipe_gone hgone]
    refine (hcounted _).trans (OnlyPipe.patch ?_ _)
    exact hpending
  · rw [passed_of_stays ha hgone]
    exact hcounted _

end OnlyPipe

namespace SamePipe

theorem bearsPipe (h : SamePipe p q) (hp : BearsPipe p) : BearsPipe q := by
  obtain ⟨haction, huser, hkinds⟩ := h
  cases hp with
  | passes ha hgone =>
    rw [← haction] at ha hgone
    rw [← huser] at hgone
    exact .passes ha hgone
  | dumps ha hchain htarget =>
    rw [← haction] at ha
    rw [← huser] at hchain htarget
    exact .dumps ha hchain fun fd allThreads htake hbroken =>
      htarget fd allThreads htake ((DescriptorTable.broken_congr hkinds fd).mp hbroken)
  | chains ha hchain hmark hprevious =>
    rw [← haction] at ha
    rw [← huser] at hchain hmark hprevious
    exact .chains ha hchain hmark hprevious

theorem chained (h : SamePipe p q) (hp : Chained p) : Chained q := by
  obtain ⟨hchain, hregistered, hunregistered⟩ := hp
  rw [← h.userSignal] at hchain hregistered hunregistered
  rw [← h.action] at hregistered hunregistered
  exact ⟨hchain, hregistered, hunregistered⟩

end SamePipe

theorem Chained.bearsPipe (h : Chained p) : BearsPipe p := by
  cases hmark : (p.userSignal Signal.pipe).saved.installed with
  | true =>
    obtain ⟨hprevious, haction, -⟩ := h.registered hmark
    exact .chains haction h.chain hmark hprevious
  | false =>
    refine .passes (h.unregistered hmark) fun _ hmarked => ?_
    exact absurd (hmark.symm.trans hmarked) (by decide)

-- ════════════════════════════════════════════════════════════════════════
-- Dumps
-- ════════════════════════════════════════════════════════════════════════

section Dumps

variable {K L : Process → Prop} {f g : Run Unit} {raise : Raise}

/-- What a dump for a signal comes to: there is none, or it is offered to its sink, or it sends a
signal because the sink is a broken pipe. -/
inductive Dumps (raise : Raise) (s : Signal) (p : Process) (o : Outcome Unit) : Prop
  | skipped : o = .returned () p → Dumps raise s p o
  | offered (fd : Int) (text : Text) : o = .returned () (p.offered fd text) → Dumps raise s p o
  | sends (fd : Int) (allThreads : Bool) (held : Exclusion) :
      (p.userSignal s).target.load? = some (fd, allThreads) → p.descriptors.Broken fd →
      p.dumping.take? = some held →
      (∀ q, raise Signal.pipe { p with dumping := held } = .returned () q →
        o = .returned () { q with dumping := q.dumping.release }) → Dumps raise s p o

theorem dumpForSignal_dumps (raise : Raise) (caller : Option ThreadId) (s : Signal) (p : Process) :
    Dumps raise s p (dumpForSignal raise caller s p) := by
  unfold dumpForSignal
  rw [Run.state_bind]
  cases htarget : (p.userSignal s).target.load? with
  | none => exact .skipped rfl
  | some target =>
    obtain ⟨fd, allThreads⟩ := target
    cases htake : p.dumping.take? with
    | none => exact .skipped rfl
    | some held =>
      dsimp only
      rw [Run.change_bind]
      by_cases hbroken : p.descriptors.offer fd (p.dumpPieces caller allThreads).text = .pipeBroken
      · have hwrite := write_of_broken (p := { p with dumping := held }) hbroken raise
        refine .sends fd allThreads held htarget (DescriptorTable.offer_eq_pipeBroken.mp hbroken).2
          htake fun q hq => ?_
        rw [Run.bind_of_returned (hwrite.trans (Run.bind_of_returned hq _))]
        rfl
      · obtain ⟨result, hwrite⟩ :=
          exists_write_of_unbroken (p := { p with dumping := held }) hbroken raise
        refine .offered fd (p.dumpPieces caller allThreads).text ?_
        rw [Run.bind_of_returned hwrite, Run.change_apply]
        simp only [Process.offered, Exclusion.release_of_take? htake]

theorem Returns.bind (hf : Returns K f p) (hg : ∀ q, OnlyPipe p q → K q → Returns L g q) :
    Returns L (f >>= fun _ => g) p := by
  obtain ⟨q, hq, hpq, hkq⟩ := hf
  obtain ⟨r, hr, hqr, hlr⟩ := hg q hpq hkq
  exact ⟨r, (Run.bind_of_returned hq _).trans hr, hpq.trans hqr, hlr⟩

variable (hK : ∀ {p q}, SamePipe p q → K p → K q)

include hK

/-- The dump for the signal of a broken pipe may go to a broken pipe itself, and then it sends the
signal once more while it holds the guard. -/
theorem dumpForSignal_pipe (caller : Option ThreadId) (hp : K p)
    (hnested : ∀ fd allThreads held,
      (p.userSignal Signal.pipe).target.load? = some (fd, allThreads) →
      p.descriptors.Broken fd → p.dumping.take? = some held →
        Returns K (raise Signal.pipe) { p with dumping := held }) :
    Returns K (dumpForSignal raise caller Signal.pipe) p := by
  cases dumpForSignal_dumps raise caller Signal.pipe p with
  | skipped hsame => exact ⟨p, hsame, .refl p, hp⟩
  | offered fd text hoffered =>
    exact ⟨_, hoffered, .offered p fd text,
      hK (p := p) ⟨rfl, rfl, DescriptorTable.kinds_reported _ _ _⟩ hp⟩
  | sends fd allThreads held htarget hbroken htake hsends =>
    obtain ⟨q, hq, ⟨htwin, hkinds⟩, hkq⟩ := hnested fd allThreads held htarget hbroken htake
    have hreleased : q.dumping.release = p.dumping := by
      rw [htwin.dumping]
      exact Exclusion.release_of_take? htake
    exact ⟨_, hsends q hq, ⟨{ htwin with dumping := hreleased }, hkinds⟩,
      hK (p := q) ⟨rfl, rfl, rfl⟩ hkq⟩

/-- The signal is blocked meanwhile at most, and it has not arrived. -/
theorem raise_dump_pipe {caller : Option ThreadId} {budget : Nat}
    (hblocked : Signal.pipe ∉ p.blocked) (hpending : Signal.pipe ∉ p.pending)
    (haction : (p.actions.get Signal.pipe).disposition = .handled .dump)
    (h : Returns K (handleDump (Process.raise caller budget) caller Signal.pipe)
      { p with
        blocked :=
          if (p.actions.get Signal.pipe).flags.noDefer then p.blocked
          else Signal.pipe :: p.blocked }) :
    Returns K (Process.raise caller (budget + 1) Signal.pipe) p := by
  obtain ⟨q, hq, ⟨htwin, hkinds⟩, hkq⟩ := h
  refine ⟨{ q with blocked := p.blocked }, ?_, ⟨{ htwin with blocked := rfl }, hkinds⟩,
    hK (p := q) ⟨rfl, rfl, rfl⟩ hkq⟩
  rw [raise_free (by decide) hblocked]
  unfold takePlace invoke
  rw [Run.state_bind, haction]
  dsimp only [handle]
  rw [Run.state_bind, Run.change_bind, Run.bind_of_returned hq, Run.change_bind]
  exact deliverPending_absent fun hmem => hpending (htwin.pending ▸ hmem)

end Dumps

-- ════════════════════════════════════════════════════════════════════════
-- Chaining
-- ════════════════════════════════════════════════════════════════════════

section Chaining

variable {caller : Option ThreadId} {budget : Nat}

/-- After its own handler has unregistered it, the signal has the saved action, if there was one. -/
theorem unregistered_of_passed {a : Action} (ha : a.Unregisters) (p : Process) :
    (p.passed Signal.pipe a).actions.get Signal.pipe =
        (if (p.userSignal Signal.pipe).saved.installed then
          (p.userSignal Signal.pipe).saved.previous else p.actions.get Signal.pipe) ∧
      ((p.passed Signal.pipe a).userSignal Signal.pipe).saved.installed = false ∧
      ((p.passed Signal.pipe a).userSignal Signal.pipe).chain =
        (p.userSignal Signal.pipe).chain := by
  rw [passed_pipe_gone ha, userSignal_patch, if_pos rfl]
  refine ⟨?_, rfl, rfl⟩
  refine (SignalTable.get_put _ _ _ _).trans ((if_pos rfl).trans ?_)
  unfold Patch.unregister
  dsimp only
  rw [show Signal.pipe.actionChangeable = true from by decide, Bool.and_true]

theorem samePipe_of_passed {a : Action} (hpasses : a.Passes Signal.pipe) (ha : ¬ a.Unregisters)
    (p : Process) : SamePipe p (p.passed Signal.pipe a) := by
  rw [passed_of_stays hpasses ha]
  exact ⟨rfl, rfl, rfl⟩

theorem BearsPipe.passed (ha : (p.actions.get Signal.pipe).Passes Signal.pipe)
    (hgone : (p.actions.get Signal.pipe).Unregisters → (p.userSignal Signal.pipe).saved.installed →
      (p.userSignal Signal.pipe).saved.previous.Passes Signal.pipe) :
    BearsPipe (p.passed Signal.pipe (p.actions.get Signal.pipe)) := by
  by_cases hunregisters : (p.actions.get Signal.pipe).Unregisters
  · obtain ⟨haction, hmark, -⟩ := unregistered_of_passed hunregisters p
    refine .passes ?_ fun _ hmarked => absurd (hmark.symm.trans hmarked) (by decide)
    rw [haction]
    split
    · next hmarked => exact hgone hunregisters hmarked
    · exact ha
  · exact (samePipe_of_passed ha hunregisters p).bearsPipe (.passes ha hgone)

/-- The saved action is put back, if there is one. -/
theorem Chained.reinstate (h : Chained p) :
    Yields (p.reinstate (p.userSignal Signal.pipe).saved Signal.pipe) := by
  have huser : (p.reinstate (p.userSignal Signal.pipe).saved Signal.pipe).userSignal Signal.pipe =
      p.userSignal Signal.pipe := userSignal_congr (p.reinstate_userSignals Signal.pipe _) _
  refine ⟨?_, ?_, fun hmark => ?_⟩
  · rw [huser]
    exact h.chain
  · rw [reinstate_get]
    cases hmark : (p.userSignal Signal.pipe).saved.installed with
    | true =>
      rw [if_pos ⟨rfl, by decide, rfl⟩]
      exact (h.registered hmark).1
    | false =>
      rw [if_neg (by simp)]
      exact h.unregistered hmark
  · rw [huser] at hmark ⊢
    exact (h.registered hmark).1

/-- If the saved action unregisters the signal, it has come to stay. -/
theorem Yields.passed (h : Yields p) :
    Yields (p.passed Signal.pipe (p.actions.get Signal.pipe)) := by
  by_cases hgone : (p.actions.get Signal.pipe).Unregisters
  · obtain ⟨haction, hmark, hchain⟩ := unregistered_of_passed hgone p
    refine ⟨hchain ▸ h.chain, ?_, fun hmarked => absurd (hmark.symm.trans hmarked) (by decide)⟩
    rw [haction]
    split
    · next hmarked => exact h.previous hmarked
    · exact h.passes
  · have hsame := samePipe_of_passed h.passes hgone p
    refine ⟨hsame.userSignal ▸ h.chain, ?_, hsame.userSignal ▸ h.previous⟩
    rw [hsame.action]
    exact h.passes

/-- The dumping handler that is installed for chaining does not block its own signal. -/
theorem Chained.of_dumpAction (hchain : (p.userSignal Signal.pipe).chain)
    (hmark : (p.userSignal Signal.pipe).saved.installed)
    (hprevious : (p.userSignal Signal.pipe).saved.previous.Passes Signal.pipe)
    (haction : p.actions.get Signal.pipe = q.dumpAction true) : Chained p := by
  refine ⟨hchain, fun _ => ⟨hprevious, ?_, ?_⟩, fun hunmarked => ?_⟩
  · rw [haction]
    rfl
  · rw [haction]
    rfl
  · exact absurd (hmark.symm.trans hunmarked) (by decide)

/-- The dumping handler is installed again, unless the signal is not registered any more. -/
theorem Yields.reinstalled (h : Yields p) : Chained (p.reinstalled Signal.pipe) := by
  unfold Process.reinstalled
  cases hmark : (p.userSignal Signal.pipe).saved.installed with
  | true =>
    have huser : (p.trySetAction Signal.pipe (p.dumpAction true)).userSignal Signal.pipe =
        p.userSignal Signal.pipe := userSignal_congr (p.trySetAction_userSignals Signal.pipe _) _
    have haction : (p.trySetAction Signal.pipe (p.dumpAction true)).actions.get Signal.pipe =
        p.dumpAction true := by
      rw [trySetAction_get, if_pos ⟨rfl, by decide⟩]
    rw [if_pos rfl]
    exact .of_dumpAction (huser ▸ h.chain) (huser ▸ hmark) (huser ▸ h.previous hmark) haction
  | false =>
    rw [if_neg (by decide)]
    exact ⟨h.chain, fun hmarked => absurd (hmark.symm.trans hmarked) (by decide), fun _ => h.passes⟩

/-- The saved action takes place, or the action in force if the signal is not registered any
more. -/
theorem Chained.passOn (h : Chained p) (hblocked : Signal.pipe ∉ p.blocked)
    (hpending : Signal.pipe ∉ p.pending) :
    Returns Chained (Process.passOn (Process.raise caller (budget + 1)) Signal.pipe) p := by
  set back := p.reinstate (p.userSignal Signal.pipe).saved Signal.pipe
  have hyields : Yields back := h.reinstate
  have hput : OnlyPipe p back := .reinstate hpending _
  have hpending' : Signal.pipe ∉ back.pending := hput.twin.pending ▸ hpending
  have hraise := raise_passes (by decide) (hput.twin.blocked ▸ hblocked) hpending' hyields.passes
    caller budget
  have hpassed := hput.trans (.passed hpending' hyields.passes)
  refine ⟨_, ?_, hpassed.trans (.reinstalled (hpassed.twin.pending ▸ hpending)),
    hyields.passed.reinstalled⟩
  unfold Process.passOn
  rw [Run.state_bind, if_pos h.chain, Run.change_bind, Run.bind_of_returned hraise]
  rfl

/-- First the dump, and then the saved action. -/
theorem Chained.raise_of_nested (h : Chained p)
    (hmark : (p.userSignal Signal.pipe).saved.installed)
    (hblocked : Signal.pipe ∉ p.blocked) (hpending : Signal.pipe ∉ p.pending)
    (hnested : ∀ held, p.dumping.take? = some held →
      Returns Chained (Process.raise caller (budget + 1) Signal.pipe) { p with dumping := held }) :
    Returns Chained (Process.raise caller (budget + 2) Signal.pipe) p := by
  obtain ⟨-, haction, hdefer⟩ := h.registered hmark
  have hdump : Returns Chained
      (dumpForSignal (Process.raise caller (budget + 1)) caller Signal.pipe) p :=
    dumpForSignal_pipe SamePipe.chained caller h fun _ _ held _ _ htake => hnested held htake
  refine raise_dump_pipe SamePipe.chained hblocked hpending haction ?_
  rw [if_pos hdefer]
  exact hdump.bind fun q hpq hq =>
    hq.passOn (hpq.twin.blocked ▸ hblocked) (hpq.twin.pending ▸ hpending)

/-- The dump sends the signal again if it goes to a broken pipe. That arrival finds the guard held,
so there is no dump for it, and the saved action takes place at once. -/
theorem Chained.raise (h : Chained p) (hmark : (p.userSignal Signal.pipe).saved.installed)
    (hblocked : Signal.pipe ∉ p.blocked) (hpending : Signal.pipe ∉ p.pending) :
    Returns Chained (Process.raise caller (budget + 3) Signal.pipe) p := by
  refine h.raise_of_nested hmark hblocked hpending fun held htake => ?_
  have hheld : Chained { p with dumping := held } := ⟨h.chain, h.registered, h.unregistered⟩
  have htaken := Exclusion.take?_of_take? htake
  exact hheld.raise_of_nested hmark hblocked hpending fun held' htake' =>
    absurd (htaken.symm.trans htake') nofun

end Chaining

-- ════════════════════════════════════════════════════════════════════════
-- Chaining while the signal is blocked
-- ════════════════════════════════════════════════════════════════════════

section Deferred

variable {caller : Option ThreadId} {budget : Nat} {pending : List Signal}

/-- An arrival is kept once. -/
theorem raise_kept (hblocked : Signal.pipe ∈ p.blocked) (hpending : Signal.pipe ∉ pending)
    (hwaiting : p.pending = pending ∨ p.pending = pending ++ [Signal.pipe]) :
    raise caller (budget + 1) Signal.pipe p =
      .returned () { p with pending := pending ++ [Signal.pipe] } := by
  have hkept : Signal.pipe.queues = false := by decide
  rw [raise_blocked (by decide) hblocked]
  unfold keepPending
  obtain hp | hp := hwaiting
  · rw [hp, if_neg (by simp [hpending])]
  · rw [hp, if_pos (by simp [hkept]), ← hp]

/-- The dump may send the signal once more, and then that arrival waits. -/
theorem dumpForSignal_waits (hblocked : Signal.pipe ∈ p.blocked)
    (hpending : Signal.pipe ∉ p.pending) (caller : Option ThreadId) (budget : Nat) :
    ∃ descriptors waiting,
      dumpForSignal (raise caller (budget + 1)) caller Signal.pipe p =
          .returned () { p with descriptors := descriptors, pending := waiting } ∧
        descriptors.kinds = p.descriptors.kinds ∧
        (waiting = p.pending ∨ waiting = p.pending ++ [Signal.pipe]) := by
  cases dumpForSignal_dumps (raise caller (budget + 1)) caller Signal.pipe p with
  | skipped hsame => exact ⟨_, _, hsame, rfl, .inl rfl⟩
  | offered fd text hoffered =>
    exact ⟨_, _, hoffered, DescriptorTable.kinds_reported _ _ _, .inl rfl⟩
  | sends fd allThreads held htarget hbroken htake hsends =>
    have hdumped :=
      hsends _ (raise_kept (p := { p with dumping := held }) hblocked hpending (.inl rfl))
    rw [Exclusion.release_of_take? htake] at hdumped
    exact ⟨_, _, hdumped, rfl, .inr rfl⟩

/-- The saved action is put back and gives way again without having taken place, since the signal
waits. -/
theorem passOn_waits (hblocked : Signal.pipe ∈ p.blocked)
    (hchain : (p.userSignal Signal.pipe).chain)
    (hmark : (p.userSignal Signal.pipe).saved.installed) (hpending : Signal.pipe ∉ pending)
    (hwaiting : p.pending = pending ∨ p.pending = pending ++ [Signal.pipe]) :
    passOn (raise caller (budget + 1)) Signal.pipe p =
      .returned () { p with
        actions := p.actions.put Signal.pipe (p.dumpAction true)
        pending := pending ++ [Signal.pipe] } := by
  have hchangeable : Signal.pipe.actionChangeable := by decide
  set previous := (p.userSignal Signal.pipe).saved.previous
  have hback : p.reinstate (p.userSignal Signal.pipe).saved Signal.pipe =
      p.setAction Signal.pipe previous := by
    unfold reinstate
    rw [if_pos hmark, trySetAction_of_changeable _ _ hchangeable]
  have hkept : (p.setAction Signal.pipe previous).pending = pending ∨
      (p.setAction Signal.pipe previous).pending = pending ++ [Signal.pipe] := by
    have hfilter : pending.filter (· ≠ Signal.pipe) = pending :=
      List.filter_eq_self.mpr fun s hs => decide_eq_true fun hsame => hpending (hsame ▸ hs)
    unfold setAction
    dsimp only
    split
    · left
      obtain hp | hp := hwaiting
      · rw [hp, hfilter]
      · rw [hp, List.filter_append, hfilter]
        simp
    · exact hwaiting
  have hraise : raise caller (budget + 1) Signal.pipe (p.setAction Signal.pipe previous) =
      .returned () { p with
        actions := p.actions.put Signal.pipe previous
        pending := pending ++ [Signal.pipe] } :=
    raise_kept (p := p.setAction Signal.pipe previous) hblocked hpending hkept
  unfold passOn
  rw [Run.state_bind, if_pos hchain, Run.change_bind, hback, Run.bind_of_returned hraise,
    Run.change_apply]
  refine congrArg (Outcome.returned ()) ((if_pos hmark).trans ?_)
  rw [trySetAction_of_changeable _ _ hchangeable]
  unfold setAction
  dsimp only
  rw [SignalTable.put_put]
  rfl

/-- The dump and the saved action leave one arrival of the signal waiting. -/
theorem handleDump_deferred (hblocked : Signal.pipe ∈ p.blocked)
    (hchain : (p.userSignal Signal.pipe).chain)
    (hmark : (p.userSignal Signal.pipe).saved.installed) (hpending : Signal.pipe ∉ p.pending)
    (caller : Option ThreadId) (budget : Nat) :
    ∃ descriptors,
      handleDump (raise caller (budget + 1)) caller Signal.pipe p = .returned () { p with
        descriptors := descriptors
        actions := p.actions.put Signal.pipe (p.dumpAction true)
        pending := p.pending ++ [Signal.pipe] } ∧
      descriptors.kinds = p.descriptors.kinds := by
  obtain ⟨descriptors, waiting, hdump, hkinds, hwaiting⟩ :=
    dumpForSignal_waits hblocked hpending caller budget
  refine ⟨descriptors, (Run.bind_of_returned hdump fun _ => passOn _ _).trans ?_, hkinds⟩
  exact passOn_waits (p := { p with descriptors := descriptors, pending := waiting }) hblocked
    hchain hmark hpending hwaiting

/-- The signal is delivered when the handler has returned, and by then the action in force does not
block it any more. -/
theorem raise_deferred (haction : (p.actions.get Signal.pipe).disposition = .handled .dump)
    (hdefer : ¬ (p.actions.get Signal.pipe).flags.noDefer)
    (hchain : (p.userSignal Signal.pipe).chain)
    (hmark : (p.userSignal Signal.pipe).saved.installed)
    (hprevious : (p.userSignal Signal.pipe).saved.previous.Passes Signal.pipe)
    (hblocked : Signal.pipe ∉ p.blocked) (hpending : Signal.pipe ∉ p.pending) :
    Returns Chained (raise caller (budget + 4) Signal.pipe) p := by
  obtain ⟨descriptors, hhandle, hkinds⟩ :=
    handleDump_deferred (p := { p with blocked := Signal.pipe :: p.blocked }) List.mem_cons_self
      hchain hmark hpending caller (budget + 2)
  set q : Process := { p with
    descriptors := descriptors
    actions := p.actions.put Signal.pipe (p.dumpAction true) }
  have hchained : Chained q :=
    .of_dumpAction hchain hmark hprevious ((SignalTable.get_put _ _ _ _).trans (if_pos rfl))
  have honly : OnlyPipe p q := by
    refine ⟨⟨fun s hs => ?_, fun _ _ => rfl, rfl, rfl, rfl, rfl, rfl, rfl⟩, hkinds⟩
    exact (SignalTable.get_put _ _ _ _).trans (if_neg hs.symm)
  obtain ⟨r, hr, hqr, hkept⟩ : Returns Chained (raise caller (budget + 3) Signal.pipe) q :=
    hchained.raise hmark hblocked hpending
  have herase : (p.pending ++ [Signal.pipe]).erase Signal.pipe = p.pending := by
    rw [List.erase_append_right _ hpending]
    simp
  refine ⟨r, ?_, honly.trans hqr, hkept⟩
  rw [raise_free (by decide) hblocked]
  unfold takePlace invoke
  rw [Run.state_bind, haction]
  dsimp only [handle]
  rw [Run.state_bind, Run.change_bind, if_neg hdefer, Run.bind_of_returned hhandle,
    Run.change_bind]
  unfold deliverPending
  rw [Run.state_bind, if_pos (by simp [hblocked]), Run.change_bind]
  dsimp only
  rw [herase]
  exact hr

end Deferred

/-- A broken pipe that is borne: its signal comes back, and is borne the next time too. -/
theorem raise_pipe_borne (h : Bears p) (caller : Option ThreadId) (budget : Nat) :
    ∃ q, raise caller (budget + 4) Signal.pipe p = .returned () q ∧ OnlyPipe p q ∧ Bears q := by
  have hreturns : Returns BearsPipe (raise caller (budget + 4) Signal.pipe) p := by
    cases h.borne with
    | passes ha hgone =>
      exact ⟨_, raise_passes (by decide) h.blocked h.pending ha caller (budget + 3),
        .passed h.pending ha, .passed ha hgone⟩
    | dumps haction hchain htarget =>
      refine raise_dump_pipe SamePipe.bearsPipe h.blocked h.pending haction ?_
      generalize (if (p.actions.get Signal.pipe).flags.noDefer then p.blocked
        else Signal.pipe :: p.blocked) = blocked
      have hdump : Returns (fun q => BearsPipe q ∧ (q.userSignal Signal.pipe).chain = false)
          (dumpForSignal (raise caller (budget + 3)) caller Signal.pipe)
          { p with blocked := blocked } :=
        dumpForSignal_pipe (fun hsame hkept =>
            ⟨hsame.bearsPipe hkept.1, hsame.userSignal ▸ hkept.2⟩)
          caller ⟨.dumps haction hchain htarget, hchain⟩
          fun fd allThreads _ htake hbroken => absurd hbroken (htarget fd allThreads htake)
      exact hdump.bind fun q _ hq => ⟨q, passOn_unchained _ hq.2, .refl q, hq.1⟩
    | chains haction hchain hmark hprevious =>
      obtain ⟨q, hq, hpq, hkept⟩ : Returns Chained (raise caller (budget + 4) Signal.pipe) p := by
        by_cases hdefer : (p.actions.get Signal.pipe).flags.noDefer
        · have hchained : Chained p := ⟨hchain, fun _ => ⟨hprevious, haction, hdefer⟩,
            fun hunmarked => absurd (hmark.symm.trans hunmarked) (by decide)⟩
          exact hchained.raise hmark h.blocked h.pending
        · exact raise_deferred haction hdefer hchain hmark hprevious h.blocked h.pending
      exact ⟨q, hq, hpq, hkept.bearsPipe⟩
  obtain ⟨q, hq, hpq, hborne⟩ := hreturns
  exact ⟨q, hq, hpq, hborne, hpq.twin.blocked ▸ h.blocked, hpq.twin.pending ▸ h.pending⟩

end Process

end CrashTrace
