import CrashTrace.Proofs.Process.Setup
import Mathlib.Data.List.Perm.Basic

/-!
# Fault reports and dumps on ordinary signals kept apart

Fault reports and dumps on ordinary signals are set up by different calls on one table of actions.
No signal belongs to both, so what is set up for either is what its own calls alone set up, in
whatever order the calls come and whether they fail or not. The one thing that passes over is
whether dumping handlers run on the alternate stack.

## Main definitions

- `SetupCall`, `Process.carryOut` — the calls that set something up or take it down
- `Process.SameFaults`, `Process.SameUsers` — the two sides of what is set up
- `Patch`, `Process.patch` — what a call on one ordinary signal changes

## Main results

- `Process.setup_separate`

## Design notes

A call on an ordinary signal is a patch to the entries of that signal, made from these entries, the
descriptors and the presence of the alternate stack (`carryOut_register`, `carryOut_unregister`).
So calls on different signals can change places, apart from what they tell the log.
-/

namespace CrashTrace

/-- The action without the choice of its stack. -/
def Action.offStack (a : Action) : Action := { a with flags := { a.flags with onStack := false } }

/-- What is set up for a signal, without the choice of the stack in the saved action. -/
def UserSignal.offStack (u : UserSignal) : UserSignal :=
  { u with saved := { u.saved with previous := u.saved.previous.offStack } }

/-- A call that sets something up or takes it down. -/
inductive SetupCall where
  | enable (supply : StackSupply) (sink : Sink) (settings : FaultSettings)
  | disable
  | register (signum : Int) (sink : Sink) (settings : UserSignalSettings)
  | unregister (signum : Int)

/-- What a call answers: a failure, or nothing, or whether a signal was registered. -/
abbrev SetupAnswer := Except Failure (Option Bool)

namespace SetupCall

/-- The number of the signal of a call on an ordinary signal. -/
def signum? : SetupCall → Option Int
  | .enable _ _ _ => none
  | .disable => none
  | .register signum _ _ => some signum
  | .unregister signum => some signum

def onFaults (c : SetupCall) : Bool := c.signum?.isNone

end SetupCall

/-- What a call on one ordinary signal comes to: the answer, the action and the setup of the signal
afterwards, whether pending arrivals of it are thrown away, and what the log is told. -/
structure Patch where
  answer : SetupAnswer
  action : Action
  userSignal : UserSignal
  discards : Bool
  events : List LogEvent

namespace Process

variable {p q : Process} {s : Signal}

def carryOut (p : Process) : SetupCall → Answered (Option Bool)
  | .enable supply sink settings =>
    let (result, q) := p.enable supply sink settings
    (result.map fun _ => none, q)
  | .disable => (.ok none, p.disable)
  | .register signum sink settings =>
    let (result, q) := p.register signum sink settings
    (result.map fun _ => none, q)
  | .unregister signum =>
    let (result, q) := p.unregister signum
    (result.map some, q)

/-- Calls one after the other, each with its answer. -/
def carryOutAll (p : Process) : List SetupCall → List (SetupCall × SetupAnswer) × Process
  | [] => ([], p)
  | c :: rest =>
    let (answer, q) := p.carryOut c
    let (answers, r) := carryOutAll q rest
    ((c, answer) :: answers, r)

/-- All that is set up for fault reports is the same: the actions of the fatal signals, those saved
for them, the target, and whether reports are enabled. -/
structure SameFaults (p q : Process) : Prop where
  actions : ∀ s, s.faultName?.isSome → q.actions.get s = p.actions.get s
  faults : q.faults = p.faults
  descriptors : q.descriptors = p.descriptors

/-- All that is set up for ordinary signals is the same, apart from the choice of the stack: their
actions, those saved for them, the targets and whether they chain. -/
structure SameUsers (p q : Process) : Prop where
  actions : ∀ s, s.faultName?.isSome = false →
    (q.actions.get s).offStack = (p.actions.get s).offStack
  userSignals : ∀ s, (q.userSignal s).offStack = (p.userSignal s).offStack
  descriptors : q.descriptors = p.descriptors

-- ════════════════════════════════════════════════════════════════════════
-- Calls on fault reports
-- ════════════════════════════════════════════════════════════════════════

namespace SameFaults

theorem refl (p : Process) : SameFaults p p := ⟨fun _ _ => rfl, rfl, rfl⟩

theorem changeFaults (h : SameFaults p q) (change : FaultReporting → FaultReporting) :
    SameFaults (p.changeFaults change) (q.changeFaults change) :=
  ⟨h.actions, congrArg change h.faults, h.descriptors⟩

theorem clearFaultTarget (h : SameFaults p q) :
    SameFaults p.clearFaultTarget q.clearFaultTarget :=
  h.changeFaults _

theorem note (h : SameFaults p q) (e : LogEvent) : SameFaults (p.note e) (q.note e) :=
  ⟨h.actions, h.faults, h.descriptors⟩

theorem trySetAction (h : SameFaults p q) (s : Signal) (a : Action) :
    SameFaults (p.trySetAction s a) (q.trySetAction s a) := by
  refine ⟨fun u hu => ?_, ?_, ?_⟩
  · rw [trySetAction_get, trySetAction_get, h.actions u hu]
  · rw [trySetAction_faults, trySetAction_faults, h.faults]
  · rw [trySetAction_descriptors, trySetAction_descriptors, h.descriptors]

theorem uninstallFault (h : SameFaults p q) (s : Signal) :
    SameFaults (p.uninstallFault s) (q.uninstallFault s) := by
  rw [uninstallFault_eq, uninstallFault_eq, h.faults]
  refine changeFaults ?_ _
  unfold reinstate
  split
  · exact h.trySetAction s _
  · exact h

theorem installFault (h : SameFaults p q) (settings : FaultSettings) {s : Signal}
    (hs : s.faultName?.isSome) :
    SameFaults (installFault settings p s) (installFault settings q s) := by
  have hset : ∀ r : Process, Process.installFault settings r s =
      (r.changeFaults fun f => { f with saved := f.saved.put s ⟨true, r.actions.get s⟩ }).trySetAction
        s (reportAction settings) := by
    intro r
    rw [trySetAction_of_changeable _ _ (Signal.changeable_of_fault s hs)]
    rfl
  rw [hset, hset, h.actions s hs]
  exact (h.changeFaults _).trySetAction s _

theorem foldl {change : Process → Signal → Process} {signals : List Signal}
    (h : SameFaults p q)
    (hchange : ∀ p q, ∀ s ∈ signals, SameFaults p q → SameFaults (change p s) (change q s)) :
    SameFaults (signals.foldl change p) (signals.foldl change q) := by
  induction signals generalizing p q with
  | nil => exact h
  | cons s signals ih =>
    exact ih (hchange p q s List.mem_cons_self h)
      fun p q u hu => hchange p q u (List.mem_cons_of_mem s hu)

theorem disable (h : SameFaults p q) : SameFaults p.disable q.disable := by
  unfold Process.disable
  rw [h.faults]
  split
  · refine note (changeFaults (changeFaults ?_ _) _) _
    exact h.foldl fun p q s _ h => h.uninstallFault s
  · exact h

theorem provideAltStack (h : SameFaults p q) (supply : StackSupply) (settings : FaultSettings) :
    (∃ failure, p.provideAltStack supply settings = .error failure ∧
        q.provideAltStack supply settings = .error failure) ∨
      ∃ p' q', p.provideAltStack supply settings = .ok p' ∧
        q.provideAltStack supply settings = .ok q' ∧ SameFaults p' q' := by
  unfold Process.provideAltStack
  rw [h.faults]
  split
  · cases supply with
    | available => exact .inr ⟨_, _, rfl, rfl, h.changeFaults _⟩
    | noMemory => exact .inl ⟨_, rfl, rfl⟩
    | noGuard => exact .inl ⟨_, rfl, rfl⟩
    | inUse => exact .inl ⟨_, rfl, rfl⟩
  · exact .inr ⟨_, _, rfl, rfl, h⟩

/-- Enabling fault reports looks at nothing else than what is set up for them and the sink. -/
theorem enable (h : SameFaults p q) (supply : StackSupply) (sink : Sink)
    (settings : FaultSettings) :
    (q.enable supply sink settings).1 = (p.enable supply sink settings).1 ∧
      SameFaults (p.enable supply sink settings).2 (q.enable supply sink settings).2 := by
  have haimed := h.changeFaults fun f =>
    { f with target := f.target.set sink.descriptor settings.allThreads }
  unfold Process.enable
  rw [h.descriptors, h.faults]
  cases p.descriptors.checkSink sink.descriptor with
  | error failure => exact ⟨rfl, h⟩
  | ok _ =>
    dsimp only
    split
    · exact ⟨rfl, haimed.note _⟩
    · obtain ⟨failure, hp, hq⟩ | ⟨p', q', hp, hq, hready⟩ :=
        haimed.provideAltStack supply settings
      · rw [hp, hq]
        exact ⟨rfl, haimed.clearFaultTarget⟩
      · rw [hp, hq]
        have hinstalled : SameFaults (faultSignals.foldl (Process.installFault settings) p')
            (faultSignals.foldl (Process.installFault settings) q') :=
          hready.foldl fun _ _ s hs h => h.installFault settings ((mem_faultSignals s).mp hs)
        exact ⟨rfl, (hinstalled.changeFaults _).note _⟩

end SameFaults

/-- What is set up for ordinary signals is left alone altogether. -/
structure LeavesUsers (p q : Process) : Prop where
  actions : ∀ s, s.faultName?.isSome = false → q.actions.get s = p.actions.get s
  userSignals : q.userSignals = p.userSignals
  descriptors : q.descriptors = p.descriptors

namespace LeavesUsers

variable {r : Process}

theorem refl (p : Process) : LeavesUsers p p := ⟨fun _ _ => rfl, rfl, rfl⟩

theorem trans (hpq : LeavesUsers p q) (hqr : LeavesUsers q r) : LeavesUsers p r :=
  ⟨fun s hs => (hqr.actions s hs).trans (hpq.actions s hs),
    hqr.userSignals.trans hpq.userSignals, hqr.descriptors.trans hpq.descriptors⟩

theorem changeFaults (p : Process) (change : FaultReporting → FaultReporting) :
    LeavesUsers p (p.changeFaults change) :=
  ⟨fun _ _ => rfl, rfl, rfl⟩

theorem clearFaultTarget (p : Process) : LeavesUsers p p.clearFaultTarget := changeFaults p _

theorem note (p : Process) (e : LogEvent) : LeavesUsers p (p.note e) := ⟨fun _ _ => rfl, rfl, rfl⟩

theorem trySetAction (p : Process) {s : Signal} (hs : s.faultName?.isSome) (a : Action) :
    LeavesUsers p (p.trySetAction s a) := by
  refine ⟨fun u hu => ?_, trySetAction_userSignals p s a, trySetAction_descriptors p s a⟩
  rw [trySetAction_get, if_neg]
  rintro ⟨rfl, -⟩
  exact absurd (hs.symm.trans hu) (by decide)

theorem uninstallFault (p : Process) {s : Signal} (hs : s.faultName?.isSome) :
    LeavesUsers p (p.uninstallFault s) := by
  rw [uninstallFault_eq]
  refine trans ?_ (changeFaults _ _)
  unfold reinstate
  split
  · exact trySetAction p hs _
  · exact refl p

theorem installFault (settings : FaultSettings) (p : Process) {s : Signal}
    (hs : s.faultName?.isSome) : LeavesUsers p (installFault settings p s) := by
  have hsaved := changeFaults p fun f => { f with saved := f.saved.put s ⟨true, p.actions.get s⟩ }
  refine hsaved.trans ?_
  rw [Process.installFault, ← trySetAction_of_changeable _ _ (Signal.changeable_of_fault s hs)]
  exact trySetAction _ hs _

theorem foldl {change : Process → Signal → Process} {signals : List Signal}
    (hchange : ∀ p, ∀ s ∈ signals, LeavesUsers p (change p s)) (p : Process) :
    LeavesUsers p (signals.foldl change p) := by
  induction signals generalizing p with
  | nil => exact refl p
  | cons s signals ih =>
    exact (hchange p s List.mem_cons_self).trans
      (ih (fun p u hu => hchange p u (List.mem_cons_of_mem s hu)) _)

theorem disable (p : Process) : LeavesUsers p p.disable := by
  unfold Process.disable
  split
  · refine trans ?_ (note _ _)
    refine trans ?_ (changeFaults _ _)
    refine trans ?_ (changeFaults _ _)
    exact foldl (fun p s hs => uninstallFault p ((mem_faultSignals s).mp hs)) p
  · exact refl p

theorem enable (p : Process) (supply : StackSupply) (sink : Sink) (settings : FaultSettings) :
    LeavesUsers p (p.enable supply sink settings).2 := by
  have haimed := changeFaults p fun f =>
    { f with target := f.target.set sink.descriptor settings.allThreads }
  unfold Process.enable
  cases p.descriptors.checkSink sink.descriptor with
  | error failure => exact refl p
  | ok _ =>
    dsimp only
    split
    · exact haimed.trans (note _ _)
    · generalize (p.changeFaults fun f =>
        { f with target := f.target.set sink.descriptor settings.allThreads }) = aimed at haimed ⊢
      cases hready : aimed.provideAltStack supply settings with
      | error failure => exact haimed.trans (clearFaultTarget aimed)
      | ok ready =>
        obtain ⟨altStack, rfl⟩ := provideAltStack_eq hready
        have hfirst := haimed.trans (changeFaults aimed fun f => { f with altStack := altStack })
        have hinstalled := foldl (fun p s hs => installFault settings p ((mem_faultSignals s).mp hs))
          (aimed.changeFaults fun f => { f with altStack := altStack })
        exact (hfirst.trans hinstalled).trans ((changeFaults _ _).trans (note _ _))

end LeavesUsers

-- ════════════════════════════════════════════════════════════════════════
-- Calls on ordinary signals
-- ════════════════════════════════════════════════════════════════════════

def patch (p : Process) (s : Signal) (x : Patch) : Process :=
  { p with
    actions := p.actions.put s x.action
    userSignals := p.userSignals.put s x.userSignal
    pending := if x.discards then p.pending.filter (· ≠ s) else p.pending
    log := p.log ++ x.events }

end Process

namespace Patch

/-- What a call comes to, without the choice of the stack. -/
def offStack (x : Patch) : Patch :=
  { x with action := x.action.offStack, userSignal := x.userSignal.offStack }

theorem answer_offStack (x : Patch) : x.offStack.answer = x.answer := rfl

/-- Nothing is changed. -/
def none (answer : SetupAnswer) (a : Action) (u : UserSignal) : Patch := ⟨answer, a, u, false, []⟩

/-- What registering a signal comes to, given whether the sink is taken, whether there is an
alternate stack, and the action and the setup of the signal. -/
def register (s : Signal) (signum : Int) (sink : Sink) (settings : UserSignalSettings)
    (checked : Except Failure Unit) (altStack : Bool) (a : Action) (u : UserSignal) : Patch :=
  match checked with
  | .error failure => none (.error failure) a u
  | .ok () =>
    if u.saved.installed ∨ s.actionReadable then
      let saved := if u.saved.installed then u.saved else { u.saved with previous := a }
      let marked : UserSignal :=
        ⟨u.target.set sink.descriptor settings.allThreads, settings.chain,
          { saved with installed := true }⟩
      if s.actionChangeable then
        ⟨.ok Option.none, ⟨.handled .dump, ⟨settings.chain, altStack, true, true⟩⟩, marked, false,
          [.registered signum sink.descriptor settings.chain]⟩
      else
        none (.error (.system Errno.invalidArgument)) a <|
          if u.saved.installed then marked
          else
            { marked with
              target := marked.target.clear, saved := { saved with installed := false } }
    else none (.error (.system Errno.invalidArgument)) a u

/-- What unregistering a signal comes to. -/
def unregister (s : Signal) (signum : Int) (a : Action) (u : UserSignal) : Patch :=
  let back := u.saved.installed && s.actionChangeable
  ⟨.ok (some u.saved.installed), if back then u.saved.previous else a,
    { u with target := u.target.clear, saved := { u.saved with installed := false } },
    back && u.saved.previous.discards s, [.unregistered signum u.saved.installed]⟩

end Patch

/-- What a call on an ordinary signal comes to. -/
def SetupCall.patch (c : SetupCall) (s : Signal) (descriptors : DescriptorTable) (altStack : Bool)
    (a : Action) (u : UserSignal) : Patch :=
  match c with
  | .register signum sink settings =>
    Patch.register s signum sink settings (descriptors.checkSink sink.descriptor) altStack a u
  | .unregister signum => Patch.unregister s signum a u
  | .enable _ _ _ => Patch.none (.ok none) a u
  | .disable => Patch.none (.ok none) a u

theorem SetupCall.exists_signum {c : SetupCall} (h : c.onFaults = false) :
    ∃ signum, c.signum? = some signum :=
  Option.isSome_iff_exists.mp (by simpa [SetupCall.onFaults] using h)

/-- The choice of the stack passes through a call on an ordinary signal and changes nothing
else. -/
theorem SetupCall.patch_offStack (c : SetupCall) (s : Signal) (descriptors : DescriptorTable)
    (altStack : Bool) (a : Action) (u : UserSignal) :
    (c.patch s descriptors altStack a u).offStack =
      c.patch s descriptors false a.offStack u.offStack := by
  cases c with
  | enable supply sink settings => rfl
  | disable => rfl
  | register signum sink settings =>
    simp only [SetupCall.patch, Patch.register]
    cases descriptors.checkSink sink.descriptor with
    | error failure => rfl
    | ok _ =>
      have hinstalled : u.offStack.saved.installed = u.saved.installed := rfl
      dsimp only
      rw [hinstalled]
      split_ifs
      all_goals rfl
  | unregister signum =>
    have hdiscards : u.offStack.saved.previous.discards s = u.saved.previous.discards s := rfl
    have hinstalled : u.offStack.saved.installed = u.saved.installed := rfl
    simp only [SetupCall.patch, Patch.unregister, hinstalled, hdiscards]
    cases u.saved.installed && s.actionChangeable with
    | true => rfl
    | false => rfl

namespace Process

variable {p q : Process} {s : Signal}

def patchOf (p : Process) (c : SetupCall) (s : Signal) : Patch :=
  c.patch s p.descriptors p.faults.altStack (p.actions.get s) (p.userSignal s)

theorem patch_none (p : Process) (s : Signal) (answer : SetupAnswer) (u : UserSignal) :
    p.patch s (.none answer (p.actions.get s) u) =
      { p with userSignals := p.userSignals.put s u } := by
  unfold patch Patch.none
  dsimp only
  rw [SignalTable.put_get, List.append_nil, if_neg (by decide)]

theorem patch_none_self (p : Process) (s : Signal) (answer : SetupAnswer) :
    p.patch s (.none answer (p.actions.get s) (p.userSignal s)) = p := by
  rw [patch_none, userSignal, SignalTable.put_get]

theorem installDump_eq (p : Process) (s : Signal) (sink : Sink) (settings : UserSignalSettings) :
    let u := p.userSignal s
    let saved := if u.saved.installed then u.saved else { u.saved with previous := p.actions.get s }
    let marked : UserSignal :=
      ⟨u.target.set sink.descriptor settings.allThreads, settings.chain,
        { saved with installed := true }⟩
    p.installDump s sink settings =
      if u.saved.installed ∨ s.actionReadable then
        if s.actionChangeable then
          (.ok (), (p.changeUserSignal s fun _ => marked).setAction s (p.dumpAction settings.chain))
        else
          (.error (.system Errno.invalidArgument), p.changeUserSignal s fun _ =>
            if u.saved.installed then marked
            else { marked with
              target := marked.target.clear, saved := { saved with installed := false } })
      else (.error (.system Errno.invalidArgument), p) := by
  intro u saved marked
  simp only [installDump, capture, action?, setAction?, u, saved, marked]
  by_cases hi : (p.userSignal s).saved.installed
  · by_cases hc : s.actionChangeable
    · simp only [hi, hc, if_true, true_or]
      rfl
    · simp only [hi, hc, if_true, true_or]
      rfl
  · by_cases hr : s.actionReadable
    · by_cases hc : s.actionChangeable
      · simp only [hi, hr, hc, if_true, or_true]
        rfl
      · simp only [hi, hr, hc, if_true, or_true, changeUserSignal_changeUserSignal]
        rfl
    · simp only [hi, hr, or_self]
      rfl

/-- A call on an ordinary signal changes the entries of this signal and nothing else. -/
theorem carryOut_ordinary {c : SetupCall} {signum : Int} (hc : c.signum? = some signum)
    (hs : Signal.registrable signum = .ok s) (p : Process) :
    p.carryOut c = ((p.patchOf c s).answer, p.patch s (p.patchOf c s)) := by
  cases c with
  | enable supply sink settings => cases hc
  | disable => cases hc
  | register signum' sink settings =>
    obtain rfl := Option.some.inj hc
    simp only [carryOut, register, hs, patchOf, SetupCall.patch, Patch.register]
    cases p.descriptors.checkSink sink.descriptor with
    | error failure => exact congrArg _ (p.patch_none_self s _).symm
    | ok _ =>
      dsimp only
      rw [installDump_eq]
      dsimp only
      by_cases hsaves : (p.userSignal s).saved.installed ∨ s.actionReadable
      · rw [if_pos hsaves, if_pos hsaves]
        by_cases hc : s.actionChangeable
        · rw [if_pos hc, if_pos hc]
          rfl
        · rw [if_neg hc, if_neg hc, patch_none]
          rfl
      · rw [if_neg hsaves, if_neg hsaves, patch_none_self]
        rfl
  | unregister signum' =>
    obtain rfl := Option.some.inj hc
    simp only [carryOut, unregister, hs, patchOf, SetupCall.patch, removeDump_eq]
    refine Prod.ext rfl ?_
    unfold reinstate Patch.unregister
    by_cases hi : (p.userSignal s).saved.installed
    · by_cases hc : s.actionChangeable
      · rw [if_pos hi, trySetAction_of_changeable _ _ hc]
        simp only [hi, hc, Bool.and_self, if_true, Bool.true_and]
        rfl
      · rw [if_pos hi, trySetAction_of_not_changeable _ _ hc]
        simp only [patch, hc, Bool.and_false, Bool.false_and, Bool.false_eq_true, if_false,
          SignalTable.put_get]
        rfl
    · rw [if_neg hi]
      simp only [patch, hi, Bool.false_and, Bool.false_eq_true, if_false, SignalTable.put_get]
      rfl

theorem carryOut_refused {c : SetupCall} {signum : Int} (hc : c.signum? = some signum)
    {failure : Failure} (hs : Signal.registrable signum = .error failure) (p : Process) :
    p.carryOut c = (.error failure, p) := by
  cases c with
  | enable supply sink settings => cases hc
  | disable => cases hc
  | register signum' sink settings =>
    obtain rfl := Option.some.inj hc
    simp only [carryOut, register, hs]
    rfl
  | unregister signum' =>
    obtain rfl := Option.some.inj hc
    simp only [carryOut, unregister, hs]
    rfl

theorem userSignal_patch (p : Process) (s u : Signal) (x : Patch) :
    (p.patch s x).userSignal u = if s = u then x.userSignal else p.userSignal u :=
  SignalTable.get_put _ _ _ _

theorem SameFaults.patch (h : SameFaults p q) (hs : s.faultName?.isSome = false) (x : Patch) :
    SameFaults p (q.patch s x) := by
  refine ⟨fun u hu => ?_, h.faults, h.descriptors⟩
  rw [← h.actions u hu]
  refine (SignalTable.get_put _ _ _ _).trans (if_neg ?_)
  rintro rfl
  exact absurd (hs.symm.trans hu) (by decide)

theorem SameUsers.refl (p : Process) : SameUsers p p := ⟨fun _ _ => rfl, fun _ => rfl, rfl⟩

theorem SameUsers.leaves {r : Process} (h : SameUsers p q) (hq : LeavesUsers q r) :
    SameUsers p r where
  actions s hs := (congrArg Action.offStack (hq.actions s hs)).trans (h.actions s hs)
  userSignals s := by
    rw [← h.userSignals s, userSignal, hq.userSignals]
    rfl
  descriptors := hq.descriptors.trans h.descriptors

theorem SameUsers.patch (h : SameUsers p q) {x y : Patch} (hxy : y.offStack = x.offStack) :
    SameUsers (p.patch s x) (q.patch s y) where
  actions u hu := by
    show ((q.actions.put s y.action).get u).offStack = ((p.actions.put s x.action).get u).offStack
    rw [SignalTable.get_put, SignalTable.get_put]
    split
    · exact congrArg Patch.action hxy
    · exact h.actions u hu
  userSignals u := by
    rw [userSignal_patch, userSignal_patch]
    split
    · exact congrArg Patch.userSignal hxy
    · exact h.userSignals u
  descriptors := h.descriptors

/-- A call on an ordinary signal sees nothing else than what is set up for ordinary signals. -/
theorem SameUsers.carryOut (h : SameUsers p q) {c : SetupCall} (hc : c.onFaults = false) :
    (q.carryOut c).1 = (p.carryOut c).1 ∧ SameUsers (p.carryOut c).2 (q.carryOut c).2 := by
  obtain ⟨signum, hsignum⟩ := SetupCall.exists_signum hc
  cases hs : Signal.registrable signum with
  | error failure =>
    rw [carryOut_refused hsignum hs, carryOut_refused hsignum hs]
    exact ⟨rfl, h⟩
  | ok s =>
    rw [carryOut_ordinary hsignum hs, carryOut_ordinary hsignum hs]
    have hordinary := (Signal.registrable_eq_ok.mp hs).2
    have hpatch : (q.patchOf c s).offStack = (p.patchOf c s).offStack := by
      unfold patchOf
      rw [SetupCall.patch_offStack, SetupCall.patch_offStack, h.descriptors,
        h.actions s hordinary, h.userSignals s]
    refine ⟨?_, h.patch hpatch⟩
    rw [← Patch.answer_offStack, hpatch, Patch.answer_offStack]

theorem SameUsers.carryOut_faults (h : SameUsers p q) {c : SetupCall} (hc : c.onFaults) :
    SameUsers p (q.carryOut c).2 := by
  cases c with
  | enable supply sink settings => exact h.leaves (LeavesUsers.enable q supply sink settings)
  | disable => exact h.leaves (LeavesUsers.disable q)
  | register signum sink settings => cases hc
  | unregister signum => cases hc

theorem SameFaults.carryOut (h : SameFaults p q) {c : SetupCall} (hc : c.onFaults) :
    (q.carryOut c).1 = (p.carryOut c).1 ∧ SameFaults (p.carryOut c).2 (q.carryOut c).2 := by
  cases c with
  | enable supply sink settings =>
    obtain ⟨hanswer, hstate⟩ := h.enable supply sink settings
    exact ⟨congrArg (Except.map fun _ => Option.none) hanswer, hstate⟩
  | disable => exact ⟨rfl, h.disable⟩
  | register signum sink settings => cases hc
  | unregister signum => cases hc

theorem SameFaults.carryOut_user (h : SameFaults p q) {c : SetupCall} (hc : c.onFaults = false) :
    SameFaults p (q.carryOut c).2 := by
  obtain ⟨signum, hsignum⟩ := SetupCall.exists_signum hc
  cases hs : Signal.registrable signum with
  | error failure =>
    rw [carryOut_refused hsignum hs]
    exact h
  | ok s =>
    rw [carryOut_ordinary hsignum hs]
    exact h.patch (Signal.registrable_eq_ok.mp hs).2 _

-- ════════════════════════════════════════════════════════════════════════
-- Calls one after the other
-- ════════════════════════════════════════════════════════════════════════

theorem carryOutAll_cons (p : Process) (c : SetupCall) (rest : List SetupCall) :
    p.carryOutAll (c :: rest) =
      ((c, (p.carryOut c).1) :: ((p.carryOut c).2.carryOutAll rest).1,
        ((p.carryOut c).2.carryOutAll rest).2) := rfl

/-- Two runs of which the second leaves out the calls that are not `kept`: what the kept calls
preserve and the others leave alone is the same in the end, and so are their answers. -/
theorem carryOutAll_filter {same : Process → Process → Prop} {kept : SetupCall → Bool}
    (hkept : ∀ p q c, kept c → same p q →
      (q.carryOut c).1 = (p.carryOut c).1 ∧ same (p.carryOut c).2 (q.carryOut c).2)
    (hother : ∀ p q c, kept c = false → same p q → same p (q.carryOut c).2)
    (calls : List SetupCall) {p q : Process} (h : same p q) :
    same (p.carryOutAll (calls.filter kept)).2 (q.carryOutAll calls).2 ∧
      (q.carryOutAll calls).1.filter (fun x => kept x.1) =
        (p.carryOutAll (calls.filter kept)).1 := by
  induction calls generalizing p q with
  | nil => exact ⟨h, rfl⟩
  | cons c rest ih =>
    rw [carryOutAll_cons q]
    cases hc : kept c with
    | true =>
      obtain ⟨hanswer, hstate⟩ := hkept p q c hc h
      obtain ⟨hend, hanswers⟩ := ih hstate
      rw [List.filter_cons_of_pos hc, carryOutAll_cons p, hanswer, ← hanswers]
      exact ⟨hend, List.filter_cons_of_pos hc⟩
    | false =>
      obtain ⟨hend, hanswers⟩ := ih (hother p q c hc h)
      rw [List.filter_cons_of_neg (by simp [hc]), ← hanswers]
      exact ⟨hend, List.filter_cons_of_neg (by simp [hc])⟩

-- ════════════════════════════════════════════════════════════════════════
-- Calls on different signals
-- ════════════════════════════════════════════════════════════════════════

theorem patch_patch {u : Signal} (h : s ≠ u) (p : Process) (x y : Patch) :
    (p.patch u y).patch s x =
      { (p.patch s x).patch u y with log := p.log ++ y.events ++ x.events } := by
  unfold patch
  dsimp only
  rw [SignalTable.put_comm _ h, SignalTable.put_comm _ h]
  congr 1
  split_ifs
  · rw [List.filter_filter, List.filter_filter]
    refine List.filter_congr fun v _ => Bool.and_comm _ _
  all_goals rfl

theorem patchOf_patch {u : Signal} (h : s ≠ u) (p : Process) (x : Patch) (c : SetupCall) :
    (p.patch s x).patchOf c u = p.patchOf c u := by
  have haction : (p.patch s x).actions.get u = p.actions.get u :=
    (SignalTable.get_put _ _ _ _).trans (if_neg h)
  unfold patchOf
  rw [haction, userSignal_patch, if_neg h]
  rfl

/-- Two calls can change places: each answers the same, and the same state is reached. Only the
log is told of them in the other order. -/
def Swap (p : Process) (first second : SetupCall) : Prop :=
  ∃ (answer answer' : SetupAnswer) (r : Process) (told told' : List LogEvent),
    p.carryOutAll [first, second] =
      ([(first, answer), (second, answer')], { r with log := p.log ++ told ++ told' }) ∧
    p.carryOutAll [second, first] =
      ([(second, answer'), (first, answer)], { r with log := p.log ++ told' ++ told })

theorem Swap.symm {first second : SetupCall} (h : p.Swap first second) : p.Swap second first := by
  obtain ⟨answer, answer', r, told, told', hone, hother⟩ := h
  exact ⟨answer', answer, r, told', told, hother, hone⟩

theorem exists_told {c : SetupCall} (hc : c.onFaults = false) (p : Process) :
    ∃ told, (p.carryOut c).2.log = p.log ++ told := by
  obtain ⟨signum, hsignum⟩ := SetupCall.exists_signum hc
  cases hs : Signal.registrable signum with
  | error failure =>
    rw [carryOut_refused hsignum hs]
    exact ⟨[], (List.append_nil _).symm⟩
  | ok s =>
    rw [carryOut_ordinary hsignum hs]
    exact ⟨_, rfl⟩

/-- A call that is refused because of its signal can change places with any other. -/
theorem swap_refused {first second : SetupCall} {signum : Int} {failure : Failure}
    (hfirst : first.signum? = some signum) (hs : Signal.registrable signum = .error failure)
    (hsecond : second.onFaults = false) (p : Process) : p.Swap first second := by
  obtain ⟨told, htold⟩ := exists_told hsecond p
  refine ⟨.error failure, (p.carryOut second).1, (p.carryOut second).2, [], told, ?_, ?_⟩
  · rw [carryOutAll_cons, carryOut_refused hfirst hs, List.append_nil, ← htold]
    rfl
  · rw [carryOutAll_cons, carryOutAll_cons, carryOut_refused hfirst hs, List.append_nil, ← htold]
    rfl

theorem swap_of_ne {first second : SetupCall} {m n : Int} (hfirst : first.signum? = some m)
    (hsecond : second.signum? = some n) (hmn : m ≠ n) (p : Process) : p.Swap first second := by
  cases hs : Signal.registrable m with
  | error failure => exact swap_refused hfirst hs (by simp [SetupCall.onFaults, hsecond]) p
  | ok s =>
    cases hu : Signal.registrable n with
    | error failure => exact (swap_refused hsecond hu (by simp [SetupCall.onFaults, hfirst]) p).symm
    | ok u =>
      have hne : s ≠ u := by
        rintro rfl
        exact hmn ((Signal.number_of_registrable hs).symm.trans (Signal.number_of_registrable hu))
      refine ⟨(p.patchOf first s).answer, (p.patchOf second u).answer,
        (p.patch s (p.patchOf first s)).patch u (p.patchOf second u),
        (p.patchOf first s).events, (p.patchOf second u).events, ?_, ?_⟩
      · simp only [carryOutAll, carryOut_ordinary hfirst hs, carryOut_ordinary hsecond hu,
          patchOf_patch hne]
        rfl
      · simp only [carryOutAll, carryOut_ordinary hfirst hs, carryOut_ordinary hsecond hu,
          patchOf_patch hne.symm, patch_patch hne]

-- ════════════════════════════════════════════════════════════════════════
-- All calls
-- ════════════════════════════════════════════════════════════════════════

/-- The two kinds of calls do not meet. What is set up for fault reports is what the calls on fault
reports alone set up, and what is set up for ordinary signals is what the calls on these alone set
up, apart from the choice of the stack; each call answers the same. Calls on different ordinary
signals can change places. -/
theorem setup_separate (p : Process) (calls : List SetupCall) :
    let whole := p.carryOutAll calls
    let faultsAlone := p.carryOutAll (calls.filter (·.onFaults))
    let usersAlone := p.carryOutAll (calls.filter fun c => !c.onFaults)
    (SameFaults faultsAlone.2 whole.2 ∧ whole.1.filter (·.1.onFaults) = faultsAlone.1) ∧
    (SameUsers usersAlone.2 whole.2 ∧ whole.1.filter (fun x => !x.1.onFaults) = usersAlone.1) ∧
    ∀ first second m n, first.signum? = some m → second.signum? = some n → m ≠ n →
      whole.2.Swap first second := by
  refine ⟨?_, ?_, fun first second m n hm hn hmn => swap_of_ne hm hn hmn _⟩
  · exact carryOutAll_filter (fun p q c hc h => h.carryOut hc)
      (fun p q c hc h => h.carryOut_user hc) calls (SameFaults.refl p)
  · exact carryOutAll_filter (fun p q c hc h => h.carryOut (by simpa using hc))
      (fun p q c hc h => h.carryOut_faults (by simpa using hc)) calls (SameUsers.refl p)

/-- The alternate stack that fault reports create is the one thing that passes over. -/
theorem setup_separate_altStack :
    let calls : List SetupCall :=
      [.enable .available Sink.standardError FaultSettings.standard,
        .register 10 Sink.standardError ⟨true, true⟩]
    let whole := initial.carryOutAll calls
    let usersAlone := initial.carryOutAll [.register 10 Sink.standardError ⟨true, true⟩]
    whole.2.actions.get Signal.user1 ≠ usersAlone.2.actions.get Signal.user1 ∧
      SameUsers usersAlone.2 whole.2 ∧
      whole.2.Swap (.unregister 10) (.register 12 Sink.standardError ⟨false, false⟩) := by
  intro calls whole usersAlone
  obtain ⟨-, ⟨husers, -⟩, hswap⟩ := setup_separate initial calls
  exact ⟨by decide, husers, hswap _ _ 10 12 rfl rfl (by decide)⟩

end Process

end CrashTrace
