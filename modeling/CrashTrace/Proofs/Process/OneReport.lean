import CrashTrace.Process.Operation
import CrashTrace.Proofs.Process.Course
import CrashTrace.Proofs.Process.FatalSignal

/-!
# The one fault report

Fatal signals and structured exceptions share the one fault report of a process. The first fault
that reaches one of the two handlers uses it up, also if there is no descriptor to report to at
that moment. So the report is made for the first fault that finds a descriptor if and only if no
fault came before it, or no fault finds one at all.

## Main definitions

- `FaultEvent` — what happens to a process that reports faults
- `FaultEvent.arrival?` — the report that a fault would be given if it were the first one
- `Process.face`, `Process.arrivals` — the run of some events, and the faults that arrive in it
- `Process.Watching` — what holds between two events

## Main results

- `FaultEvent.watched_run`, `Process.final_of_face`
- `Process.reported_iff`

## Design notes

A handler of the observed program that returns from an access to memory that is not there is
called again for ever, so `Action.Settles` leaves such handlers out.
-/

namespace CrashTrace

/-- The state in which a run ends or returns. -/
def Outcome.final? {α : Type} : Outcome α → Option Process
  | .returned _ p => some p
  | .ended _ p => some p
  | .unfinished => none

/-- A fault with this action comes to an end. -/
def Action.Settles (s : Signal) (a : Action) : Prop :=
  a.Quiet ∧ (s = Signal.segmentation → a.runsHandler = false)

/-- The actions of the observed program, the one in force and the saved one. -/
structure Entry.Settles (s : Signal) (e : Entry) : Prop where
  action : e.action.Foreign → e.action.Settles s
  previous : e.saved.installed → e.saved.previous.Settles s

theorem Entry.Settles.putBack {s : Signal} {e : Entry} (h : e.Settles s) : e.putBack.Settles s := by
  unfold Entry.putBack
  split
  · next hmark => exact ⟨fun _ => h.previous hmark, nofun⟩
  · exact h

/-- What happens to a process that reports faults. -/
inductive FaultEvent where
  | enable (supply : StackSupply) (sink : Sink) (settings : FaultSettings)
  | disable
  /-- The observed program asks for an action of its own. -/
  | install (s : Signal) (a : Action)
  | installExceptionHandler
  | uninstallExceptionHandler
  /-- A structured exception arrives, with its code if it can be read. -/
  | exception (caller : Option ThreadId) (code? : Option UInt32)
  /-- A thread is sent a signal. -/
  | signal (caller : Option ThreadId) (s : Signal)
  /-- A thread accesses memory that is not there. -/
  | segfault (caller : Option ThreadId)
  /-- Threads and the interpreter change. -/
  | elsewhere (registry : Registry) (interpreter : Interpreter)

namespace Process

/-- The report that a signal would be given if it were the first fault, provided that its action
is the reporting handler. Without a descriptor there would be none. -/
def arrival? (p : Process) (caller : Option ThreadId) (s : Signal) :
    Option (Option (Int × Text)) :=
  if (p.actions.get s).disposition = .handled .report then
    s.faultName?.map fun name => p.report? caller (faultHeader name)
  else none

/-- The same for an exception, provided that the handler for exceptions is installed and does not
ignore it. -/
def exceptionArrival? (p : Process) (caller : Option ThreadId) (code? : Option UInt32) :
    Option (Option (Int × Text)) :=
  if p.exceptionHandler then
    (code?.filter fun code => !exceptionIgnored code).map fun code =>
      p.report? caller (exceptionHeader code)
  else none

end Process

namespace FaultEvent

def run : FaultEvent → Run Unit
  | .enable supply sink settings => Run.change fun p => (p.enable supply sink settings).2
  | .disable => Run.change Process.disable
  | .install s a => Run.change fun p => p.trySetAction s a
  | .installExceptionHandler => Run.change Process.installExceptionHandler
  | .uninstallExceptionHandler => Run.change Process.uninstallExceptionHandler
  | .exception caller code? => do
    let _ ← Process.raiseException caller code?
    pure ()
  | .signal caller s => Process.raise caller Process.budget s
  | .segfault caller => Process.segfault caller Process.budget
  | .elsewhere registry interpreter =>
    Run.change fun p => { p with registry := registry, interpreter := interpreter }

/-- The report for a fault that reaches one of the two handlers. -/
def arrival? (p : Process) : FaultEvent → Option (Option (Int × Text))
  | .exception caller code? => p.exceptionArrival? caller code?
  | .signal caller s => p.arrival? caller s
  | .segfault caller => p.arrival? caller Signal.segmentation
  | _ => none

/-- Sinks are files that take reports, signals are fatal ones, and a fault comes to an end with the
actions that the observed program asks for. -/
def Proper (t : DescriptorTable) : FaultEvent → Prop
  | .enable _ sink _ => t.Works sink.descriptor
  | .install s a => a.Settles s
  | .signal _ s => s.faultName?.isSome
  | _ => True

end FaultEvent

namespace Process

variable {p q r : Process} {t : DescriptorTable} {past : List (Option (Int × Text))} {s : Signal}
  {caller : Option ThreadId}

def face : List FaultEvent → Run Unit
  | [] => pure ()
  | e :: rest => e.run >>= fun _ => face rest

/-- The faults that reach one of the two handlers, each with the report that it would be given. -/
def arrivals : List FaultEvent → Process → List (Option (Int × Text))
  | [], _ => []
  | e :: rest, p =>
    (e.arrival? p).toList ++
      match (e.run p).state? with
      | some q => arrivals rest q
      | none => []

/-- No fault has been reported or awaited, and the actions of the observed program for fatal
signals let a fault come to an end. -/
structure Unreported (p : Process) : Prop where
  untouched : Untouched p
  blocked : p.blocked = []
  pending : p.pending = []
  settles : ∀ s, s.faultName?.isSome → (p.actions.get s).Settles s
  target : p.faults.target.load? = none
  spent : p.faults.spent = false

/-- What holds between two events. The first fault among those that have arrived has been reported
if there was a descriptor, and no other one. -/
structure Watching (t : DescriptorTable) (past : List (Option (Int × Text))) (p : Process) :
    Prop where
  coherent : Coherent p
  blocked : p.blocked = []
  settled : Settled p
  settles : ∀ s, s.faultName?.isSome → (p.entry s).Settles s
  target : ∀ fd allThreads, p.faults.target.load? = some (fd, allThreads) → t.Works fd
  spent : p.faults.spent = !past.isEmpty
  descriptors : p.descriptors = t.reported past.head?.join

/-- What holds after an event, also if it ends the process. -/
def Watched (t : DescriptorTable) (past : List (Option (Int × Text))) : Outcome Unit → Prop
  | .returned _ q => Watching t past q
  | .ended _ q => q.descriptors = t.reported past.head?.join
  | .unfinished => False

-- ════════════════════════════════════════════════════════════════════════
-- What is not reported
-- ════════════════════════════════════════════════════════════════════════

/-- Nothing has been reported between two states. -/
structure Untold (p q : Process) : Prop where
  descriptors : q.descriptors = p.descriptors
  spent : q.faults.spent = p.faults.spent

namespace Untold

theorem trans (hpq : Untold p q) (hqr : Untold q r) : Untold p r :=
  ⟨hqr.descriptors.trans hpq.descriptors, hqr.spent.trans hpq.spent⟩

theorem trySetAction (p : Process) (s : Signal) (a : Action) : Untold p (p.trySetAction s a) := by
  obtain ⟨actions, pending, h, -⟩ := p.exists_trySetAction s a
  rw [h]
  exact ⟨rfl, rfl⟩

theorem uninstallFault (p : Process) (s : Signal) : Untold p (p.uninstallFault s) := by
  rw [uninstallFault_eq]
  obtain ⟨actions, pending, h, -⟩ := p.exists_reinstate s (p.faults.saved.get s)
  rw [h]
  exact ⟨rfl, rfl⟩

theorem foldl (change : Process → Signal → Process) (h : ∀ p s, Untold p (change p s))
    (signals : List Signal) (p : Process) : Untold p (signals.foldl change p) := by
  induction signals generalizing p with
  | nil => exact ⟨rfl, rfl⟩
  | cons s signals ih => exact (h p s).trans (ih _)

theorem disable (p : Process) : Untold p p.disable := by
  have h : Untold p p.uninstallFaults := foldl Process.uninstallFault uninstallFault faultSignals p
  unfold Process.disable
  generalize p.uninstallFaults = q at h
  split
  · exact ⟨h.descriptors, h.spent⟩
  · exact ⟨rfl, rfl⟩

theorem enable (p : Process) (supply : StackSupply) (sink : Sink) (settings : FaultSettings) :
    Untold p (p.enable supply sink settings).2 := by
  have hinstall := foldl (installFault settings) (fun p s => ⟨rfl, rfl⟩) faultSignals
  unfold Process.enable
  split
  · exact ⟨rfl, rfl⟩
  · dsimp only
    split
    · exact ⟨rfl, rfl⟩
    · split
      · exact ⟨rfl, rfl⟩
      · next ready hready =>
        obtain ⟨altStack, rfl⟩ := provideAltStack_eq hready
        have hinstalled := hinstall
          ((p.aim sink settings).changeFaults fun f => { f with altStack := altStack })
        unfold aim at hinstalled
        generalize List.foldl (installFault settings) _ faultSignals = installed at hinstalled
        exact ⟨hinstalled.descriptors, hinstalled.spent⟩

end Untold

-- ════════════════════════════════════════════════════════════════════════
-- Between two events
-- ════════════════════════════════════════════════════════════════════════

namespace Watching

theorem start (h : Unreported p) : Watching p.descriptors [] p := by
  refine ⟨h.untouched.coherent, h.blocked, ?_, fun s hs => ⟨fun _ => h.settles s hs, fun hmark => ?_⟩,
    fun fd allThreads htarget => ?_, h.spent, rfl⟩
  · refine ⟨fun s _ hmem => ?_, fun s _ => ?_⟩
    · rw [h.pending] at hmem
      cases hmem
    · rw [h.pending]
      exact Nat.zero_le 1
  · exact absurd ((h.untouched.saved s).symm.trans hmark) (by decide)
  · rw [h.target] at htarget
    cases htarget

theorem free (h : Watching t past p) (s : Signal) : s ∉ p.blocked := by
  rw [h.blocked]
  exact List.not_mem_nil

theorem absent (h : Watching t past p) (hs : s.faultName?.isSome) : s ∉ p.pending := by
  intro hmem
  exact h.free s (h.settled.blocked s (Signal.not_queues_of_fault s hs) hmem)

/-- Nothing changes that matters here. -/
theorem of_alike (h : Watching t past p) (hq : Alike p q) (huntold : Untold p q) :
    Watching t past q where
  coherent := (Keeps.of_alike h.coherent hq.actions hq.saved hq.enabled hq.userSignals).coherent
  blocked := hq.blocked.trans h.blocked
  settled := (Undisturbed.closed.of_alike hq).settled h.settled
  settles s hs := by
    rw [entry_congr hq.actions hq.saved hq.userSignals]
    exact h.settles s hs
  target fd allThreads htarget := h.target fd allThreads (hq.target ▸ htarget)
  spent := huntold.spent.trans h.spent
  descriptors := huntold.descriptors.trans h.descriptors

/-- A sink works as long as nothing has been reported. -/
theorem works (h : Watching t past p) (hspent : p.faults.spent = false) (fd : Int)
    (allThreads : Bool) (htarget : p.faults.target.load? = some (fd, allThreads)) :
    p.descriptors.Works fd := by
  have hpast : past = [] := by
    have hspent := h.spent.symm.trans hspent
    rwa [Bool.not_eq_false', List.isEmpty_iff] at hspent
  rw [h.descriptors, hpast]
  exact h.target fd allThreads htarget

/-- A fault has reached one of the handlers. -/
theorem told (h : Watching t past p) (report : Option (Int × Text)) :
    Watching t (past ++ [report]) (p.told report) := by
  have hquiet : Alike p (p.told report) := ⟨rfl, rfl, rfl, rfl, rfl, rfl, rfl⟩
  have hafter : (p.told report).descriptors = t.reported (past ++ [report]).head?.join := by
    unfold Process.told
    rw [h.spent, h.descriptors]
    cases past with
    | nil => rfl
    | cons first later => rfl
  have hpast : (past ++ [report]).isEmpty = false := by cases past <;> rfl
  refine ⟨?_, hquiet.blocked.trans h.blocked, ?_, fun s hs => ?_, h.target, ?_, hafter⟩
  · exact (Keeps.of_alike h.coherent hquiet.actions hquiet.saved hquiet.enabled
      hquiet.userSignals).coherent
  · exact (Undisturbed.closed.of_alike hquiet).settled h.settled
  · exact h.settles s hs
  · rw [hpast]
    rfl

theorem enable (h : Watching t past p) (supply : StackSupply) {sink : Sink}
    (hsink : t.Works sink.descriptor) (settings : FaultSettings) :
    Watching t past (p.enable supply sink settings).2 := by
  have hcoherent := (enable_sets h.coherent supply sink settings).coherent
  have huntold := Untold.enable p supply sink settings
  have haim : ∀ fd allThreads, (p.aim sink settings).faults.target.load? = some (fd, allThreads) →
      t.Works fd := by
    intro fd allThreads htarget
    obtain ⟨rfl, -⟩ := Prod.mk.inj (Option.some.inj htarget)
    exact hsink
  have houtcome := enable_outcome p supply sink settings
  generalize p.enable supply sink settings = answered at hcoherent huntold houtcome
  cases houtcome with
  | refused failure => exact h
  | replaced hon =>
    exact ⟨hcoherent, h.blocked, h.settled.of_sublist (fun _ hs => hs) (List.Sublist.refl _),
      h.settles, haim, huntold.spent.trans h.spent, huntold.descriptors.trans h.descriptors⟩
  | noStack failure hoff =>
    exact ⟨hcoherent, h.blocked, h.settled.of_sublist (fun _ hs => hs) (List.Sublist.refl _),
      h.settles, nofun, huntold.spent.trans h.spent, huntold.descriptors.trans h.descriptors⟩
  | enabled altStack installed hoff hinstalled =>
    have hsettled : Settled installed :=
      hinstalled.undisturbed (h.settled.of_sublist (fun _ hs => hs) (List.Sublist.refl _))
    refine ⟨hcoherent, hinstalled.blocked.trans h.blocked,
      hsettled.of_sublist (fun _ hs => hs) (List.Sublist.refl _), fun s hs => ?_,
      fun fd allThreads htarget => ?_, huntold.spent.trans h.spent,
      huntold.descriptors.trans h.descriptors⟩
    · have hmem := (mem_faultSignals s).mpr hs
      have hunmarked : ¬ (p.entry s).saved.installed := by
        intro hmark
        have hmark : (p.saved s).installed := hmark
        rw [saved_of_fault hs] at hmark
        exact absurd (hoff.symm.trans (h.coherent.enabled s hmark)) (by decide)
      refine ⟨fun hforeign => ?_, fun _ => ?_⟩
      · have haction : (installed.actions.get s).disposition = .handled .report := by
          rw [hinstalled.actions s hmem]
          rfl
        exact absurd haction hforeign.1
      · show (saved _ s).previous.Settles s
        rw [saved_of_fault hs]
        show (installed.faults.saved.get s).previous.Settles s
        rw [hinstalled.saved s hmem]
        exact (h.settles s hs).action ((h.coherent.entry s).foreign_of_unmarked hunmarked)
    · refine haim fd allThreads ?_
      rw [← htarget]
      exact congrArg DumpTarget.load? hinstalled.target.symm

theorem disable (h : Watching t past p) : Watching t past p.disable := by
  have huntold := Untold.disable p
  obtain ⟨hsettled, hblocked⟩ := disable_settled h.settled
  refine ⟨(disable_keeps h.coherent).coherent, hblocked.trans h.blocked, hsettled,
    fun s hs => ?_, fun fd allThreads htarget => ?_, huntold.spent.trans h.spent,
    huntold.descriptors.trans h.descriptors⟩
  · rw [entry_disable h.coherent, if_pos hs]
    exact (h.settles s hs).putBack
  · unfold Process.disable at htarget
    generalize p.uninstallFaults = q at htarget
    split at htarget
    · cases htarget
    · exact h.target fd allThreads htarget

theorem install (h : Watching t past p) {a : Action} (ha : a.Settles s) : Watching t past (p.trySetAction s a) := by
  have hforeign : a.Foreign := by
    unfold Action.Foreign
    obtain h | h | h | h := ha.1 <;> rw [h] <;> decide
  have hsaved : ∀ u, (p.trySetAction s a).saved u = p.saved u := by
    intro u
    unfold Process.saved userSignal
    rw [trySetAction_faults, trySetAction_userSignals]
  have huntold := Untold.trySetAction p s a
  have hun := Undisturbed.trySetAction p s a
  refine ⟨install_coherent h.coherent s hforeign, hun.blocked.trans h.blocked,
    hun.settled h.settled, fun u hu => ⟨fun hown => ?_, fun hmark => ?_⟩,
    fun fd allThreads htarget => h.target fd allThreads (hun.target ▸ htarget),
    huntold.spent.trans h.spent, huntold.descriptors.trans h.descriptors⟩
  · have hown : ((p.trySetAction s a).actions.get u).Foreign := hown
    show ((p.trySetAction s a).actions.get u).Settles u
    rw [trySetAction_get] at hown ⊢
    split at hown
    · next hsame =>
      rw [if_pos hsame, ← hsame.1]
      exact ha
    · next hother =>
      rw [if_neg hother]
      exact (h.settles u hu).action hown
  · have hmark : ((p.trySetAction s a).saved u).installed := hmark
    show ((p.trySetAction s a).saved u).previous.Settles u
    rw [hsaved] at hmark ⊢
    exact (h.settles u hu).previous hmark

-- ════════════════════════════════════════════════════════════════════════
-- Faults
-- ════════════════════════════════════════════════════════════════════════

/-- The action of a fatal signal is one of the observed program, or the reporting handler. -/
theorem action_cases (h : Watching t past p) (hs : s.faultName?.isSome) :
    ((p.actions.get s).Settles s ∧ ∀ caller, p.arrival? caller s = none) ∨
      ∃ flags name, p.actions.get s = ⟨.handled .report, flags⟩ ∧ flags.noDefer ∧
        (p.faults.saved.get s).installed ∧ (p.faults.saved.get s).previous.Settles s ∧
        s.faultName? = some name ∧
        ∀ caller, p.arrival? caller s = some (p.report? caller (faultHeader name)) := by
  by_cases hforeign : (p.actions.get s).Foreign
  · refine .inl ⟨(h.settles s hs).action hforeign, fun caller => ?_⟩
    unfold Process.arrival?
    rw [if_neg hforeign.1]
  · obtain ⟨hmark, hfits⟩ := (h.coherent.entry s).own hforeign
    rw [Action.Fits, if_pos hs] at hfits
    obtain ⟨hdisposition, hdefer⟩ := hfits
    have hdisposition : (p.actions.get s).disposition = .handled .report := hdisposition
    have hprevious := (h.settles s hs).previous hmark
    have hmark : (p.saved s).installed := hmark
    have hprevious : (p.saved s).previous.Settles s := hprevious
    rw [saved_of_fault hs] at hmark hprevious
    obtain ⟨name, hname⟩ := Option.isSome_iff_exists.mp hs
    refine .inr ⟨(p.actions.get s).flags, name, ?_, hdefer, hmark, hprevious, hname,
      fun caller => ?_⟩
    · rw [← hdisposition]
    · unfold Process.arrival?
      rw [if_pos hdisposition, hname, Option.map_some]

theorem signal (h : Watching t past p) (hs : s.faultName?.isSome) (caller : Option ThreadId) :
    Watched t (past ++ (p.arrival? caller s).toList) (raise caller budget s p) := by
  obtain ⟨hsettles, harrival⟩ | ⟨flags, name, haction, hdefer, hmark, hprevious, hname, harrival⟩ :=
    h.action_cases hs
  · rw [harrival caller, Option.toList_none, List.append_nil]
    have hcounted : Watching t past { p with calls := p.callsAfter s (p.actions.get s) } :=
      h.of_alike ⟨rfl, rfl, rfl, rfl, rfl, rfl, rfl⟩ ⟨rfl, rfl⟩
    obtain hended | hreturned :=
      raise_quiet hs (h.free s) (h.absent hs) hsettles.1 caller 999
    · have hended : raise caller budget s p = _ := hended
      rw [hended]
      exact hcounted.descriptors
    · have hreturned : raise caller budget s p = _ := hreturned
      rw [hreturned]
      exact hcounted
  · rw [harrival caller, Option.toList_some]
    have htold := h.told (p.report? caller (faultHeader name))
    obtain ⟨q, hended, -, hdescriptors⟩ := raise_reported hs (h.free s) (h.absent hs) haction hdefer
      hmark hprevious.1 (reportNamed_told (raise caller 999) caller hname h.works)
      ⟨rfl, rfl, rfl, rfl, rfl, rfl, rfl⟩ rfl
    have hended : raise caller budget s p = .ended (.signal s) q := hended
    rw [hended]
    exact hdescriptors.trans htold.descriptors

end Watching

/-- The reporting handler of a fault that is none of a sent signal returns if the saved action is
to ignore the signal, and otherwise does not. -/
theorem handleFault_unsent (hs : s.faultName?.isSome) (hfree : s ∉ p.blocked)
    (hmark : (p.faults.saved.get s).installed)
    (hprevious : (p.faults.saved.get s).previous.disposition = .byDefault ∨
      (p.faults.saved.get s).previous.disposition = .ignored) {budget : Nat}
    (hreport : reportNamed (raise caller (budget + 1)) caller s p = .returned () r)
    (hr : Alike p r) :
    handleFault (raise caller (budget + 1)) caller s false p =
        .ended (.signal s) (r.uninstallFault s) ∨
      handleFault (raise caller (budget + 1)) caller s false p =
          .returned () (r.uninstallFault s) ∧
        ((r.uninstallFault s).actions.get s).disposition = .ignored := by
  have haction : (r.uninstallFault s).actions.get s = (p.faults.saved.get s).previous := by
    rw [uninstallFault_get hs (by rw [hr.saved]; exact hmark), hr.saved]
  have hblocked : s ∉ (r.uninstallFault s).blocked := by
    rw [(Undisturbed.uninstallFault r s).blocked, hr.blocked]
    exact hfree
  rw [handleFault_eq, Run.bind_of_returned hreport, Run.change_bind, if_pos hs]
  obtain hdefault | hignored := hprevious
  · rw [Run.bind_of_ended (raise_default (Signal.not_reserved_of_fault s hs)
      (Signal.not_ignored_of_fault s hs) hblocked (by rw [haction]; exact hdefault) caller budget)]
    exact .inl rfl
  · have hreturned : raise caller (budget + 1) s (r.uninstallFault s) =
        .returned () (r.uninstallFault s) := by
      rw [raise_free (Signal.not_reserved_of_fault s hs) hblocked]
      unfold takePlace
      rw [Run.state_bind, haction, hignored]
      rfl
    rw [Run.bind_of_returned hreturned]
    refine .inr ⟨rfl, ?_⟩
    rw [haction]
    exact hignored

theorem segfault_unhandled (haction : (p.actions.get Signal.segmentation).disposition = .byDefault ∨
      (p.actions.get Signal.segmentation).disposition = .ignored)
    (caller : Option ThreadId) (budget : Nat) :
    segfault caller (budget + 1) p = .ended (.signal Signal.segmentation) p := by
  unfold segfault
  rw [Run.state_bind]
  obtain haction | haction := haction
  · rw [haction]
    rfl
  · rw [haction]
    rfl

theorem unhandled_of_settles {a : Action} (h : a.Settles Signal.segmentation) :
    a.disposition = .byDefault ∨ a.disposition = .ignored := by
  have hnone := h.2 rfl
  obtain hdefault | hignored | hown | hown := h.1
  · exact .inl hdefault
  · exact .inr hignored
  · rw [Action.runsHandler, hown] at hnone
    cases hnone
  · rw [Action.runsHandler, hown] at hnone
    cases hnone

namespace Watching

theorem segfault (h : Watching t past p) (caller : Option ThreadId) :
    Watched t (past ++ (p.arrival? caller Signal.segmentation).toList)
      (Process.segfault caller budget p) := by
  have hs : Signal.segmentation.faultName?.isSome := rfl
  obtain ⟨hsettles, harrival⟩ | ⟨flags, name, haction, hdefer, hmark, hprevious, hname, harrival⟩ :=
    h.action_cases hs
  · rw [harrival caller, Option.toList_none, List.append_nil]
    have hended : Process.segfault caller budget p = _ :=
      segfault_unhandled (unhandled_of_settles hsettles) caller 999
    rw [hended]
    exact h.descriptors
  · rw [harrival caller, Option.toList_some]
    have htold := h.told (p.report? caller (faultHeader name))
    set report := p.report? caller (faultHeader name) with hreport
    have hdescriptors : ((p.told report).uninstallFault Signal.segmentation).descriptors =
        t.reported (past ++ [report]).head?.join :=
      (uninstallFault_descriptors _ _).trans htold.descriptors
    have hhandle := handleFault_unsent hs (h.free _) hmark (unhandled_of_settles hprevious)
      (reportNamed_told (raise caller 999) caller hname h.works)
      ⟨rfl, rfl, rfl, rfl, rfl, rfl, rfl⟩
    rw [← hreport] at hhandle
    have hsegfault : Process.segfault caller budget p =
        (invoke (raise caller 999) caller Signal.segmentation false flags .report >>= fun _ =>
          Process.segfault caller 999) p := by
      show Process.segfault caller (999 + 1) p = _
      rw [Process.segfault, Run.state_bind, haction]
      dsimp only
      rw [if_neg (by simpa using h.free Signal.segmentation)]
    rw [hsegfault]
    obtain hended | ⟨hreturned, hignored⟩ := hhandle
    · have hinvoke : invoke (raise caller 999) caller Signal.segmentation false flags .report p =
          .ended (.signal Signal.segmentation)
            ((p.told report).uninstallFault Signal.segmentation) := by
        unfold invoke
        rw [Run.state_bind, Run.change_bind, if_pos hdefer]
        exact Run.bind_of_ended hended _
      rw [Run.bind_of_ended hinvoke]
      exact hdescriptors
    · have hpending : Signal.segmentation ∉
          ((p.told report).uninstallFault Signal.segmentation).pending := fun hmem =>
        h.absent hs ((uninstallFault_pending (p.told report) _).subset hmem)
      have hinvoke : invoke (raise caller 999) caller Signal.segmentation false flags .report p =
          .returned () { (p.told report).uninstallFault Signal.segmentation with
            blocked := p.blocked } := by
        unfold invoke
        rw [Run.state_bind, Run.change_bind, if_pos hdefer]
        have hhandle : handle (raise caller 999) caller Signal.segmentation false .report p = _ :=
          hreturned
        rw [Run.bind_of_returned hhandle, Run.change_bind]
        exact deliverPending_absent hpending
      rw [Run.bind_of_returned hinvoke]
      have hlast : Process.segfault caller 999
          { (p.told report).uninstallFault Signal.segmentation with blocked := p.blocked } = _ :=
        segfault_unhandled (p := { (p.told report).uninstallFault Signal.segmentation with
          blocked := p.blocked }) (.inr hignored) caller 998
      rw [hlast]
      exact hdescriptors

end Watching

theorem exceptionHeader_ne_nil (code : UInt32) (p : Process) :
    (exceptionHeader code p).text ≠ [] := by
  have htitle : "Windows fatal exception: ".toList ≠ [] := by decide
  unfold exceptionHeader Report.exceptionHeader
  rw [List.cons_append, Pieces.text_cons]
  exact List.append_ne_nil_of_left_ne_nil htitle _

/-- An exception is reported by an installed handler, unless it is ignored. -/
theorem raiseException_eq (caller : Option ThreadId) (code? : Option UInt32) (p : Process) :
    raiseException caller code? p =
      if p.exceptionHandler then
        match code?.filter fun code => !exceptionIgnored code with
        | some code =>
          (reportFault (raise caller budget) caller (exceptionHeader code) >>= fun _ => pure [0]) p
        | none => .returned [0] p
      else .returned [] p := by
  unfold raiseException
  rw [Run.state_bind]
  cases p.exceptionHandler with
  | false => rfl
  | true =>
    cases code?.filter fun code => !exceptionIgnored code with
    | none => rfl
    | some code => rfl

namespace Watching

theorem exception (h : Watching t past p) (caller : Option ThreadId) (code? : Option UInt32) :
    Watched t (past ++ (p.exceptionArrival? caller code?).toList)
      ((FaultEvent.exception caller code?).run p) := by
  have hrun : ∀ answers q, raiseException caller code? p = .returned answers q →
      (FaultEvent.exception caller code?).run p = .returned () q :=
    fun answers q hreturned => Run.bind_of_returned hreturned _
  have heq := raiseException_eq caller code? p
  unfold exceptionArrival?
  cases hhandler : p.exceptionHandler with
  | false =>
    rw [hhandler, if_neg (by decide)] at heq
    rw [hrun _ _ heq, if_neg (by decide), Option.toList_none, List.append_nil]
    exact h
  | true =>
    rw [hhandler, if_pos rfl] at heq
    rw [if_pos rfl]
    cases hcode : code?.filter fun code => !exceptionIgnored code with
    | none =>
      rw [hcode] at heq
      rw [hrun _ _ heq, Option.map_none, Option.toList_none, List.append_nil]
      exact h
    | some code =>
      have hreport := reportFault_of_works (raise caller budget) caller
        (exceptionHeader code) h.works
      rw [hcode] at heq
      dsimp only at heq
      rw [Run.bind_of_returned hreport] at heq
      rw [hrun _ _ heq, Option.map_some, Option.toList_some]
      exact h.told _

/-- An event that brings no fault. -/
theorem change (h : Watching t past q) {e : FaultEvent} (harrival : e.arrival? p = none)
    (hrun : e.run p = .returned () q) : Watched t (past ++ (e.arrival? p).toList) (e.run p) := by
  rw [harrival, hrun, Option.toList_none, List.append_nil]
  exact h

end Watching

-- ════════════════════════════════════════════════════════════════════════
-- Runs
-- ════════════════════════════════════════════════════════════════════════

/-- One event. -/
theorem watched_run (h : Watching t past p) {e : FaultEvent} (he : e.Proper t) :
    Watched t (past ++ (e.arrival? p).toList) (e.run p) := by
  cases e with
  | enable supply sink settings => exact (h.enable supply he settings).change rfl rfl
  | disable => exact h.disable.change rfl rfl
  | install s a => exact (h.install he).change rfl rfl
  | installExceptionHandler =>
    exact (h.of_alike (q := p.installExceptionHandler) ⟨rfl, rfl, rfl, rfl, rfl, rfl, rfl⟩
      ⟨rfl, rfl⟩).change rfl rfl
  | uninstallExceptionHandler =>
    exact (h.of_alike (q := p.uninstallExceptionHandler) ⟨rfl, rfl, rfl, rfl, rfl, rfl, rfl⟩
      ⟨rfl, rfl⟩).change rfl rfl
  | exception caller code? => exact h.exception caller code?
  | signal caller s => exact h.signal he caller
  | segfault caller => exact h.segfault caller
  | elsewhere registry interpreter =>
    exact (h.of_alike (q := { p with registry := registry, interpreter := interpreter })
      ⟨rfl, rfl, rfl, rfl, rfl, rfl, rfl⟩ ⟨rfl, rfl⟩).change rfl rfl

/-- The run comes to an end, and the first fault of all has been reported if there was a
descriptor then. The induction is on the events, after some faults that have arrived. -/
theorem final_of_face (h : Watching t past p) {events : List FaultEvent}
    (hevents : ∀ e ∈ events, e.Proper t) :
    ∃ q, (face events p).final? = some q ∧
      q.descriptors = t.reported (past ++ arrivals events p).head?.join := by
  induction events generalizing past p with
  | nil =>
    refine ⟨p, rfl, ?_⟩
    rw [arrivals, List.append_nil]
    exact h.descriptors
  | cons e events ih =>
    obtain ⟨he, hrest⟩ := List.forall_mem_cons.mp hevents
    have hfirst := watched_run h he
    rw [arrivals, ← List.append_assoc]
    unfold face
    cases hrun : e.run p with
    | returned v q =>
      rw [hrun] at hfirst
      rw [Run.bind_of_returned hrun]
      exact ih hfirst hrest
    | ended status q =>
      rw [hrun] at hfirst
      rw [Run.bind_of_ended hrun]
      refine ⟨q, rfl, ?_⟩
      rw [Outcome.state?, List.append_nil]
      exact hfirst
    | unfinished =>
      rw [hrun] at hfirst
      exact hfirst.elim

/-- What a fault would be given goes to a file that takes it. -/
theorem works_of_arrival {e : FaultEvent} (h : Watching t past p) {fd : Int} {text : Text}
    (harrival : e.arrival? p = some (some (fd, text))) : t.Works fd ∧ text ≠ [] := by
  have hreport : ∀ caller header, (header p).text ≠ [] →
      p.report? caller header = some (fd, text) → t.Works fd ∧ text ≠ [] := by
    intro caller header hheader hreport
    obtain ⟨target, htarget, heq⟩ := Option.map_eq_some_iff.mp hreport
    obtain ⟨rfl, rfl⟩ := Prod.mk.inj heq
    exact ⟨h.target _ _ htarget, reportPieces_ne_nil hheader p caller target.2⟩
  have hsignal : ∀ caller s, p.arrival? caller s = some (some (fd, text)) →
      t.Works fd ∧ text ≠ [] := by
    intro caller s harrival
    unfold Process.arrival? at harrival
    split at harrival
    · obtain ⟨name, -, hname⟩ := Option.map_eq_some_iff.mp harrival
      exact hreport caller _ (faultHeader_ne_nil name p) hname
    · cases harrival
  cases e with
  | exception caller code? =>
    have harrival : p.exceptionArrival? caller code? = some (some (fd, text)) := harrival
    unfold exceptionArrival? at harrival
    split at harrival
    · obtain ⟨code, -, hcode⟩ := Option.map_eq_some_iff.mp harrival
      exact hreport caller _ (exceptionHeader_ne_nil code p) hcode
    · cases harrival
  | signal caller s => exact hsignal caller s harrival
  | segfault caller => exact hsignal caller _ harrival
  | _ => cases harrival

theorem works_of_mem_arrivals (h : Watching t past p) {events : List FaultEvent}
    (hevents : ∀ e ∈ events, e.Proper t) {fd : Int} {text : Text}
    (hmem : some (fd, text) ∈ arrivals events p) : t.Works fd ∧ text ≠ [] := by
  induction events generalizing past p with
  | nil => cases hmem
  | cons e events ih =>
    obtain ⟨he, hrest⟩ := List.forall_mem_cons.mp hevents
    have hfirst := watched_run h he
    rw [arrivals, List.mem_append, Option.mem_toList] at hmem
    obtain hnow | hlater := hmem
    · exact works_of_arrival h hnow
    · cases hrun : e.run p with
      | returned v q =>
        rw [hrun] at hfirst hlater
        exact ih hfirst hrest hlater
      | ended status q =>
        rw [hrun] at hlater
        cases hlater
      | unfinished =>
        rw [hrun] at hlater
        cases hlater

theorem reported_ne (t : DescriptorTable) {fd : Int} {text : Text} (hworks : t.Works fd)
    (htext : text ≠ []) : t.reported (some (fd, text)) ≠ t := by
  intro heq
  have hafter := DescriptorTable.textOf_reported hworks text
  rw [heq] at hafter
  have hlength := congrArg String.length hafter
  rw [String.length_append, String.length_ofList] at hlength
  have hpos := List.length_pos_iff.mpr htext
  omega

/-- Whatever happens, the process makes at most one report, and it makes it for the first fault
that reaches one of the two handlers: if there is no descriptor then, there is no report at all.
So the report is made for the first fault that finds a descriptor if and only if the first fault
of all finds one or none does. -/
theorem reported_iff (hp : Unreported p) {events : List FaultEvent}
    (hevents : ∀ e ∈ events, e.Proper p.descriptors) :
    ∃ q, (face events p).final? = some q ∧
      q.descriptors = p.descriptors.reported (arrivals events p).head?.join ∧
      (q.descriptors = p.descriptors.reported ((arrivals events p).findSome? id) ↔
        ((arrivals events p).head? = some none → ∀ report ∈ arrivals events p, report = none)) := by
  have hstart := Watching.start hp
  obtain ⟨q, hq, hdescriptors⟩ := final_of_face hstart hevents
  have hworks : ∀ fd text, some (fd, text) ∈ arrivals events p →
      p.descriptors.Works fd ∧ text ≠ [] := fun fd text => works_of_mem_arrivals hstart hevents
  refine ⟨q, hq, hdescriptors, ?_⟩
  rw [hdescriptors, List.nil_append]
  cases harrivals : arrivals events p with
  | nil => simp
  | cons first later =>
    cases first with
    | some report => simp
    | none =>
      rw [harrivals] at hworks
      constructor
      · intro heq _ report hmem
        by_contra hsome
        cases hfound : ((none :: later).findSome? id : Option (Int × Text)) with
        | none => exact hsome (List.findSome?_eq_none_iff.mp hfound report hmem)
        | some found =>
          obtain ⟨r, hr, hid⟩ := List.exists_of_findSome?_eq_some hfound
          obtain rfl : r = some found := hid
          obtain ⟨hworks, htext⟩ := hworks found.1 found.2 hr
          rw [hfound] at heq
          exact reported_ne _ hworks htext heq.symm
      · intro hnone
        have hfound : ((none :: later).findSome? id : Option (Int × Text)) = none :=
          List.findSome?_eq_none_iff.mpr (hnone rfl)
        rw [hfound]
        rfl

/-- A process with one file, in which nothing has been set up. -/
def withFile : Process :=
  { Process.initial with descriptors := DescriptorTable.initial.openAs 100 .file }

theorem unreported_withFile : Unreported withFile := by
  refine ⟨⟨untouched_initial.foreign, untouched_initial.fatal, untouched_initial.ordinary⟩, rfl, rfl,
    fun s _ => ?_, rfl, rfl⟩
  have hactions : withFile.actions.get s =
      if Signal.pipe = s then ⟨.ignored, ActionFlags.none⟩ else Action.initial := by
    show Process.initial.actions.get s = _
    rw [Process.initial, SignalTable.get_put, SignalTable.get_constant]
  rw [hactions]
  split
  · exact ⟨.inr (.inl rfl), fun _ => rfl⟩
  · exact ⟨.inl rfl, fun _ => rfl⟩

/-- An exception that is ignored, and two faults. -/
def heard : List FaultEvent :=
  [.installExceptionHandler, .enable .available ⟨100⟩ .standard, .exception none (some 0x40010006),
    .exception none (some 0xC0000005), .signal none Signal.segmentation]

theorem reported_iff_withFile : ∃ q, (face heard withFile).final? = some q ∧
    q.descriptors.textOf 100 = "Windows fatal exception: access violation\n\n" := by
  have hworks : withFile.descriptors.Works 100 := .inr (.inl rfl)
  have hevents : ∀ e ∈ heard, e.Proper withFile.descriptors := by
    simp only [heard, List.forall_mem_cons]
    exact ⟨trivial, hworks, trivial, trivial, rfl, nofun⟩
  obtain ⟨q, hq, hdescriptors, -⟩ := reported_iff unreported_withFile hevents
  refine ⟨q, hq, ?_⟩
  rw [hdescriptors]
  decide +kernel

/-- A fault before there is a descriptor, and another one after that. -/
def unheard : List FaultEvent :=
  [.installExceptionHandler, .exception none (some 0xC0000005), .enable .available ⟨100⟩ .standard,
    .exception none (some 0xC0000005)]

/-- The first fault uses the report up, and the second one is not reported, although it is the
first one that finds a descriptor. -/
theorem exists_lost_report : ∃ q, (face unheard withFile).final? = some q ∧
    q.descriptors.textOf 100 = "" ∧
    (arrivals unheard withFile).findSome? id =
      some (100, "Windows fatal exception: access violation\n\n".toList) := by
  refine ⟨_, rfl, ?_, ?_⟩
  · decide +kernel
  · decide +kernel

end Process

end CrashTrace
