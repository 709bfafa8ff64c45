import CrashTrace.Proofs.Process.CurrentThread
import CrashTrace.Proofs.Process.FatalSignal
import CrashTrace.Proofs.Process.Setup

/-!
# The end by a fatal error

A fatal error is reported at once. Then the fault handlers are taken away and the process aborts,
so whatever handler of the abort signal was there before runs without a second report.

## Main definitions

- `Process.fatalErrorText` — the report on a fatal error
- `Action.Concludes` — the actions of a fatal signal after which nothing more is reported
- `Action.endOf` — how a process ends that aborts while an action is in force

## Main results

- `Process.fatalError_ended`
-/

namespace CrashTrace

/-- The action does nothing that could lead to a report: it is quiet, or it is a handler of the
observed program that ends the process. -/
def Action.Concludes (a : Action) : Prop := a.Quiet ∨ a.disposition = .handled (.own .exits)

/-- How a process ends that aborts while the action is in force. Only a handler that ends the
process comes before the abort signal. -/
def Action.endOf (a : Action) : ExitStatus :=
  if a.disposition = .handled (.own .exits) then .code Process.ownExitCode
  else .signal Signal.abort

theorem Action.Quiet.endOf {a : Action} (h : a.Quiet) : a.endOf = .signal Signal.abort := by
  unfold Action.endOf
  rw [if_neg]
  intro hexits
  obtain h | h | h | h := h
  all_goals
    rw [h] at hexits
    cases hexits

namespace Process

variable {p : Process} {fd : Int} {allThreads : Bool}

-- ════════════════════════════════════════════════════════════════════════
-- The report
-- ════════════════════════════════════════════════════════════════════════

/-- The report on a fatal error: the function that met it, if one is given, and the message, the
phase of the interpreter, a blank line, the stacks, and the native modules if there are any. -/
def fatalErrorText (p : Process) (function? : Option String) (message : String)
    (caller : Option ThreadId) (allThreads : Bool) : Text :=
  "Fatal Python error: ".toList
    ++ (match function? with
      | some function => function.toList ++ ": ".toList
      | none => [])
    ++ message.toList ++ ['\n']
    ++ ("Python runtime state: ".toList ++ p.interpreter.phase.word.toList ++ ['\n'])
    ++ ['\n']
    ++ (Report.dump p.registry caller allThreads p.interpreter.collecting).text
    ++ (match p.interpreter.modulesLine? with
      | some line => '\n' :: line
      | none => [])

theorem text_fatalErrorPieces (p : Process) (function? : Option String) (message : String)
    (caller : Option ThreadId) (allThreads : Bool) :
    (p.reportPieces (Report.fatalHeader function? message (some p.interpreter.phase)) caller
      allThreads).text = p.fatalErrorText function? message caller allThreads := by
  have hmodules : (Report.modules p.interpreter).text =
      match p.interpreter.modulesLine? with
      | some line => '\n' :: line
      | none => [] := text_modules p.interpreter
  unfold reportPieces fatalErrorText dumpPieces Report.fatalHeader Report.phaseLine
  generalize "Fatal Python error: ".toList = title
  generalize "Python runtime state: ".toList = state
  cases function? with
  | none =>
    simp only [Pieces.text_append, Pieces.text_cons, hmodules, List.nil_append, List.append_nil,
      List.append_assoc, List.cons_append]
  | some function =>
    simp only [Pieces.text_append, Pieces.text_cons, hmodules, List.nil_append,
      List.append_assoc, List.cons_append]

-- ════════════════════════════════════════════════════════════════════════
-- Taking the fault handlers away
-- ════════════════════════════════════════════════════════════════════════

/-- Putting actions back has nothing to do with what was written. -/
theorem uninstallFault_offered (p : Process) (fd : Int) (text : Text) (s : Signal) :
    (p.offered fd text).uninstallFault s = (p.uninstallFault s).offered fd text := by
  unfold uninstallFault restore trySetAction setAction? offered
  dsimp only
  split
  · split
    · rfl
    · rfl
  · rfl

theorem uninstallFaults_offered (p : Process) (fd : Int) (text : Text) :
    (p.offered fd text).uninstallFaults = p.uninstallFaults.offered fd text := by
  unfold uninstallFaults
  generalize faultSignals = signals
  induction signals generalizing p with
  | nil => rfl
  | cons s signals ih => rw [List.foldl_cons, List.foldl_cons, uninstallFault_offered, ih]

/-- Taking the fault handlers away changes actions and marks. -/
theorem exists_uninstallFaults (p : Process) :
    ∃ actions pending saved, p.uninstallFaults =
        { p with
          actions := actions
          pending := pending
          faults := { p.faults with saved := saved } } ∧
      pending.Sublist p.pending := by
  unfold uninstallFaults
  generalize faultSignals = signals
  induction signals generalizing p with
  | nil => exact ⟨_, _, _, rfl, List.Sublist.refl _⟩
  | cons s signals ih =>
    obtain ⟨actions, pending, saved, hrest, hpending⟩ := ih (p.uninstallFault s)
    obtain ⟨_, _, hfirst, hsub⟩ := p.exists_reinstate s (p.faults.saved.get s)
    rw [List.foldl_cons, hrest]
    rw [uninstallFault_eq, hfirst] at hpending ⊢
    exact ⟨_, _, _, rfl, hpending.trans hsub⟩

-- ════════════════════════════════════════════════════════════════════════
-- The end
-- ════════════════════════════════════════════════════════════════════════

/-- A handler that ends the process does so before anything else. -/
theorem raise_exits {s : Signal} (hs : s.faultName?.isSome) (hfree : s ∉ p.blocked)
    (hexits : (p.actions.get s).disposition = .handled (.own .exits))
    (caller : Option ThreadId) (budget : Nat) :
    ∃ q, Process.raise caller (budget + 1) s p = .ended (.code ownExitCode) q ∧
      q.descriptors = p.descriptors ∧ q.faults = p.faults := by
  rw [raise_free (Signal.not_reserved_of_fault s hs) hfree]
  unfold takePlace
  rw [Run.state_bind, hexits]
  exact ⟨_, rfl, rfl, rfl⟩

/-- A process that aborts writes nothing more, unless the action of the abort signal leads to a
report. -/
theorem abort_ended (hpending : Signal.abort ∉ p.pending)
    (hconcludes : (p.actions.get Signal.abort).Concludes) (caller : Option ThreadId) (budget : Nat) :
    ∃ q, abort caller (budget + 1) p = .ended (p.actions.get Signal.abort).endOf q ∧
      q.descriptors = p.descriptors ∧ q.faults = p.faults := by
  have hfree : Signal.abort ∉ p.blocked.filter (· ≠ Signal.abort) := by simp
  unfold abort
  rw [Run.change_bind]
  set free : Process := { p with blocked := p.blocked.filter (· ≠ Signal.abort) } with hdef
  obtain hquiet | hexits := hconcludes
  · rw [hquiet.endOf]
    obtain hended | hreturned :=
      raise_quiet (p := free) rfl hfree hpending hquiet caller budget
    · rw [Run.bind_of_ended hended]
      exact ⟨_, rfl, rfl, rfl⟩
    · rw [Run.bind_of_returned hreturned]
      exact ⟨_, rfl, rfl, rfl⟩
  · obtain ⟨q, hended, hdescriptors, hfaults⟩ :=
      raise_exits (p := free) rfl hfree hexits caller budget
    rw [Run.bind_of_ended hended, Action.endOf, if_pos hexits]
    exact ⟨q, rfl, hdescriptors, hfaults⟩

/-- The report is written first, and the process aborts after it. -/
theorem fatalError_reported (htarget : p.fatalErrorTarget = (fd, allThreads))
    (hworks : p.descriptors.Works fd) (caller : Option ThreadId) (function? : Option String)
    (message : String) :
    fatalError caller function? message p =
      abort caller budget
        (p.uninstallFaults.offered fd (p.fatalErrorText function? message caller allThreads)) := by
  have hwrite := write_of_works hworks (raise caller budget)
    (p.fatalErrorText function? message caller allThreads)
  unfold fatalError fatalErrorWithin
  rw [Run.state_bind, htarget]
  dsimp only
  rw [text_fatalErrorPieces, Run.bind_of_returned hwrite, Run.change_bind, uninstallFaults_offered]

/-- The report is all that is written, and the process does not go on. -/
theorem fatalError_ended (htarget : p.fatalErrorTarget = (fd, allThreads))
    (hworks : p.descriptors.Works fd) (hpending : Signal.abort ∉ p.pending)
    (hconcludes : (p.uninstallFaults.actions.get Signal.abort).Concludes)
    (caller : Option ThreadId) (function? : Option String) (message : String) :
    ∃ q, fatalError caller function? message p =
        .ended (p.uninstallFaults.actions.get Signal.abort).endOf q ∧
      q.descriptors =
        p.descriptors.reported (some (fd, p.fatalErrorText function? message caller allThreads)) ∧
      q.faults.spent = p.faults.spent := by
  rw [fatalError_reported htarget hworks]
  generalize p.fatalErrorText function? message caller allThreads = text
  obtain ⟨actions, pending, saved, huninstall, hsub⟩ := p.exists_uninstallFaults
  generalize p.uninstallFaults = r at huninstall hconcludes ⊢
  have hpending' : Signal.abort ∉ (r.offered fd text).pending := by
    rw [huninstall]
    exact fun hmem => hpending (hsub.subset hmem)
  obtain ⟨q, hended, hdescriptors, hfaults⟩ := abort_ended hpending' hconcludes caller 999
  refine ⟨q, hended, ?_, ?_⟩
  · rw [hdescriptors, huninstall]
    rfl
  · rw [hfaults, huninstall]
    rfl

end Process

end CrashTrace
