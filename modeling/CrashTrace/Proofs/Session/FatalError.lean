import CrashTrace.Proofs.Process.FatalError
import CrashTrace.Proofs.Session.Reached
import CrashTrace.Proofs.Session.Refusals

/-!
# Fatal errors in a session

A thread of a session has met with a fatal error. The report goes where fault reports go, and to
standard error while they are disabled.

## Main definitions

- `Session.fatalErrorSink` — where the report goes, and whether it shows all threads

## Main results

- `Session.fatalError_ends`
-/

namespace CrashTrace

namespace Session

variable {latest : Option (Sink × FaultSettings)} {s : Session}

/-- Where the report on a fatal error goes, and whether it shows all threads: as the latest request
said that enabled fault reports, while they are enabled, and otherwise all threads to standard
error. -/
def fatalErrorSink (latest : Option (Sink × FaultSettings)) (s : Session) : Int × Bool :=
  match s.process.faults.enabled, latest with
  | true, some (sink, settings) => (sink.descriptor, settings.allThreads)
  | _, _ => (Sink.errorDescriptor, true)

/-- The states between two requests do not depend on which of them are kept track of. -/
theorem Reached.registered (h : Reached latest s) :
    ∃ registrations, Registered registrations s := by
  induction h with
  | initial => exact ⟨_, .initial⟩
  | step _ hstep ih =>
    obtain ⟨registrations, h⟩ := ih
    exact ⟨_, h.step hstep⟩

theorem Reached.fatalErrorTarget (h : Reached latest s) :
    s.process.fatalErrorTarget = fatalErrorSink latest s := by
  unfold Process.fatalErrorTarget fatalErrorSink
  cases hon : s.process.faults.enabled with
  | true =>
    obtain ⟨sink, settings, hlatest, htarget⟩ := h.sound.target hon
    rw [hlatest, htarget]
    rfl
  | false =>
    obtain ⟨registrations, hregistered⟩ := h.registered
    rw [hregistered.tidy.faults hon]
    rfl

/-- A fatal error ends the process: one report is written, to the sink and in the mode that fault
reports have, or on all threads to standard error while they are disabled, and nothing is written
anywhere else or afterwards. The process dies of the abort signal, unless the action that this
signal has without the fault handlers is a handler that ends the process by itself. -/
theorem fatalError_ends (hreached : Reached latest s)
    (hworks : s.process.descriptors.Works (fatalErrorSink latest s).1)
    (hconcludes : (s.process.uninstallFaults.actions.get Signal.abort).Concludes)
    (t : ThreadId) (function? : Option String) (message : String) :
    let fd := (fatalErrorSink latest s).1
    let text :=
      s.process.fatalErrorText function? message (some t) (fatalErrorSink latest s).2
    ∃ s', s.step ⟨t, .signals (.fatalError function? message)⟩ =
        .ended (s.process.uninstallFaults.actions.get Signal.abort).endOf s' ∧
      s'.process.descriptors = s.process.descriptors.reported (some (fd, text)) ∧
      s'.process.descriptors.textOf fd =
        s.process.descriptors.textOf fd ++ String.ofList text ∧
      (∀ other, fd ≠ other →
        s'.process.descriptors.textOf other = s.process.descriptors.textOf other) ∧
      s'.process.faults.spent = s.process.faults.spent := by
  intro fd text
  have hsound := hreached.sound
  have hpending : Signal.abort ∉ s.process.pending := by
    intro hmem
    have hblocked := hsound.settled.blocked Signal.abort rfl hmem
    rw [hsound.blocked] at hblocked
    exact List.not_mem_nil hblocked
  obtain ⟨q, hended, hdescriptors, hspent⟩ := Process.fatalError_ended
    hreached.fatalErrorTarget hworks hpending hconcludes (some t) function? message
  refine ⟨s.withProcess q, ?_, hdescriptors, ?_, fun other hother => ?_, hspent⟩
  · show s.lift (Process.fatalError (some t) function? message) _ = _
    unfold lift
    rw [hended]
  · show q.descriptors.textOf fd = _
    rw [hdescriptors]
    exact DescriptorTable.textOf_reported hworks text
  · show q.descriptors.textOf other = _
    rw [hdescriptors]
    exact DescriptorTable.textOf_reported_of_ne hworks hother text

-- The states of the example are compared by evaluation.
set_option maxRecDepth 8000 in
/-- A handler of the observed program is there for the abort signal, a file is opened, and fault
reports on one thread are enabled. The handler runs without a second report. -/
theorem fatalError_ends_enabled : ∃ latest s s', Reached latest s ∧
    s.step ⟨4097, .signals (.fatalError (some "load") "no memory")⟩ =
      .ended (.signal Signal.abort) s' ∧
    (s.process.actions.get Signal.abort).disposition = .handled .report ∧
    s'.process.descriptors.textOf 5 =
      String.ofList (s.process.fatalErrorText (some "load") "no memory" (some 4097) false) := by
  have h₁ := Reached.step .initial
    (show Session.initial.step ⟨4096, .signals (.install 6 (.handled (.own .counts)))⟩ =
      .answered _ _ from rfl)
  have h₂ := Reached.step h₁
    (show Session.step _ ⟨4096, .control (.openAs 5 .file)⟩ = .answered _ _ from rfl)
  have h₃ := Reached.step h₂
    (show Session.step _ ⟨4096, .control (.enable ⟨none, 5⟩ (.threads false) .available)⟩ =
      .answered _ _ from rfl)
  obtain ⟨s', hended, -, htext, -⟩ := fatalError_ends h₃ (.inr (.inl rfl))
    (.inl (.inr (.inr (.inl rfl)))) 4097 (some "load") "no memory"
  exact ⟨_, _, s', h₃, hended, rfl, htext⟩

end Session

end CrashTrace
