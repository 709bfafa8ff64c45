import CrashTrace.Proofs.Process.FatalSignal
import CrashTrace.Proofs.Session.Reached

/-!
# Fatal signals in a session

A thread of a session sends itself a fatal signal while fault reports are enabled.

## Main results

- `Session.raise_ends`
-/

namespace CrashTrace

namespace Session

/-- The process dies of the signal. A handler of the observed program that was there before has
run once, and the sink of the latest request that enabled fault reports has received the report in
the mode of that request, unless a report was made before. -/
theorem raise_ends {s : Session} {sink : Sink} {settings used : FaultSettings} {sig : Signal}
    {name : String} (hreached : Reached (some (sink, settings)) s)
    (hname : sig.faultName? = some name)
    (haction : s.process.actions.get sig = Process.reportAction used)
    (hmark : (s.process.faults.saved.get sig).installed)
    (hquiet : (s.process.faults.saved.get sig).previous.Quiet)
    (hworks : s.process.descriptors.Works sink.descriptor) (t : ThreadId) :
    ∃ s', s.step ⟨t, .signals (.raise sig.number)⟩ = .ended (.signal sig) s' ∧
      (∀ u, s'.process.calls.get u = s.process.calls.get u +
        if sig = u ∧ (s.process.faults.saved.get sig).previous.runsHandler then 1 else 0) ∧
      s'.process.descriptors.textOf sink.descriptor =
        s.process.descriptors.textOf sink.descriptor ++
          if s.process.faults.spent then ""
          else String.ofList (s.process.faultText name (some t) settings.allThreads) := by
  have hsound := hreached.sound
  obtain ⟨_, _, hlatest, htarget⟩ := hsound.target (hsound.enabled sig hmark)
  obtain ⟨rfl, rfl⟩ := Prod.mk.inj (Option.some.inj hlatest)
  have hs : sig.faultName?.isSome := by
    rw [hname]
    rfl
  have hfree : sig ∉ s.process.blocked := by
    rw [hsound.blocked]
    exact List.not_mem_nil
  have hpending : sig ∉ s.process.pending := by
    intro hmem
    exact hfree (hsound.settled.blocked sig (Signal.not_queues_of_fault sig hs) hmem)
  have hpos : sig.val ≠ 0 := by
    intro hzero
    obtain rfl : sig = 0 := Fin.ext hzero
    exact absurd hs (by decide)
  obtain ⟨q, hended, hcalls, htext⟩ := Process.raise_fatal hname hfree hpending haction hmark
    hquiet htarget hworks (some t) 998
  refine ⟨s.withProcess q, ?_, fun u => ?_, htext⟩
  · show s.lift (raiseNumber t sig.number) _ = _
    unfold lift raiseNumber
    rw [Signal.ofInt?_number hpos]
    dsimp only
    have hended : Process.raise (some t) Process.budget sig s.process =
        .ended (.signal sig) q := hended
    rw [hended]
  · show q.calls.get u = _
    rw [hcalls, Process.callsAfter_get]

-- The states of the example are compared by evaluation.
set_option maxRecDepth 8000 in
/-- A handler of the observed program is there, a file is opened, fault reports are enabled, and
another thread raises the signal. -/
theorem raise_ends_prepared : ∃ s s', Reached (some (⟨5⟩, .standard)) s ∧
    s.step ⟨4097, .signals (.raise 11)⟩ = .ended (.signal Signal.segmentation) s' ∧
    s'.process.calls.get Signal.segmentation = 1 ∧
    s'.process.descriptors.textOf 5 =
      String.ofList (s.process.faultText "Segmentation fault" (some 4097) true) := by
  have h₁ := Reached.step .initial
    (show Session.initial.step ⟨4096, .signals (.install 11 (.handled (.own .counts)))⟩ =
      .answered _ _ from rfl)
  have h₂ := Reached.step h₁
    (show Session.step _ ⟨4096, .control (.openAs 5 .file)⟩ = .answered _ _ from rfl)
  have h₃ := Reached.step h₂
    (show Session.step _ ⟨4096, .control (.enable ⟨none, 5⟩ .standard .available)⟩ =
      .answered _ _ from rfl)
  have hname : Signal.segmentation.faultName? = some "Segmentation fault" := rfl
  obtain ⟨s', hended, hcalls, htext⟩ :=
    raise_ends (show Reached (some (⟨5⟩, .standard)) _ from h₃) hname
      (show _ = Process.reportAction .standard from rfl) rfl (.inr (.inr (.inl rfl)))
      (.inr (.inl rfl)) 4097
  exact ⟨_, s', h₃, hended, hcalls Signal.segmentation, htext⟩

end Session

end CrashTrace
