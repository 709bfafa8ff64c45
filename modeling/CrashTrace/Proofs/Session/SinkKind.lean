import CrashTrace.Proofs.Process.SinkKind
import CrashTrace.Proofs.Session.Registered

/-!
# The end of a session and the kind of the fatal sink

A thread of a session sends itself a fatal signal, or reports a fatal error, and it does not matter
how the process ends what the fatal sink leads to, as long as a broken pipe is borne.

## Main results

- `Session.ends_alike`
- `Session.exists_end_by_pipe` — a broken pipe need not be borne
-/

namespace CrashTrace

open Process (SinkCopy BearsPipe EndsAs EndAlike)

namespace Session

/-- Two copies that differ in what the fatal sink leads to end alike, by a fatal signal and by a
fatal error: with the same exit status, or not at all. Either the same pipes are broken in both, or
a broken pipe is borne in both. -/
theorem ends_alike {latest : Registrations} {s : Session} {p q : Process}
    (hreached : Registered latest s) (hp : SinkCopy s.process p) (hq : SinkCopy s.process q)
    (hpipe : (∀ fd, p.descriptors.Broken fd ↔ q.descriptors.Broken fd) ∨
      BearsPipe p ∧ BearsPipe q) (t : ThreadId) :
    (∀ sig : Signal, sig.faultName?.isSome →
      EndAlike (fun budget => Process.raise (some t) budget sig) p q) ∧
    ∀ function? message,
      EndAlike (fun budget => Process.fatalErrorWithin budget (some t) function? message) p q := by
  have hidle := hreached.prepared.idle
  have hblocked : Signal.pipe ∉ s.process.blocked := by simp [hidle.blocked]
  have hpending : Signal.pipe ∉ s.process.pending := by simp [hidle.pending]
  constructor
  · intro sig hs
    exact .of_inStep hblocked hpending hp hq hpipe fun S R more hstep budget =>
      hstep.raise budget sig (hstep.fatal sig hs)
  · intro function? message
    exact .of_inStep hblocked hpending hp hq hpipe fun S R more hstep budget =>
      hstep.fatalErrorWithin budget function? message

-- The states of the examples are compared by evaluation.
set_option maxRecDepth 8000 in
/-- The signal of a broken pipe is registered for dumps with chaining, to the sink of the fault
reports, and is ignored otherwise. The process dies of the fatal signal whether the sink is a file
or a broken pipe. -/
theorem ends_alike_chained : ∃ latest s q, Registered latest s ∧ s.process.faults.enabled ∧
    SinkCopy s.process q ∧ ¬ s.process.descriptors.Broken 100 ∧ q.descriptors.Broken 100 ∧
    EndsAs (fun budget => Process.raise (some 4096) budget Signal.segmentation) q
      (some (.signal Signal.segmentation)) := by
  have h₁ := Registered.step .initial
    (show Session.initial.step ⟨4096, .control (.openAs 100 .file)⟩ = .answered _ _ from rfl)
  have h₂ := Registered.step h₁
    (show Session.step _ ⟨4096, .control (.enable ⟨none, 100⟩ .standard .available)⟩ =
      .answered _ _ from rfl)
  have h₃ := Registered.step h₂
    (show Session.step _ ⟨4096, .control (.register ⟨none, 100⟩ 13 ⟨false, true⟩)⟩ =
      .answered _ _ from rfl)
  obtain ⟨hraise, -⟩ := ends_alike h₃ (.refl _) (.put (show _ = some 100 from rfl) .broken)
    (.inr ⟨.chains rfl rfl rfl (.inl rfl), .chains rfl rfl rfl (.inl rfl)⟩) 4096
  refine ⟨_, _, _, h₃, rfl, .put rfl .broken, by decide, by decide, ?_⟩
  exact ((hraise Signal.segmentation rfl).same _).mp ⟨8, rfl⟩

set_option maxRecDepth 8000 in
/-- The signal of a broken pipe has its default action. The process dies of the fatal signal if the
sink is a file, and of the signal of a broken pipe, in the middle of the report, if it is one. -/
theorem exists_end_by_pipe : ∃ latest s q s₁ s₂, Registered latest s ∧ s.process.faults.enabled ∧
    SinkCopy s.process q ∧
    s.step ⟨4096, .signals (.raise 11)⟩ = .ended (.signal Signal.segmentation) s₁ ∧
    (s.withProcess q).step ⟨4096, .signals (.raise 11)⟩ = .ended (.signal Signal.pipe) s₂ := by
  have h₁ := Registered.step .initial
    (show Session.initial.step ⟨4096, .signals (.install 13 .byDefault)⟩ = .answered _ _ from rfl)
  have h₂ := Registered.step h₁
    (show Session.step _ ⟨4096, .control (.openAs 100 .file)⟩ = .answered _ _ from rfl)
  have h₃ := Registered.step h₂
    (show Session.step _ ⟨4096, .control (.enable ⟨none, 100⟩ .standard .available)⟩ =
      .answered _ _ from rfl)
  exact ⟨_, _, _, _, _, h₃, rfl, .put rfl .broken, rfl, rfl⟩

end Session

end CrashTrace
