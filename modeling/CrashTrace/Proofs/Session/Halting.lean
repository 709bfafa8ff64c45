import CrashTrace.Proofs.Process.Endless
import CrashTrace.Proofs.Process.Halting
import CrashTrace.Proofs.Session.FatalError

/-!
# Requests that come to an end

A thread of a session sends itself a signal or asks for a dump, and no handler of the observed
program is there. The request comes to an end while each handler is in force only where it has been
set up, and otherwise it need not.

## Main definitions

- `Session.Plain` — no handler of the observed program is in force or has been recorded
- `Session.Endless` — a signal sets off handlers for ever

## Main results

- `Session.requests_halt`
- `Session.exists_endless` — two plain sessions in which a signal sets off handlers for ever
-/

namespace CrashTrace

namespace Session

/-- The actions in force are the default one, to do nothing, and the two handlers that are installed
here, and the recorded ones run no handler. -/
structure Plain (s : Session) : Prop where
  handlers : ∀ u, (s.process.actions.get u).Inert ∨
    (s.process.actions.get u).disposition = .handled .report ∨
    (s.process.actions.get u).disposition = .handled .dump
  faults : ∀ u, (s.process.faults.saved.get u).previous.Inert
  users : ∀ u, (s.process.userSignal u).saved.previous.Inert
  slots : ∀ i, (s.saved.get i).previous.Inert

/-- The handlers that a signal sets off come to no end, whatever the budget is. -/
def Endless (s : Session) (t : ThreadId) (sig : Signal) : Prop :=
  (∀ budget, Process.raise (some t) budget sig s.process = .unfinished) ∧
    s.step ⟨t, .signals (.raise sig.number)⟩ = .unfinished

theorem lift_ne_unfinished {α : Type} {s : Session} {run : Run α} {answer : α → Process → Answer}
    (h : run s.process ≠ .unfinished) : s.lift run answer ≠ .unfinished := by
  unfold lift
  cases hrun : run s.process with
  | returned value p => exact nofun
  | ended status p => exact nofun
  | unfinished => exact absurd hrun h

/-- In every orderly state a signal sets off handlers that come to an end, whatever signals are
registered with whatever sinks: six of them inside one another are enough, redeliveries counted, and
a larger budget changes nothing. So a request to raise a signal or to dump is answered or ends the
process. -/
theorem requests_halt {latest : Option (Sink × FaultSettings)} {s : Session}
    (hreached : Reached latest s) (h : s.process.Orderly) (t : ThreadId) :
    (∀ sig, ∃ outcome, outcome ≠ .unfinished ∧
      ∀ more, Process.raise (some t) (6 + more) sig s.process = outcome) ∧
    (∀ n, s.step ⟨t, .signals (.raise n)⟩ ≠ .unfinished) ∧
    ∀ choice allThreads, s.step ⟨t, .control (.dump choice allThreads)⟩ ≠ .unfinished := by
  obtain ⟨registrations, hregistered⟩ := hreached.registered
  have hprepared := hregistered.prepared
  have hfatal := hreached.sound.fatal
  have hraise := h.raise_halts hprepared.idle hprepared.changeable hfatal (some t)
  refine ⟨fun sig => ⟨_, (hraise 0 sig).ne_unfinished, fun more => ?_⟩, fun n => ?_,
    fun choice allThreads => ?_⟩
  · have hmore := (Process.inStep_eq (some t) more).raise 6 sig trivial s.process s.process rfl
    exact hmore.eq_of_finished (hraise 0 sig).ne_unfinished
  · refine lift_ne_unfinished ?_
    unfold raiseNumber
    cases Signal.ofInt? n with
    | none => exact nofun
    | some sig => exact (hraise 994 sig).ne_unfinished
  · show s.withSink choice _ ≠ .unfinished
    unfold withSink
    cases s.chosenSink choice with
    | error failure => exact nofun
    | ok sink =>
      have hdump := h.dump_halts hprepared.idle hprepared.changeable hfatal (some t) sink allThreads
      exact lift_ne_unfinished hdump.ne_unfinished

section Endless

variable {latest : Option (Sink × FaultSettings)} {s : Session} {t : ThreadId} {sig : Signal}

theorem Endless.of_raise (hpos : sig.val ≠ 0)
    (h : ∀ budget, Process.raise (some t) budget sig s.process = .unfinished) :
    s.Endless t sig := by
  refine ⟨h, ?_⟩
  show s.lift (raiseNumber t sig.number) _ = _
  unfold lift raiseNumber
  rw [Signal.ofInt?_number hpos]
  dsimp only
  rw [h]

/-- A handler that chains for a signal that is not registered any more. -/
theorem Reached.endless_of_abandoned (hreached : Reached latest s)
    (h : Process.Abandoned sig s.process) (hchangeable : sig.actionChangeable) (t : ThreadId) :
    s.Endless t sig := by
  have hfree : sig ∉ s.process.blocked := by simp [hreached.sound.blocked]
  exact .of_raise (Signal.ne_zero_of_changeable sig hchangeable)
    (h.raise (Signal.not_reserved_of_changeable sig hchangeable) hfree (some t))

/-- The signal of a broken pipe is registered without chaining, and its dumps go to a broken
pipe. -/
theorem Reached.endless_of_echoes (hreached : Reached latest s)
    (h : Process.Echoes (some t) s.process) : s.Endless t Signal.pipe := by
  obtain ⟨_, hregistered⟩ := hreached.registered
  have hidle := hregistered.prepared.idle
  exact .of_raise (by decide) (h.raise (hidle.not_blocked _) (hidle.not_pending _))

end Endless

-- The states of the examples are compared by evaluation.
set_option maxRecDepth 8000 in
/-- Fault reports, and dumps with chaining for an ordinary signal and for the one of a broken pipe,
all go to the same broken pipe. -/
theorem requests_halt_broken : ∃ latest s, Reached latest s ∧ s.process.Orderly ∧
    s.process.descriptors.Broken 100 ∧
    s.step ⟨4096, .signals (.raise 10)⟩ ≠ .unfinished ∧
    s.step ⟨4096, .signals (.raise 11)⟩ ≠ .unfinished ∧
    s.step ⟨4096, .control (.dump ⟨none, 100⟩ false)⟩ ≠ .unfinished := by
  have h₁ := Reached.step .initial
    (show Session.initial.step ⟨4096, .control (.openAs 100 .broken)⟩ = .answered _ _ from rfl)
  have h₂ := Reached.step h₁
    (show Session.step _ ⟨4096, .control (.enable ⟨none, 100⟩ .standard .available)⟩ =
      .answered _ _ from rfl)
  have h₃ := Reached.step h₂
    (show Session.step _ ⟨4096, .control (.register ⟨none, 100⟩ 10 ⟨false, true⟩)⟩ =
      .answered _ _ from rfl)
  have h₄ := Reached.step h₃
    (show Session.step _ ⟨4096, .control (.register ⟨none, 100⟩ 13 ⟨false, true⟩)⟩ =
      .answered _ _ from rfl)
  refine ⟨_, _, h₄, ?orderly, rfl, (requests_halt h₄ ?orderly 4096).2.1 10,
    (requests_halt h₄ ?orderly 4096).2.1 11,
    (requests_halt h₄ ?orderly 4096).2.2 ⟨none, 100⟩ false⟩
  exact {
    handlers := by decide +kernel
    faults := by decide +kernel
    users := by decide +kernel
    report := by decide +kernel
    dump := by decide +kernel
    pipe := fun _ => .inl rfl }

set_option maxRecDepth 8000 in
/-- Without order there need not be an end. First, the dumping handler of a signal is kept in a
slot, the signal is unregistered, and the handler is put back: it still chains, but there is no
saved action any more. Second, the signal of a broken pipe is registered without chaining, and its
dumps go to a broken pipe. -/
theorem exists_endless :
    (∃ latest s, Reached latest s ∧ s.Plain ∧ s.Endless 4096 Signal.user1) ∧
    ∃ latest s, Reached latest s ∧ s.Plain ∧ s.Endless 4096 Signal.pipe := by
  constructor
  · have h₁ := Reached.step .initial
      (show Session.initial.step
        ⟨4096, .control (.register ⟨some standardErrorName, 2⟩ 10 ⟨true, true⟩)⟩ =
          .answered _ _ from rfl)
    have h₂ := Reached.step h₁
      (show Session.step _ ⟨4096, .signals (.saved .capture 0 10)⟩ = .answered _ _ from rfl)
    have h₃ := Reached.step h₂
      (show Session.step _ ⟨4096, .signals (.saved .mark 0 10)⟩ = .answered _ _ from rfl)
    have h₄ := Reached.step h₃
      (show Session.step _ ⟨4096, .control (.unregister 10)⟩ = .answered _ _ from rfl)
    have h₅ := Reached.step h₄
      (show Session.step _ ⟨4096, .signals (.saved .restore 0 10)⟩ = .answered _ _ from rfl)
    have h₆ := Reached.step h₅
      (show Session.step _ ⟨4096, .signals (.saved .capture 0 12)⟩ = .answered _ _ from rfl)
    refine ⟨_, _, h₆, ?_, h₆.endless_of_abandoned ⟨rfl, rfl, rfl, rfl, rfl⟩ (by decide) 4096⟩
    exact ⟨by decide +kernel, by decide +kernel, by decide +kernel, by decide +kernel⟩
  · have h₁ := Reached.step .initial
      (show Session.initial.step ⟨4096, .control (.openAs 100 .broken)⟩ = .answered _ _ from rfl)
    have h₂ := Reached.step h₁
      (show Session.step _ ⟨4096, .control (.register ⟨none, 100⟩ 13 ⟨false, false⟩)⟩ =
        .answered _ _ from rfl)
    refine ⟨_, _, h₂, ?_, h₂.endless_of_echoes
      ⟨rfl, nofun, rfl, ⟨100, false, rfl, rfl, ?_⟩, rfl⟩⟩
    · exact ⟨by decide +kernel, by decide +kernel, by decide +kernel, by decide +kernel⟩
    · decide +kernel

end Session

end CrashTrace
