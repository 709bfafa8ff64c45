import CrashTrace.Proofs.Process.UserSignal
import CrashTrace.Proofs.Session.Registered

/-!
# Registered signals that are raised

A thread of a session sends itself a signal for which dumps are registered.

## Main results

- `Session.raise_dumps`
- `Session.exists_second_dump` — why the action in force must be one that fits the registration
-/

namespace CrashTrace

open Process (PassedOn afterDump)

/-- The state after a request that is answered. -/
def Progress.session? : Progress → Option Session
  | .answered _ s => some s
  | .ended _ _ => none
  | .unfinished => none

namespace Session

/-- No dump is under way between two requests. A registered signal with the dumping handler in
force is dumped for once, as its latest registration asks, before anything else happens; what
follows is the rest of the delivery, which writes nothing more, lets the previous action take place
once if the registration chains, and leaves the dumping handler in force unless that action has
unregistered the signal. -/
theorem raise_dumps {latest : Registrations} {s : Session} (hreached : Registered latest s) :
    (s.process.dumping = Exclusion.free ∧
      ∀ step a s', s.step step = .answered a s' → s'.process.dumping = Exclusion.free) ∧
    ∀ sig, (s.process.userSignal sig).saved.installed → ∃ sink settings,
      latest sig = some (sink, settings) ∧
      ∀ flags, s.process.actions.get sig = ⟨.handled .dump, flags⟩ →
        s.process.descriptors.Works sink.descriptor →
        (settings.chain →
          flags.noDefer ∧ (s.process.userSignal sig).saved.previous.Passes sig) →
        ∀ t : ThreadId,
          let dumped := s.process.dumped (some t) sink.descriptor settings.allThreads
          dumped.descriptors.textOf sink.descriptor =
              s.process.descriptors.textOf sink.descriptor ++
                String.ofList (s.process.dumpPieces (some t) settings.allThreads).text ∧
            s.step ⟨t, .signals (.raise sig.number)⟩ =
              (s.withProcess dumped).lift
                (afterDump (Process.raise (some t) (Process.budget - 1)) sig flags)
                (fun _ p => .raised (calls p)) ∧
            ∃ s', s.step ⟨t, .signals (.raise sig.number)⟩ =
                .answered (.raised (calls s'.process)) s' ∧
              PassedOn sig settings.chain dumped s'.process := by
  have hprepared := hreached.prepared
  refine ⟨⟨hprepared.dumping, fun step a s' h => (hprepared.step h).dumping⟩, fun sig hmark => ?_⟩
  obtain ⟨sink, settings, hlatest, htarget, hchain⟩ := hprepared.registered sig hmark
  refine ⟨sink, settings, hlatest, fun flags haction hworks hchained t => ?_⟩
  intro dumped
  have hchangeable := hprepared.changeable sig hmark
  have hblocked : sig ∉ s.process.blocked := by simp [hprepared.idle.blocked]
  have hpending : sig ∉ s.process.pending := by simp [hprepared.idle.pending]
  have hsig : Signal.ofInt? sig.number = some sig :=
    Signal.ofInt?_number (Signal.ne_zero_of_changeable sig hchangeable)
  have hfirst : Process.raise (some t) Process.budget sig s.process =
      afterDump (Process.raise (some t) (Process.budget - 1)) sig flags dumped := by
    rw [← Process.takePlace_dumped _ (some t) haction hprepared.dumping htarget hworks]
    exact Process.raise_free (Signal.not_reserved_of_changeable sig hchangeable) hblocked 999
  obtain ⟨q, hreturned, hpassed⟩ := Process.raise_registered (hprepared.ordinary sig hmark)
    hchangeable hblocked hpending hprepared.dumping hmark haction htarget hworks
    (hchain ▸ hchained) (some t) 998
  have hreturned : Process.raise (some t) Process.budget sig s.process = .returned () q := hreturned
  have hstep : s.step ⟨t, .signals (.raise sig.number)⟩ =
      s.lift (Process.raise (some t) Process.budget sig) fun _ p => .raised (calls p) := by
    show s.lift (raiseNumber t sig.number) _ = _
    unfold raiseNumber
    rw [hsig]
  refine ⟨DescriptorTable.textOf_reported hworks _, ?_, s.withProcess q, ?_, hchain ▸ hpassed⟩
  · rw [hstep]
    unfold lift
    rw [hfirst]
    rfl
  · rw [hstep]
    unfold lift
    rw [hreturned]
    rfl

-- The states of the examples are compared by evaluation.
set_option maxRecDepth 8000 in
/-- A handler of the observed program is there, a file is opened, dumps of one thread with chaining
are registered, and another thread raises the signal. -/
theorem raise_dumps_chained : ∃ latest s s', Registered latest s ∧
    latest Signal.user1 = some (⟨5⟩, ⟨false, true⟩) ∧
    s.step ⟨4097, .signals (.raise 10)⟩ = .answered (.raised (calls s'.process)) s' ∧
    s'.process.descriptors.textOf 5 =
      String.ofList (s.process.dumpPieces (some 4097) false).text ∧
    s'.process.calls.get Signal.user1 = 1 := by
  have h₁ := Registered.step .initial
    (show Session.initial.step ⟨4096, .signals (.install 10 (.handled (.own .counts)))⟩ =
      .answered _ _ from rfl)
  have h₂ := Registered.step h₁
    (show Session.step _ ⟨4096, .control (.openAs 5 .file)⟩ = .answered _ _ from rfl)
  have h₃ := Registered.step h₂
    (show Session.step _ ⟨4096, .control (.register ⟨none, 5⟩ 10 ⟨false, true⟩)⟩ =
      .answered _ _ from rfl)
  obtain ⟨-, hregistered⟩ := raise_dumps h₃
  obtain ⟨sink, settings, hlatest, hraise⟩ := hregistered Signal.user1 rfl
  obtain ⟨rfl, rfl⟩ : (⟨5⟩ : Sink) = sink ∧ (⟨false, true⟩ : UserSignalSettings) = settings :=
    Prod.mk.inj (Option.some.inj hlatest)
  obtain ⟨htext, -, s', hstep, hpassed⟩ := hraise _ rfl (.inr (.inl rfl))
    (fun _ => ⟨rfl, .inr (.inr (.inl rfl))⟩) 4097
  refine ⟨_, _, s', h₃, rfl, hstep, ?_, hpassed.calls Signal.user1⟩
  rw [hpassed.descriptors, htext]
  exact String.empty_append

set_option maxRecDepth 8000 in
/-- A signal is registered without chaining, its action is kept, the signal is registered again
with chaining, and the kept action is put back. It blocks its signal, so the signal that the handler
raises waits until the handler has returned, and is dumped for once more. -/
theorem exists_second_dump : ∃ latest s sink settings, Registered latest s ∧
    latest Signal.user1 = some (sink, settings) ∧
    (s.process.userSignal Signal.user1).saved.installed ∧
    (s.process.userSignal Signal.user1).saved.previous.Passes Signal.user1 ∧
    (s.process.actions.get Signal.user1).disposition = .handled .dump ∧
    s.process.descriptors.Works sink.descriptor ∧
    s.process.descriptors.textOf sink.descriptor = "" ∧
    (s.process.dumpPieces (some 4096) settings.allThreads).text =
      "Stack (most recent call first):\n  <no Python frame>\n".toList ∧
    ((s.step ⟨4096, .signals (.raise 10)⟩).session?.map
        fun s' => s'.process.descriptors.textOf sink.descriptor) =
      some ("Stack (most recent call first):\n  <no Python frame>\n"
        ++ "Stack (most recent call first):\n  <no Python frame>\n") := by
  have h₁ := Registered.step .initial
    (show Session.initial.step ⟨4096, .control (.openAs 100 .file)⟩ = .answered _ _ from rfl)
  -- The alternate stack stays when fault reports are disabled: the dumping handler runs on it.
  have h₂ := Registered.step h₁
    (show Session.step _ ⟨4096, .control (.enable ⟨none, 100⟩ .standard .available)⟩ =
      .answered _ _ from rfl)
  have h₃ := Registered.step h₂
    (show Session.step _ ⟨4096, .control .disable⟩ = .answered _ _ from rfl)
  have h₄ := Registered.step h₃
    (show Session.step _ ⟨4096, .threads .register⟩ = .answered _ _ from rfl)
  have h₅ := Registered.step h₄
    (show Session.step _ ⟨4096, .signals (.install 10 (.handled (.own .counts)))⟩ =
      .answered _ _ from rfl)
  have h₆ := Registered.step h₅
    (show Session.step _ ⟨4096, .control (.register ⟨none, 100⟩ 10 ⟨false, false⟩)⟩ =
      .answered _ _ from rfl)
  have h₇ := Registered.step h₆
    (show Session.step _ ⟨4096, .signals (.saved .capture 0 10)⟩ = .answered _ _ from rfl)
  have h₈ := Registered.step h₇
    (show Session.step _ ⟨4096, .signals (.saved .mark 0 10)⟩ = .answered _ _ from rfl)
  have h₉ := Registered.step h₈
    (show Session.step _ ⟨4096, .control (.register ⟨none, 100⟩ 10 ⟨false, true⟩)⟩ =
      .answered _ _ from rfl)
  have h₁₀ := Registered.step h₉
    (show Session.step _ ⟨4096, .signals (.saved .restore 0 10)⟩ = .answered _ _ from rfl)
  refine ⟨_, _, ⟨100⟩, ⟨false, true⟩, h₁₀, rfl, rfl, .inr (.inr (.inl rfl)), rfl,
    .inr (.inl rfl), ?_, ?_, ?_⟩
  · decide +kernel
  · decide +kernel
  · decide +kernel

end Session

end CrashTrace
