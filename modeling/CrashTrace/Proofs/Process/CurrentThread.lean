import CrashTrace.Proofs.Process.Lockstep
import CrashTrace.Proofs.Process.UserSignal
import CrashTrace.Proofs.Registry.Slots
import CrashTrace.Proofs.Report.Blocks

/-!
# The current thread in reports

Reports on all threads are made on request, for registered signals, on fatal errors and on fatal
signals. All of them have the same stacks, those of the first threads by slot, and are written
before anything else happens. So the thread that asks for a report or has met with a fault is in it
unless too many threads are in slots before its own.

## Main definitions

- `Process.allStacks` — the stacks in a report on all threads
- `Process.afterReport`, `Process.afterFatalError` — what follows a report

## Main results

- `Process.reports_announce`
-/

namespace CrashTrace

open Registry (SlotIndex)

namespace Process

/-- The stacks in a report on all threads that a thread sets off. -/
def allStacks (p : Process) (t : ThreadId) : Text := (p.dumpPieces (some t) true).text

/-- The stacks with what a report on an error has around them. -/
def framed (p : Process) (t : ThreadId) (header : Pieces) : Text :=
  header.text ++ p.allStacks t ++ (Report.modules p.interpreter).text

/-- What the handler of a fatal signal does after its report. -/
def afterReport (raise : Raise) (s : Signal) (sent : Bool) : Run Unit := do
  Run.change fun p => if s.faultName?.isSome then p.uninstallFault s else p
  raise s
  if sent then do
    Run.change fun p => p.trySetAction s surrenderedAction
    raise s
  else pure ()

/-- What follows the report on a fatal error. -/
def afterFatalError (caller : Option ThreadId) : Run Unit := do
  Run.change uninstallFaults
  abort caller budget

variable {p : Process} {t : ThreadId} {fd : Int} {s : Signal}

theorem allStacks_eq (p : Process) (t : ThreadId) :
    p.allStacks t =
      (Report.allThreads p.registry (some t) p.interpreter.collecting).text := rfl

theorem text_framed (p : Process) (t : ThreadId) (header : Pieces) :
    (p.reportPieces header (some t) true).text = p.framed t header := by
  rw [reportPieces, Pieces.text_append, Pieces.text_append]
  rfl

theorem write_of_works (hworks : p.descriptors.Works fd) (raise : Raise) (text : Text) :
    write raise fd text p = .returned (.ok ()) (p.offered fd text) := by
  unfold write
  rw [Run.state_bind, DescriptorTable.offer_reported hworks]
  rfl

theorem dump_offered (hworks : p.descriptors.Works fd)
    (hsink : p.descriptors.checkSink fd = .ok ()) :
    dump (some t) ⟨fd⟩ true p = .returned (.ok ()) (p.offered fd (p.allStacks t)) := by
  have hwrite := write_of_works hworks (raise (some t) budget) (p.allStacks t)
  unfold dump
  rw [Run.state_bind]
  dsimp only
  rw [hsink]
  exact Run.bind_of_returned hwrite _

theorem fatalError_offered (htarget : p.fatalErrorTarget = (fd, true))
    (hworks : p.descriptors.Works fd) (function? : Option String) (message : String) :
    fatalError (some t) function? message p = afterFatalError (some t) (p.offered fd
      (p.framed t (Report.fatalHeader function? message (some p.interpreter.phase)))) := by
  have hwrite := write_of_works hworks (raise (some t) budget)
    (p.framed t (Report.fatalHeader function? message (some p.interpreter.phase)))
  unfold fatalError fatalErrorWithin afterFatalError
  rw [Run.state_bind, htarget]
  dsimp only
  rw [text_framed, Run.bind_of_returned hwrite]

theorem handleFault_told (raise : Raise) {name : String} (hname : s.faultName? = some name)
    (hfirst : p.faults.spent = false) (htarget : p.faults.target.load? = some (fd, true))
    (hworks : p.descriptors.Works fd) (sent : Bool) :
    handleFault raise (some t) s sent p =
      afterReport raise s sent
        ((p.changeFaults fun f => { f with spent := true }).offered fd
          (p.framed t (faultHeader name p))) := by
  have hreport : p.report? (some t) (faultHeader name) =
      some (fd, p.framed t (faultHeader name p)) := by
    rw [report?, htarget, Option.map_some, text_framed]
  have htold := reportNamed_told raise (some t) hname fun _ fd' all' hfd => by
    rw [htarget] at hfd
    obtain ⟨rfl, -⟩ := Prod.mk.inj (Option.some.inj hfd)
    exact hworks
  have hoffered : p.told (p.report? (some t) (faultHeader name)) =
      (p.changeFaults fun f => { f with spent := true }).offered fd
        (p.framed t (faultHeader name p)) := by
    rw [hreport]
    unfold told
    rw [hfirst, if_neg (by decide)]
    rfl
  rw [handleFault_eq, Run.bind_of_returned htold, hoffered]
  rfl

/-- Take any reachable registry, a thread that has a slot in it, and a sink that takes what is
written. Each way in which this thread can set off a report on all threads writes the same stacks to
the sink before anything else happens, in a state in which the sink has received them. These stacks
announce the thread as the current one exactly once, with the mark for collecting garbage if it does
so and with its frames, if fewer threads are in slots before its own than a report shows. Otherwise
they announce no thread as the current one, and end with the mark for more threads. -/
theorem reports_announce {actions : List (ThreadId × ThreadAction)}
    (hr : p.registry = (Recording.initial.run actions).registry) {i : SlotIndex}
    (ht : p.registry.home t = some i) (hworks : p.descriptors.Works fd) :
    Report.Announces p.registry t i p.interpreter.collecting (p.allStacks t) ∧
    (∀ text, (p.offered fd text).descriptors.textOf fd =
      p.descriptors.textOf fd ++ String.ofList text) ∧
    (p.descriptors.checkSink fd = .ok () →
      dump (some t) ⟨fd⟩ true p = .returned (.ok ()) (p.offered fd (p.allStacks t))) ∧
    (∀ raise s flags, p.actions.get s = ⟨.handled .dump, flags⟩ → p.dumping = Exclusion.free →
      (p.userSignal s).target.load? = some (fd, true) →
      takePlace raise (some t) s p = afterDump raise s flags (p.offered fd (p.allStacks t))) ∧
    (∀ function? message, p.fatalErrorTarget = (fd, true) →
      fatalError (some t) function? message p = afterFatalError (some t) (p.offered fd
        (p.framed t (Report.fatalHeader function? message (some p.interpreter.phase))))) ∧
    ∀ raise s name sent, s.faultName? = some name → p.faults.spent = false →
      p.faults.target.load? = some (fd, true) →
      handleFault raise (some t) s sent p = afterReport raise s sent
        ((p.changeFaults fun f => { f with spent := true }).offered fd
          (p.framed t (faultHeader name p))) := by
  refine ⟨?_, fun text => DescriptorTable.textOf_reported hworks text, dump_offered hworks, ?_, ?_, ?_⟩
  · have hwellFormed : p.registry.WellFormed := by
      rw [hr]
      exact (Recording.kept_initial.run actions).wellFormed
    exact Report.announces_allThreads hwellFormed ht p.interpreter.collecting
  · exact fun raise s flags haction hfree htarget =>
      takePlace_dumped raise (some t) haction hfree htarget hworks
  · exact fun function? message htarget => fatalError_offered htarget hworks function? message
  · exact fun raise s name sent hname hfirst htarget =>
      handleFault_told raise hname hfirst htarget hworks sent

/-- The numbers of so many threads. -/
def crowd (n : Nat) : List ThreadId := (List.range n).map fun k => UInt64.ofNat (4096 + k)

/-- The state of a process in which so many threads have registered one after the other. -/
def crowded (n : Nat) : Process :=
  initial.withRegistry (Recording.initial.run ((crowd n).map (·, .register))).registry

theorem registry_crowded (n : Nat) : (crowded n).registry =
    (Recording.initial.run ((crowd n).map (·, .register))).registry := rfl

theorem wellFormed_crowded (n : Nat) : (crowded n).registry.WellFormed := by
  rw [registry_crowded]
  exact Recording.wellFormed_run _

theorem owner_crowded (j : SlotIndex) :
    ((crowded 101).registry.slot j).owner = (crowd 101)[j.val]? := by
  have hnodup : (crowd 101).Nodup := by decide +kernel
  rw [registry_crowded]
  exact Recording.owner_registered hnodup (by decide +kernel) j

/-- The last of the crowd comes behind as many threads as a report shows. -/
theorem last_crowded : (crowded 101).registry.home 4196 = some ⟨100, by decide⟩ ∧
    ¬ (crowded 101).registry.ahead ⟨100, by decide⟩ < Report.maxThreads := by
  constructor
  · rw [(wellFormed_crowded 101).home_eq_iff, owner_crowded]
    decide +kernel
  · simp only [Registry.ahead, owner_crowded]
    decide +kernel

theorem reports_announce_crowded :
    (Report.blocks ((crowded 2).allStacks 4097)).filter Report.headedCurrent =
        [Report.currentBlock (crowded 2).registry 4097 ⟨1, by decide⟩ false] ∧
      dump (some 4097) Sink.standardError true (crowded 2) =
        .returned (.ok ()) ((crowded 2).offered 2 ((crowded 2).allStacks 4097)) := by
  have hhome : (crowded 2).registry.home 4097 = some ⟨1, by decide⟩ := by decide +kernel
  have hworks : (crowded 2).descriptors.Works 2 := .inl ⟨rfl, rfl⟩
  have hreports := reports_announce (registry_crowded 2) hhome hworks
  have hroom : (crowded 2).registry.ahead ⟨1, by decide⟩ < Report.maxThreads := by decide +kernel
  exact ⟨hreports.1.current.trans (if_pos hroom), hreports.2.2.1 rfl⟩

/-- A thread can be missing from the report that it sets off, if enough others are in slots before
its own. -/
theorem exists_unannounced :
    ¬ ∀ (p : Process) (actions : List (ThreadId × ThreadAction)) (t : ThreadId) (i : SlotIndex),
      p.registry = (Recording.initial.run actions).registry → p.registry.home t = some i →
      (Report.blocks (p.allStacks t)).filter Report.headedCurrent =
        [Report.currentBlock p.registry t i p.interpreter.collecting] := by
  intro hall
  obtain ⟨hhome, hbehind⟩ := last_crowded
  have hblock := hall (crowded 101) _ 4196 _ (registry_crowded 101) hhome
  have hannounces := Report.announces_allThreads (wellFormed_crowded 101) hhome
    (crowded 101).interpreter.collecting
  have hnone := hannounces.current
  rw [if_neg hbehind] at hnone
  rw [allStacks_eq, hnone] at hblock
  cases hblock

end Process

end CrashTrace
