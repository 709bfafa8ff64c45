import CrashTrace.Process.Operation
import CrashTrace.Proofs.Process.FatalSignal

/-!
# Two runs in step

A signal that is sent in two states that differ in something sets off the same handlers in both, as
long as the handlers find the same wherever they look. So two runs are compared by a relation
between their states that each single thing a handler does preserves.

## Main definitions

- `Outcome.Agrees`, `Run.Agree` — two runs come to the same, in related states
- `Process.Lockstep` — a relation is preserved by each thing that a handler does
- `Process.InStep` — two runs in step, with budgets that differ by so many handlers

## Main results

- `Process.Lockstep.raise_succ` — one handler more
- `Process.Lockstep.inStep`, `Process.inStep_eq`

## Design notes

A relation may leave some signals out, and then a handler must not look at these. What a write does
is asked for separately, since the signal of a broken pipe may be among those left out.

The runs have budgets of their own, and a run that has used its budget up agrees with any other. So
agreement is proved by induction on the budget of the first run.
-/

namespace CrashTrace

/-- The first outcome is that of a run whose budget is used up, or both are the same, in related
states. -/
inductive Outcome.Agrees {α β : Type} (R : Process → Process → Prop) :
    Outcome α → Outcome β → Prop
  | returned {v : α} {w : β} {p q : Process} : R p q → Agrees R (.returned v p) (.returned w q)
  | ended {status : ExitStatus} {p q : Process} :
      R p q → Agrees R (.ended status p) (.ended status q)
  | unfinished {o : Outcome β} : Agrees R .unfinished o

/-- A run with a smaller budget returns in the same state, or its budget is used up. -/
theorem Outcome.Agrees.returned_less {α β : Type} {o : Outcome α} {w : β} {q : Process}
    (h : o.Agrees Eq (.returned w q)) : o = .unfinished ∨ ∃ v, o = .returned v q := by
  cases h with
  | returned hpq => exact .inr ⟨_, by rw [hpq]⟩
  | unfinished => exact .inl rfl

/-- A run that is not unfinished comes to the same with a larger budget. -/
theorem Outcome.Agrees.eq_of_finished {o o' : Outcome Unit} (h : o.Agrees Eq o')
    (hfinished : o ≠ .unfinished) : o' = o := by
  cases h with
  | returned hpq => rw [hpq]
  | ended hpq => rw [hpq]
  | unfinished => exact absurd rfl hfinished

namespace Run

variable {α β γ δ : Type} {R : Process → Process → Prop}

/-- From related states two runs come to the same. -/
def Agree (R : Process → Process → Prop) (f : Run α) (g : Run β) : Prop :=
  ∀ p q, R p q → (f p).Agrees R (g q)

namespace Agree

theorem pure (v : α) (w : β) : Agree R (pure v : Run α) (Pure.pure w : Run β) :=
  fun _ _ h => .returned h

theorem change {f g : Process → Process} (h : ∀ p q, R p q → R (f p) (g q)) :
    Agree R (Run.change f) (Run.change g) :=
  fun p q hpq => .returned (h p q hpq)

theorem finish (status : ExitStatus) : Agree R (Run.finish status) (Run.finish status) :=
  fun _ _ h => .ended h

theorem bind {f : Run α} {g : Run β} {next : α → Run γ} {next' : β → Run δ} (hf : Agree R f g)
    (hnext : ∀ v w, Agree R (next v) (next' w)) : Agree R (f >>= next) (g >>= next') := by
  intro p q h
  have hfirst := hf p q h
  rw [bind_apply, bind_apply]
  generalize f p = o at hfirst
  generalize g q = o' at hfirst
  cases hfirst with
  | returned hpq => exact hnext _ _ _ _ hpq
  | ended hpq => exact .ended hpq
  | unfinished => exact .unfinished

theorem state_bind {next : Process → Run α} {next' : Process → Run β}
    (h : ∀ p q, R p q → (next p p).Agrees R (next' q q)) :
    Agree R (state >>= next) (state >>= next') := h

end Agree

end Run

namespace Process

/-- A relation holds on through each thing that a handler of one of the signals `S` does, and such
a handler finds the same in two related states. The other signals are never blocked. -/
structure Lockstep (S : Signal → Prop) (R : Process → Process → Prop) : Prop where
  action : ∀ {p q s}, R p q → S s → q.actions.get s = p.actions.get s
  userSignal : ∀ {p q s}, R p q → S s → q.userSignal s = p.userSignal s
  faults : ∀ {p q}, R p q → q.faults = p.faults
  blocked : ∀ {p q}, R p q → q.blocked = p.blocked
  pending : ∀ {p q}, R p q → q.pending = p.pending
  dumping : ∀ {p q}, R p q → q.dumping = p.dumping
  registry : ∀ {p q}, R p q → q.registry = p.registry
  interpreter : ∀ {p q}, R p q → q.interpreter = p.interpreter
  free : ∀ {p q s}, R p q → ¬ S s → s ∉ p.blocked
  changeFaults : ∀ {p q} change, R p q → R (p.changeFaults change) (q.changeFaults change)
  trySetAction : ∀ {p q s} a, R p q → S s → R (p.trySetAction s a) (q.trySetAction s a)
  changeUserSignal : ∀ {p q s} change, R p q → S s →
    R (p.changeUserSignal s change) (q.changeUserSignal s change)
  note : ∀ {p q} e, R p q → R (p.note e) (q.note e)
  count : ∀ {p q s}, R p q → S s → R { p with calls := p.calls.put s (p.calls.get s + 1) }
    { q with calls := q.calls.put s (q.calls.get s + 1) }
  hold : ∀ {p q} dumping, R p q → R { p with dumping := dumping } { q with dumping := dumping }
  block : ∀ {p q} blocked, R p q → (∀ s, ¬ S s → s ∉ blocked) →
    R { p with blocked := blocked } { q with blocked := blocked }
  keep : ∀ {p q s}, R p q → S s → R (p.keepPending s) (q.keepPending s)
  take : ∀ {p q s}, R p q → S s →
    R { p with pending := p.pending.erase s } { q with pending := q.pending.erase s }

namespace Lockstep

variable {S : Signal → Prop} {R : Process → Process → Prop} (hR : Lockstep S R) {p q : Process}
  {s : Signal}

include hR

theorem reinstate {kept : SavedAction} (h : R p q) (hs : S s) :
    R (p.reinstate kept s) (q.reinstate kept s) := by
  unfold Process.reinstate
  split
  · exact hR.trySetAction _ h hs
  · exact h

theorem uninstallFault (h : R p q) (hs : S s) : R (p.uninstallFault s) (q.uninstallFault s) := by
  rw [uninstallFault_eq, uninstallFault_eq, hR.faults h]
  exact hR.changeFaults _ (hR.reinstate h hs)

theorem unregister (h : R p q) (hs : S s) :
    R (p.unregister s.number).2 (q.unregister s.number).2 := by
  unfold Process.unregister
  cases hn : Signal.registrable s.number with
  | error failure => exact h
  | ok u =>
    obtain rfl : u = s := Fin.ext (Int.ofNat_inj.mp (Signal.number_of_registrable hn))
    simp only [removeDump_eq, hR.userSignal h hs]
    exact hR.note _ (hR.changeUserSignal _ (hR.reinstate h hs) hs)

theorem dumpPieces (h : R p q) (caller : Option ThreadId) (allThreads : Bool) :
    q.dumpPieces caller allThreads = p.dumpPieces caller allThreads := by
  unfold Process.dumpPieces
  rw [hR.registry h, hR.interpreter h]

theorem reportPieces (h : R p q) (header : Pieces) (caller : Option ThreadId)
    (allThreads : Bool) :
    q.reportPieces header caller allThreads = p.reportPieces header caller allThreads := by
  unfold Process.reportPieces
  rw [hR.dumpPieces h, hR.interpreter h]

-- ════════════════════════════════════════════════════════════════════════
-- Handlers
-- ════════════════════════════════════════════════════════════════════════

section Handlers

variable {raise raise' : Raise} (caller : Option ThreadId)
  (hwrite : ∀ fd text, Run.Agree R (write raise fd text) (write raise' fd text))

include hwrite

theorem reportNamed (s : Signal) :
    Run.Agree R (reportNamed raise caller s) (reportNamed raise' caller s) := by
  unfold Process.reportNamed
  cases s.faultName? with
  | none => exact .pure () ()
  | some name =>
    refine Run.Agree.state_bind fun p q h => ?_
    have hheader : faultHeader name q = faultHeader name p := by
      unfold faultHeader
      rw [hR.interpreter h]
    rw [hR.faults h, hheader]
    split
    · exact .returned h
    · have hspent := Run.Agree.change fun p q => hR.changeFaults (p := p) (q := q)
        fun f => { f with spent := true }
      refine Run.Agree.bind hspent (fun _ _ => ?_) p q h
      cases p.faults.target.load? with
      | none => exact .pure () ()
      | some target =>
        dsimp only
        rw [hR.reportPieces h]
        exact (hwrite _ _).bind fun _ _ => .pure () ()

theorem dumpForSignal (hs : S s) :
    Run.Agree R (dumpForSignal raise caller s) (dumpForSignal raise' caller s) := by
  refine Run.Agree.state_bind fun p q h => ?_
  rw [hR.userSignal h hs, hR.dumping h]
  cases (p.userSignal s).target.load? with
  | none => exact .returned h
  | some target =>
    cases p.dumping.take? with
    | none => exact .returned h
    | some held =>
      dsimp only
      rw [hR.dumpPieces h]
      refine Run.Agree.bind (.change fun p q h => hR.hold held h) (fun _ _ =>
        (hwrite _ _).bind fun _ _ => .change fun p q h => ?_) p q h
      rw [hR.dumping h]
      exact hR.hold _ h

variable (hraise : ∀ s, S s → Run.Agree R (raise s) (raise' s))

include hraise

theorem handleFault (hs : S s) (sent : Bool) :
    Run.Agree R (handleFault raise caller s sent) (handleFault raise' caller s sent) := by
  rw [handleFault_eq, handleFault_eq]
  refine (hR.reportNamed caller hwrite s).bind fun _ _ => ?_
  refine Run.Agree.bind (.change fun p q h => ?_) fun _ _ => (hraise s hs).bind fun _ _ => ?_
  · split
    · exact hR.uninstallFault h hs
    · exact h
  · split
    · exact Run.Agree.bind (.change fun p q h => hR.trySetAction _ h hs) fun _ _ => hraise s hs
    · exact .pure () ()

theorem handleDump (hs : S s) :
    Run.Agree R (handleDump raise caller s) (handleDump raise' caller s) := by
  refine (hR.dumpForSignal caller hwrite hs).bind fun _ _ => Run.Agree.state_bind fun p q h => ?_
  rw [hR.userSignal h hs]
  split
  · refine Run.Agree.bind (.change fun p q h => ?_) (fun _ _ =>
      (hraise s hs).bind fun _ _ => .change fun p q h => ?_) p q h
    · rw [hR.userSignal h hs]
      exact hR.reinstate h hs
    · have hdump : q.dumpAction true = p.dumpAction true := by
        unfold dumpAction
        rw [hR.faults h]
      rw [hR.userSignal h hs, hdump]
      split
      · exact hR.trySetAction _ h hs
      · exact h
  · exact .returned h

variable (habort : S Signal.abort) (huser1 : S Signal.user1)

include habort huser1

theorem handle (hs : S s) (sent : Bool) (k : Handler) :
    Run.Agree R (handle raise caller s sent k) (handle raise' caller s sent k) := by
  cases k with
  | own k =>
    refine Run.Agree.bind (.change fun p q h => hR.count h hs) fun _ _ => ?_
    cases k with
    | counts => exact .pure () ()
    | exits => exact .finish _
    | aborts => exact hraise _ habort
    | unregisters => exact .change fun p q h => hR.unregister h hs
    | raisesUser1 => exact hraise _ huser1
  | report => exact hR.handleFault caller hwrite hraise hs sent
  | dump => exact hR.handleDump caller hwrite hraise hs

/-- A delivery blocks its own signal at most, and gives back what was blocked before. -/
theorem invoke (hs : S s) (sent : Bool) (flags : ActionFlags) (k : Handler) :
    Run.Agree R (invoke raise caller s sent flags k) (invoke raise' caller s sent flags k) := by
  refine Run.Agree.state_bind fun p q h => ?_
  have hfree : ∀ u, ¬ S u → u ∉ p.blocked := fun u hu => hR.free h hu
  rw [hR.blocked h]
  refine Run.Agree.bind (.change fun p' q' h' => hR.block _ h' fun u hu => ?_) (fun _ _ =>
    (hR.handle caller hwrite hraise habort huser1 hs sent k).bind fun _ _ =>
      Run.Agree.bind (.change fun p' q' h' => hR.block _ h' hfree) fun _ _ =>
        Run.Agree.state_bind fun p' q' h' => ?_) p q h
  · split
    · exact hfree u hu
    · rw [List.mem_cons, not_or]
      exact ⟨fun hsame => hu (hsame ▸ hs), hfree u hu⟩
  · rw [hR.pending h', hR.blocked h']
    split
    · exact Run.Agree.bind (.change fun p q h => hR.take h hs) (fun _ _ => hraise s hs) p' q' h'
    · exact .returned h'

end Handlers

/-- If two runs with certain budgets come to the same, so do those with one handler more. -/
theorem raise_succ {caller : Option ThreadId} {budget budget' : Nat} (habort : S Signal.abort)
    (huser1 : S Signal.user1)
    (hwrite : ∀ fd text, Run.Agree R (write (raise caller budget) fd text)
      (write (raise caller budget') fd text))
    (hraise : ∀ s, S s → Run.Agree R (raise caller budget s) (raise caller budget' s)) (hs : S s) :
    Run.Agree R (raise caller (budget + 1) s) (raise caller (budget' + 1) s) := by
  unfold Process.raise
  refine Run.Agree.state_bind fun p q h => ?_
  split
  · exact .returned h
  · rw [hR.blocked h]
    split
    · exact .returned (hR.keep h hs)
    · refine Run.Agree.state_bind (fun p q h => ?_) p q h
      rw [hR.action h hs]
      cases (p.actions.get s).disposition with
      | ignored => exact .returned h
      | byDefault =>
        dsimp only
        split
        · exact .returned h
        · exact .ended h
      | handled k =>
        exact hR.invoke caller hwrite hraise habort huser1 hs true _ k p q h

theorem abort {caller : Option ThreadId} {budget budget' : Nat}
    (hraise : Run.Agree R (raise caller budget Signal.abort) (raise caller budget' Signal.abort)) :
    Run.Agree R (abort caller budget) (abort caller budget') := by
  refine Run.Agree.bind (.change fun p q h => ?_) fun _ _ => hraise.bind fun _ _ => .finish _
  rw [hR.blocked h]
  exact hR.block _ h fun s hs hmem => hR.free h hs (List.mem_filter.mp hmem).1

theorem uninstallFaults (hfaults : ∀ s, s.faultName?.isSome → S s) (h : R p q) :
    R p.uninstallFaults q.uninstallFaults := by
  have hfold : ∀ signals : List Signal, (∀ s ∈ signals, S s) → ∀ p q, R p q →
      R (signals.foldl Process.uninstallFault p) (signals.foldl Process.uninstallFault q) := by
    intro signals
    induction signals with
    | nil => exact fun _ p q h => h
    | cons s signals ih =>
      intro hsignals p q h
      obtain ⟨hs, hrest⟩ := List.forall_mem_cons.mp hsignals
      exact ih hrest _ _ (hR.uninstallFault h hs)
  exact hfold faultSignals (fun s hs => hfaults s ((mem_faultSignals s).mp hs)) p q h

end Lockstep

theorem Lockstep.fatalErrorWithin {S : Signal → Prop} {R : Process → Process → Prop}
    (hR : Lockstep S R) {caller : Option ThreadId} {budget budget' : Nat}
    (hfaults : ∀ s, s.faultName?.isSome → S s)
    (hwrite : ∀ fd text, Run.Agree R (write (raise caller budget) fd text)
      (write (raise caller budget') fd text))
    (hraise : Run.Agree R (raise caller budget Signal.abort) (raise caller budget' Signal.abort))
    (function? : Option String) (message : String) :
    Run.Agree R (fatalErrorWithin budget caller function? message)
      (fatalErrorWithin budget' caller function? message) := by
  refine Run.Agree.state_bind fun p q h => ?_
  have htarget : q.fatalErrorTarget = p.fatalErrorTarget := by
    unfold fatalErrorTarget
    rw [hR.faults h]
  rw [htarget, hR.interpreter h, hR.reportPieces h]
  exact Run.Agree.bind (hwrite _ _) (fun _ _ =>
    Run.Agree.bind (.change fun p q h => hR.uninstallFaults hfaults h) fun _ _ =>
      hR.abort hraise) p q h

-- ════════════════════════════════════════════════════════════════════════
-- Runs in step
-- ════════════════════════════════════════════════════════════════════════

section All

variable {R : Process → Process → Prop} {raise raise' : Raise} {fd : Int} {text : Text}
  {p : Process}

/-- A text has been offered to a descriptor. -/
def offered (p : Process) (fd : Int) (text : Text) : Process :=
  { p with descriptors := p.descriptors.reported (some (fd, text)) }

theorem write_of_broken (h : p.descriptors.offer fd text = .pipeBroken) (raise : Raise) :
    write raise fd text p =
      (raise Signal.pipe >>= fun _ => pure (.error IoFailure.brokenPipe)) p := by
  unfold write
  rw [Run.state_bind, h]

theorem exists_write_of_unbroken (h : p.descriptors.offer fd text ≠ .pipeBroken) (raise : Raise) :
    ∃ result, write raise fd text p = .returned result (p.offered fd text) := by
  simp only [write, offered, DescriptorTable.reported, Run.state_bind]
  cases hoffer : p.descriptors.offer fd text with
  | taken table => exact ⟨.ok (), rfl⟩
  | refused failure => exact ⟨.error failure, rfl⟩
  | pipeBroken => exact absurd hoffer h

/-- A write comes to the same where the same pipes are broken, if their signal does. -/
theorem write_agree
    (hbroken : ∀ {p q fd}, R p q → (p.descriptors.Broken fd ↔ q.descriptors.Broken fd))
    (hoffered : ∀ {p q} fd text, R p q → R (p.offered fd text) (q.offered fd text))
    (hpipe : Run.Agree R (raise Signal.pipe) (raise' Signal.pipe)) (fd : Int) (text : Text) :
    Run.Agree R (write raise fd text) (write raise' fd text) := by
  intro p q h
  have hsame : q.descriptors.offer fd text = .pipeBroken ↔
      p.descriptors.offer fd text = .pipeBroken := by
    rw [DescriptorTable.offer_eq_pipeBroken, DescriptorTable.offer_eq_pipeBroken, hbroken h]
  by_cases hp : p.descriptors.offer fd text = .pipeBroken
  · rw [write_of_broken hp, write_of_broken (hsame.mpr hp)]
    exact hpipe.bind (fun _ _ => .pure _ _) p q h
  · obtain ⟨result, hresult⟩ := exists_write_of_unbroken hp raise
    obtain ⟨result', hresult'⟩ := exists_write_of_unbroken (fun hq => hp (hsame.mp hq)) raise'
    rw [hresult, hresult']
    exact .returned (hoffered fd text h)

end All

/-- From related states fatal signals, fatal errors and writes come to the same, if the second run
may have this many more handlers inside one another. -/
structure InStep (caller : Option ThreadId) (S : Signal → Prop) (R : Process → Process → Prop)
    (more : Nat) : Prop where
  lockstep : Lockstep S R
  fatal : ∀ s, s.faultName?.isSome → S s
  write : ∀ budget fd text, Run.Agree R (write (raise caller budget) fd text)
    (write (raise caller (budget + more)) fd text)
  raise : ∀ budget s, S s →
    Run.Agree R (raise caller budget s) (raise caller (budget + more) s)

theorem InStep.fatalErrorWithin {caller : Option ThreadId} {S : Signal → Prop}
    {R : Process → Process → Prop} {more : Nat} (h : InStep caller S R more) (budget : Nat)
    (function? : Option String) (message : String) :
    Run.Agree R (fatalErrorWithin budget caller function? message)
      (fatalErrorWithin (budget + more) caller function? message) :=
  h.lockstep.fatalErrorWithin h.fatal (h.write budget)
    (h.raise budget Signal.abort (h.fatal Signal.abort rfl)) function? message

/-- If no signal is left out, all of them run in step. The induction is on the budget of the first
run. -/
theorem Lockstep.inStep {R : Process → Process → Prop} (hR : Lockstep (fun _ => True) R)
    (hbroken : ∀ {p q fd}, R p q → (p.descriptors.Broken fd ↔ q.descriptors.Broken fd))
    (hoffered : ∀ {p q} fd text, R p q → R (p.offered fd text) (q.offered fd text))
    (caller : Option ThreadId) (more : Nat) : InStep caller (fun _ => True) R more := by
  have hraise : ∀ budget s,
      Run.Agree R (Process.raise caller budget s) (Process.raise caller (budget + more) s) := by
    intro budget
    induction budget with
    | zero => exact fun _ _ _ _ => .unfinished
    | succ budget ih =>
      intro s
      rw [Nat.add_right_comm]
      exact hR.raise_succ trivial trivial (write_agree hbroken hoffered (ih Signal.pipe))
        (fun u _ => ih u) trivial
  exact ⟨hR, fun _ _ => trivial,
    fun budget => write_agree hbroken hoffered (hraise budget Signal.pipe),
    fun budget s _ => hraise budget s⟩

/-- A larger budget changes nothing. -/
theorem inStep_eq (caller : Option ThreadId) (more : Nat) :
    InStep caller (fun _ => True) Eq more := by
  have hR : Lockstep (fun _ => True) Eq := {
    action := fun h _ => h ▸ rfl
    userSignal := fun h _ => h ▸ rfl
    faults := fun h => h ▸ rfl
    blocked := fun h => h ▸ rfl
    pending := fun h => h ▸ rfl
    dumping := fun h => h ▸ rfl
    registry := fun h => h ▸ rfl
    interpreter := fun h => h ▸ rfl
    free := fun _ hs => absurd trivial hs
    changeFaults := fun _ h => h ▸ rfl
    trySetAction := fun _ h _ => h ▸ rfl
    changeUserSignal := fun _ h _ => h ▸ rfl
    note := fun _ h => h ▸ rfl
    count := fun h _ => h ▸ rfl
    hold := fun _ h => h ▸ rfl
    block := fun _ h _ => h ▸ rfl
    keep := fun h _ => h ▸ rfl
    take := fun h _ => h ▸ rfl }
  exact hR.inStep (fun h => by rw [h]) (fun _ _ h => by rw [h]) caller more

end Process

end CrashTrace
