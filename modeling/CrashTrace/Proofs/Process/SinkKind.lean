import CrashTrace.Proofs.Process.BrokenPipe

/-!
# The kind of the fatal sink

A report is written as a whole or not at all, and nothing looks at what came of it. So it does not
matter for the end of a process what the fatal sink leads to, except that a broken pipe sends a
signal. Two copies of a process that differ in the fatal sink end alike if both sinks are broken
pipes or none is, and also if a broken pipe is borne.

## Main definitions

- `Process.SinkCopy` — a copy that differs in the kind of the fatal sink
- `Process.EndsAs`, `Process.EndAlike` — how runs end that get any budget they need
- `Process.Spares` — nothing has changed for the signals that are left out
- `Process.Beside` — two states in step, each with an invariant of its own

## Main results

- `Process.EndAlike.of_inStep`

## Design notes

If the same pipes are broken, all signals run in step. Otherwise the signal of a broken pipe is
left out: the two copies agree in everything else, and each of them bears a broken pipe. That
signal may need four handlers inside one another in one of the copies, and none in the other.
-/

namespace CrashTrace

/-- How a run has come to its end, if its budget allowed that: with an exit status, or not. -/
def Outcome.end? {α : Type} : Outcome α → Option (Option ExitStatus)
  | .returned _ _ => some none
  | .ended status _ => some (some status)
  | .unfinished => none

theorem Outcome.Agrees.end? {α β : Type} {R : Process → Process → Prop} {o : Outcome α}
    {o' : Outcome β} (h : o.Agrees R o') {e : Option ExitStatus} (he : o.end? = some e) :
    o'.end? = some e := by
  cases h with
  | returned _ => exact he
  | ended _ => exact he
  | unfinished => cases he

namespace Process

variable {p q r : Process} {s : Signal} {S : Signal → Prop}

/-- How a run ends if it may use any budget: with an exit status, or by returning. A run that goes
on for ever has no end. -/
def EndsAs (run : Nat → Run Unit) (p : Process) (e : Option ExitStatus) : Prop :=
  ∃ budget, (run budget p).end? = some e

/-- Two states from which a run ends alike: in the same way, or not at all. -/
structure EndAlike (run : Nat → Run Unit) (p q : Process) : Prop where
  same : ∀ e, EndsAs run p e ↔ EndsAs run q e
  agree : ∀ e e', EndsAs run p e → EndsAs run q e' → e = e'

/-- Descriptors lead elsewhere, and all else is the same. -/
def withKinds (p : Process) (kinds : Entries Int DescriptorKind) : Process :=
  { p with descriptors := { p.descriptors with kinds := kinds } }

/-- A copy that differs at most in what the descriptor of the fatal sink leads to. -/
def SinkCopy (p q : Process) : Prop :=
  ∃ kinds, q = p.withKinds kinds ∧
    ∀ fd, p.faults.target.descriptor ≠ some fd → kinds.find? fd = p.descriptors.kinds.find? fd

theorem SinkCopy.refl (p : Process) : SinkCopy p p := ⟨_, rfl, fun _ _ => rfl⟩

/-- The fatal sink may be opened as anything. -/
theorem SinkCopy.put {fd : Int} (h : p.faults.target.descriptor = some fd) (kind : DescriptorKind) :
    SinkCopy p (p.withKinds (p.descriptors.kinds.put fd kind)) := by
  refine ⟨_, rfl, fun fd' hfd => ?_⟩
  rw [Entries.find?_put, if_neg]
  rintro rfl
  exact hfd h

/-- Nothing has changed for the signals that are left out, and no descriptor leads elsewhere. -/
structure Spares (S : Signal → Prop) (p q : Process) : Prop where
  actions : ∀ s, ¬ S s → q.actions.get s = p.actions.get s
  userSignals : ∀ s, ¬ S s → q.userSignal s = p.userSignal s
  blocked : ∀ s, ¬ S s → s ∉ p.blocked → s ∉ q.blocked
  pending : ∀ s, ¬ S s → s ∉ p.pending → s ∉ q.pending
  kinds : q.descriptors.kinds = p.descriptors.kinds

/-- A property that looks at nothing but the signals that are left out and the descriptors. -/
def Outside (S : Signal → Prop) (I : Process → Prop) : Prop := ∀ p q, Spares S p q → I p → I q

/-- Two states agree in what concerns some signals, and each has a property of its own. -/
structure Beside (S : Signal → Prop) (I J : Process → Prop) (p q : Process) : Prop where
  twin : Twin S p q
  left : I p
  right : J q

namespace Spares

theorem of_same (hactions : q.actions = p.actions) (husers : q.userSignals = p.userSignals)
    (hblocked : q.blocked = p.blocked) (hpending : q.pending.Sublist p.pending)
    (hdescriptors : q.descriptors = p.descriptors) : Spares S p q where
  actions _ _ := by rw [hactions]
  userSignals u _ := userSignal_congr husers u
  blocked _ _ h := by rwa [hblocked]
  pending _ _ h hmem := h (hpending.subset hmem)
  kinds := by rw [hdescriptors]

theorem trySetAction (hs : S s) (a : Action) : Spares S p (p.trySetAction s a) where
  actions u hu := by
    rw [trySetAction_get, if_neg]
    rintro ⟨rfl, -⟩
    exact hu hs
  userSignals u _ := userSignal_congr (p.trySetAction_userSignals s a) u
  blocked u _ h := by rwa [trySetAction_blocked]
  pending u _ h hmem := h ((p.trySetAction_pending s a).subset hmem)
  kinds := by rw [trySetAction_descriptors]

theorem changeUserSignal (hs : S s) (change : UserSignal → UserSignal) :
    Spares S p (p.changeUserSignal s change) where
  actions _ _ := rfl
  userSignals u hu := by
    rw [userSignal_changeUserSignal, if_neg]
    rintro rfl
    exact hu hs
  blocked _ _ h := h
  pending _ _ h := h
  kinds := rfl

theorem keepPending (hs : S s) : Spares S p (p.keepPending s) := by
  unfold Process.keepPending
  split
  · exact of_same rfl rfl rfl (List.Sublist.refl _) rfl
  · refine ⟨fun _ _ => rfl, fun _ _ => rfl, fun _ _ h => h, fun u hu h => ?_, rfl⟩
    rw [List.mem_append, List.mem_singleton, not_or]
    exact ⟨h, fun hsame => hu (hsame ▸ hs)⟩

end Spares

namespace Twin

theorem trySetAction (h : Twin S p q) (a : Action) :
    Twin S (p.trySetAction s a) (q.trySetAction s a) := by
  by_cases hc : s.actionChangeable
  · rw [trySetAction_of_changeable p a hc, trySetAction_of_changeable q a hc]
    refine ⟨fun u hu => ?_, h.userSignals, h.faults, h.blocked, ?_, h.dumping, h.registry,
      h.interpreter⟩
    · simp only [setAction, SignalTable.get_put, h.actions u hu]
    · simp only [setAction, h.pending]
  · rw [trySetAction_of_not_changeable p a hc, trySetAction_of_not_changeable q a hc]
    exact h

theorem changeUserSignal (h : Twin S p q) (change : UserSignal → UserSignal) :
    Twin S (p.changeUserSignal s change) (q.changeUserSignal s change) := by
  refine ⟨h.actions, fun u hu => ?_, h.faults, h.blocked, h.pending, h.dumping, h.registry,
    h.interpreter⟩
  rw [userSignal_changeUserSignal, userSignal_changeUserSignal, h.userSignals u hu]

theorem keepPending (h : Twin S p q) : Twin S (p.keepPending s) (q.keepPending s) := by
  unfold Process.keepPending
  rw [h.pending]
  split
  · exact h
  · exact ⟨h.actions, h.userSignals, h.faults, h.blocked, rfl, h.dumping, h.registry,
      h.interpreter⟩

theorem erasePending (h : Twin S p q) :
    Twin S { p with pending := p.pending.erase s } { q with pending := q.pending.erase s } :=
  { h with pending := congrArg (fun pending => pending.erase s) h.pending }

end Twin

section Beside

variable {I J : Process → Prop} {p' q' : Process}

theorem Beside.step (hI : Outside S I) (hJ : Outside S J) (h : Beside S I J p q)
    (htwin : Twin S p' q') (hp : Spares S p p') (hq : Spares S q q') : Beside S I J p' q' :=
  ⟨htwin, hI _ _ hp h.left, hJ _ _ hq h.right⟩

theorem lockstep_beside (hI : Outside S I) (hJ : Outside S J)
    (hfree : ∀ p s, I p → ¬ S s → s ∉ p.blocked) : Lockstep S (Beside S I J) where
  action h hs := h.twin.actions _ hs
  userSignal h hs := h.twin.userSignals _ hs
  faults h := h.twin.faults
  blocked h := h.twin.blocked
  pending h := h.twin.pending
  dumping h := h.twin.dumping
  registry h := h.twin.registry
  interpreter h := h.twin.interpreter
  free h hs := hfree _ _ h.left hs
  changeFaults change h :=
    h.step hI hJ { h.twin with faults := congrArg change h.twin.faults }
      (.of_same rfl rfl rfl (.refl _) rfl) (.of_same rfl rfl rfl (.refl _) rfl)
  trySetAction a h hs :=
    h.step hI hJ (h.twin.trySetAction a) (.trySetAction hs a) (.trySetAction hs a)
  changeUserSignal change h hs :=
    h.step hI hJ (h.twin.changeUserSignal change) (.changeUserSignal hs change)
      (.changeUserSignal hs change)
  note _ h :=
    h.step hI hJ { h.twin with } (.of_same rfl rfl rfl (.refl _) rfl)
      (.of_same rfl rfl rfl (.refl _) rfl)
  count h _ :=
    h.step hI hJ { h.twin with } (.of_same rfl rfl rfl (.refl _) rfl)
      (.of_same rfl rfl rfl (.refl _) rfl)
  hold _ h :=
    h.step hI hJ { h.twin with dumping := rfl } (.of_same rfl rfl rfl (.refl _) rfl)
      (.of_same rfl rfl rfl (.refl _) rfl)
  block _ h hout :=
    h.step hI hJ { h.twin with blocked := rfl }
      ⟨fun _ _ => rfl, fun _ _ => rfl, fun u hu _ => hout u hu, fun _ _ h => h, rfl⟩
      ⟨fun _ _ => rfl, fun _ _ => rfl, fun u hu _ => hout u hu, fun _ _ h => h, rfl⟩
  keep h hs := h.step hI hJ h.twin.keepPending (.keepPending hs) (.keepPending hs)
  take h _ :=
    h.step hI hJ h.twin.erasePending
      (.of_same rfl rfl rfl List.erase_sublist rfl) (.of_same rfl rfl rfl List.erase_sublist rfl)

end Beside

-- ════════════════════════════════════════════════════════════════════════
-- Copies in step
-- ════════════════════════════════════════════════════════════════════════

variable {caller : Option ThreadId}

/-- The same pipes are broken in the two copies. -/
theorem InStep.of_broken {kinds kinds' : Entries Int DescriptorKind}
    (hbroken : ∀ fd, (r.withKinds kinds).descriptors.Broken fd ↔
      (r.withKinds kinds').descriptors.Broken fd) :
    InStep caller (fun _ => True) (Beside (fun _ => True) (fun p => p.descriptors.kinds = kinds)
      fun p => p.descriptors.kinds = kinds') 0 := by
  set R := Beside (fun _ => True) (fun p => p.descriptors.kinds = kinds)
    fun p => p.descriptors.kinds = kinds' with hRdef
  have houtside : ∀ kinds : Entries Int DescriptorKind,
      Outside (fun _ => True) fun p => p.descriptors.kinds = kinds :=
    fun _ _ _ hspares h => hspares.kinds.trans h
  have hR : Lockstep (fun _ => True) R := lockstep_beside (houtside kinds) (houtside kinds')
    fun _ _ _ hs => absurd trivial hs
  have hsame : ∀ {p q fd}, R p q → (p.descriptors.Broken fd ↔ q.descriptors.Broken fd) := by
    intro p q fd h
    rw [DescriptorTable.broken_congr (t := (r.withKinds kinds).descriptors) h.left,
      DescriptorTable.broken_congr (t := (r.withKinds kinds').descriptors) h.right]
    exact hbroken fd
  have hoffered : ∀ {p q} fd text, R p q → R (p.offered fd text) (q.offered fd text) :=
    fun fd text h => ⟨{ h.twin with }, (DescriptorTable.kinds_reported _ _ _).trans h.left,
      (DescriptorTable.kinds_reported _ _ _).trans h.right⟩
  exact hR.inStep hsame hoffered caller 0

theorem outside_bears : Outside (· ≠ Signal.pipe) Bears := by
  intro p q h hp
  have hpipe : ¬ Signal.pipe ≠ Signal.pipe := fun hne => hne rfl
  have hsame : SamePipe p q := ⟨h.actions _ hpipe, h.userSignals _ hpipe, h.kinds⟩
  exact ⟨hsame.bearsPipe hp.borne, h.blocked _ hpipe hp.blocked, h.pending _ hpipe hp.pending⟩

/-- A write comes back, to whatever it goes. -/
theorem write_borne (h : Bears p) (caller : Option ThreadId) (budget : Nat) (fd : Int)
    (text : Text) :
    ∃ result q, write (Process.raise caller (budget + 4)) fd text p = .returned result q ∧
      OnlyPipe p q ∧ Bears q := by
  by_cases hbroken : p.descriptors.offer fd text = .pipeBroken
  · obtain ⟨q, hq, hpq, hborne⟩ := raise_pipe_borne h caller budget
    exact ⟨_, q, (write_of_broken hbroken _).trans (Run.bind_of_returned hq _), hpq, hborne⟩
  · obtain ⟨result, hresult⟩ := exists_write_of_unbroken hbroken (Process.raise caller (budget + 4))
    have hsame : SamePipe p (p.offered fd text) :=
      ⟨rfl, rfl, DescriptorTable.kinds_reported _ _ _⟩
    exact ⟨result, _, hresult, .offered p fd text, hsame.bearsPipe h.borne, h.blocked, h.pending⟩

/-- A broken pipe is borne in both copies. -/
theorem InStep.of_bears :
    InStep caller (· ≠ Signal.pipe) (Beside (· ≠ Signal.pipe) Bears Bears) 4 := by
  have hR := lockstep_beside outside_bears outside_bears fun p s hp hs => by
    rw [not_not] at hs
    exact hs ▸ hp.blocked
  have hwrite : ∀ budget fd text, Run.Agree (Beside (· ≠ Signal.pipe) Bears Bears)
      (Process.write (Process.raise caller budget) fd text)
      (Process.write (Process.raise caller (budget + 4)) fd text) := by
    intro budget fd text p q h
    obtain ⟨_, q', hq, hqq', hborne'⟩ := write_borne h.right caller budget fd text
    obtain ⟨_, p', hp, hpp', hborne⟩ := write_borne h.left caller budget fd text
    have hless := (inStep_eq caller 4).write budget fd text p p rfl
    rw [hp] at hless
    rw [hq]
    obtain hnone | ⟨_, hp⟩ := hless.returned_less
    · rw [hnone]
      exact .unfinished
    · rw [hp]
      exact .returned ⟨hpp'.twin.symm.trans (h.twin.trans hqq'.twin), hborne, hborne'⟩
  refine ⟨hR, by decide, hwrite, fun budget => ?_⟩
  induction budget with
  | zero => exact fun _ _ _ _ _ => .unfinished
  | succ budget ih =>
    rw [Nat.add_right_comm]
    exact fun s hs => hR.raise_succ (by decide) (by decide) (hwrite budget) ih hs

/-- Two copies run in step one way or the other. -/
theorem exists_inStep (hblocked : Signal.pipe ∉ r.blocked) (hpending : Signal.pipe ∉ r.pending)
    (hp : SinkCopy r p) (hq : SinkCopy r q)
    (hpipe : (∀ fd, p.descriptors.Broken fd ↔ q.descriptors.Broken fd) ∨
      BearsPipe p ∧ BearsPipe q) (caller : Option ThreadId) :
    ∃ S R more, InStep caller S R more ∧ R p q := by
  obtain ⟨kinds, rfl, -⟩ := hp
  obtain ⟨kinds', rfl, -⟩ := hq
  have htwin : ∀ S, Twin S (r.withKinds kinds) (r.withKinds kinds') :=
    fun _ => ⟨fun _ _ => rfl, fun _ _ => rfl, rfl, rfl, rfl, rfl, rfl, rfl⟩
  obtain hbroken | ⟨hborne, hborne'⟩ := hpipe
  · exact ⟨_, _, 0, .of_broken hbroken, htwin _, rfl, rfl⟩
  · exact ⟨_, _, 4, .of_bears, htwin _, ⟨hborne, hblocked, hpending⟩, hborne', hblocked, hpending⟩

-- ════════════════════════════════════════════════════════════════════════
-- The end
-- ════════════════════════════════════════════════════════════════════════

section Ends

variable {run : Nat → Run Unit} {e e' : Option ExitStatus} {more : Nat}

theorem EndsAs.of_agree {R : Process → Process → Prop}
    (hrun : ∀ budget, Run.Agree R (run budget) (run (budget + more))) (h : R p q)
    (hp : EndsAs run p e) : EndsAs run q e := by
  obtain ⟨budget, hend⟩ := hp
  exact ⟨budget + more, (hrun budget p q h).end? hend⟩

/-- A run has one end at most, since a larger budget changes nothing. -/
theorem EndsAs.unique
    (hrun : ∀ budget more, Run.Agree Eq (run budget) (run (budget + more)))
    (h : EndsAs run p e) (h' : EndsAs run p e') : e = e' := by
  obtain ⟨budget, hend⟩ := h
  obtain ⟨budget', hend'⟩ := h'
  have hboth := (hrun budget budget' p p rfl).end? hend
  rw [Nat.add_comm, (hrun budget' budget p p rfl).end? hend'] at hboth
  exact Option.some.inj hboth.symm

/-- Two copies that run in step one way or the other end alike. -/
theorem EndAlike.of_inStep (hblocked : Signal.pipe ∉ r.blocked)
    (hpending : Signal.pipe ∉ r.pending) (hp : SinkCopy r p) (hq : SinkCopy r q)
    (hpipe : (∀ fd, p.descriptors.Broken fd ↔ q.descriptors.Broken fd) ∨
      BearsPipe p ∧ BearsPipe q)
    (hrun : ∀ S R more, InStep caller S R more →
      ∀ budget, Run.Agree R (run budget) (run (budget + more))) : EndAlike run p q := by
  have hpipe' : (∀ fd, q.descriptors.Broken fd ↔ p.descriptors.Broken fd) ∨
      BearsPipe q ∧ BearsPipe p := hpipe.imp (fun h fd => (h fd).symm) And.symm
  have hsame : ∀ e, EndsAs run p e ↔ EndsAs run q e := by
    intro e
    constructor
    · intro h
      obtain ⟨S, R, more, hstep, hpq⟩ := exists_inStep hblocked hpending hp hq hpipe caller
      exact h.of_agree (hrun S R more hstep) hpq
    · intro h
      obtain ⟨S, R, more, hstep, hqp⟩ := exists_inStep hblocked hpending hq hp hpipe' caller
      exact h.of_agree (hrun S R more hstep) hqp
  refine ⟨hsame, fun e e' h h' => ?_⟩
  exact EndsAs.unique (fun budget more => hrun _ _ more (inStep_eq caller more) budget)
    ((hsame e).mp h) h'

end Ends

end Process

end CrashTrace
