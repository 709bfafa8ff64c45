import CrashTrace.Proofs.Process.Setup
import Mathlib.Data.List.Infix

/-!
# The course of a process

Fault reports are enabled and disabled, signals registered and unregistered, handlers of the
observed program installed, and signals delivered, in any order and any number of times. At every
point between two of these events each handler installed here is marked, and what is saved for a
marked signal is the action that was in force when it was marked.

## Main definitions

- `Event` — what happens to the signals of a process
- `Process.course` — the state after some events, if all of them return
- `Process.CapturedBy` — the call that marked a signal, and the action that was in force before it
- `Event.TakesDown` — disabling and unregistering

## Main results

- `Process.actions_of_course`

## Design notes

Events are kept newest first. A delivery carries the number of handlers that may run inside one
another, so a delivery that returns at all is an event for some number.
-/

namespace CrashTrace

/-- What happens to the signals of a process. -/
inductive Event where
  | enable (supply : StackSupply) (sink : Sink) (settings : FaultSettings)
  | disable
  | register (signum : Int) (sink : Sink) (settings : UserSignalSettings)
  | unregister (signum : Int)
  /-- The observed program asks for an action of its own. -/
  | install (s : Signal) (a : Action) (foreign : a.Foreign)
  /-- A thread is sent a signal. -/
  | deliver (caller : Option ThreadId) (s : Signal) (budget : Nat)
  /-- The hardware stops a thread with a signal, and its handler runs once. -/
  | trap (caller : Option ThreadId) (s : Signal) (budget : Nat)
  /-- Threads, files and the interpreter change. -/
  | elsewhere (registry : Registry) (descriptors : DescriptorTable) (interpreter : Interpreter)

/-- The state after a run that returns. -/
def Outcome.state? {α : Type} : Outcome α → Option Process
  | .returned _ p => some p
  | .ended _ _ => none
  | .unfinished => none

namespace Event

def SetsUp (e : Event) (s : Signal) : Prop :=
  match e with
  | .enable _ _ _ => s.faultName?.isSome
  | .register n _ _ => Signal.registrable n = .ok s
  | _ => False

/-- Whether the observed program asks for an action of its own. -/
def Installs : Event → Prop
  | .install _ _ _ => True
  | _ => False

def TakesDown : Event → Prop
  | .disable => True
  | .unregister _ => True
  | _ => False

end Event

namespace Process

variable {p q start : Process} {events : List Event}

def after? (p : Process) : Event → Option Process
  | .enable supply sink settings => some (p.enable supply sink settings).2
  | .disable => some p.disable
  | .register n sink settings => some (p.register n sink settings).2
  | .unregister n => some (p.unregister n).2
  | .install s a _ => some (p.trySetAction s a)
  | .deliver caller s budget => (raise caller budget s p).state?
  | .trap caller s budget =>
    match (p.actions.get s).disposition with
    | .handled h =>
      if p.blocked.contains s then none
      else (invoke (raise caller budget) caller s false (p.actions.get s).flags h p).state?
    | _ => none
  | .elsewhere registry descriptors interpreter =>
    some { p with registry := registry, descriptors := descriptors, interpreter := interpreter }

/-- The state after some events, the newest first. -/
def course (start : Process) : List Event → Option Process
  | [] => some start
  | e :: earlier => (course start earlier).bind fun p => p.after? e

/-- Nothing has been set up, and all actions are those of the observed program. -/
structure Untouched (p : Process) : Prop where
  foreign : ∀ s, (p.actions.get s).Foreign
  fatal : ∀ s, (p.faults.saved.get s).installed = false
  ordinary : ∀ s, (p.userSignal s).saved.installed = false

/-- One of the events marked the signal, the action was in force just before it, and the signal
has been marked ever since. -/
def CapturedBy (start : Process) (s : Signal) (events : List Event) (a : Action) : Prop :=
  ∃ later call earlier before, events = later ++ call :: earlier ∧ call.SetsUp s ∧
    course start earlier = some before ∧ (before.saved s).installed = false ∧
    a = before.actions.get s ∧
    ∀ recent, recent <:+ later → ∀ r, course start (recent ++ call :: earlier) = some r →
      (r.saved s).installed

/-- Everything that can be set up is taken down, in any order. -/
structure TakesAllDown (closing : List Event) : Prop where
  only : ∀ e ∈ closing, e.TakesDown
  disable : Event.disable ∈ closing
  unregister : ∀ n : Int, 1 ≤ n → n < Signal.count → Event.unregister n ∈ closing

theorem returned_of_state? {run : Run Unit} (h : (run p).state? = some q) :
    run p = .returned () q := by
  cases hrun : run p with
  | returned v r =>
    rw [hrun] at h
    rw [Option.some.inj h]
  | ended status r =>
    rw [hrun] at h
    cases h
  | unfinished =>
    rw [hrun] at h
    cases h

theorem Untouched.saved (h : Untouched p) (s : Signal) : (p.saved s).installed = false := by
  unfold Process.saved
  split
  · exact h.fatal s
  · exact h.ordinary s

theorem Untouched.coherent (h : Untouched p) : Coherent p := by
  refine ⟨fun s => ⟨fun hown => ?_, fun hmark => ?_, fun hmark => ?_⟩, fun s hmark => ?_,
    fun s hmark => ?_, fun s hmark => ?_⟩
  · exact absurd (h.foreign s) hown
  · exact absurd ((h.saved s).symm.trans hmark) (by decide)
  · exact absurd ((h.saved s).symm.trans hmark) (by decide)
  · rw [h.fatal] at hmark
    cases hmark
  · rw [h.ordinary] at hmark
    cases hmark
  · rw [h.fatal] at hmark
    cases hmark

-- ════════════════════════════════════════════════════════════════════════
-- One event
-- ════════════════════════════════════════════════════════════════════════

theorem install_coherent (hp : Coherent p) (s : Signal) {a : Action} (ha : a.Foreign) :
    Coherent (p.trySetAction s a) := by
  have hsaved : ∀ u, (p.trySetAction s a).saved u = p.saved u := by
    intro u
    unfold Process.saved userSignal
    rw [trySetAction_faults, trySetAction_userSignals]
  refine ⟨fun u => ⟨fun hown => ?_, fun hmark => ?_, fun hmark => ?_⟩, ?_, ?_, ?_⟩
  · have hown : ¬ ((p.trySetAction s a).actions.get u).Foreign := hown
    show ((p.trySetAction s a).saved u).installed ∧
      ((p.trySetAction s a).actions.get u).Fits u
    rw [trySetAction_get] at hown ⊢
    rw [hsaved]
    split at hown
    · exact absurd ha hown
    · next hother =>
      rw [if_neg hother]
      exact (hp.entry u).own hown
  · have hmark : ((p.trySetAction s a).saved u).installed := hmark
    rw [hsaved] at hmark
    exact (hp.entry u).changeable hmark
  · have hmark : ((p.trySetAction s a).saved u).installed := hmark
    show ((p.trySetAction s a).saved u).previous.Foreign
    rw [hsaved] at hmark ⊢
    exact (hp.entry u).foreign hmark
  · rw [trySetAction_faults]
    exact hp.fatal
  · intro u
    rw [userSignal_congr (p.trySetAction_userSignals s a)]
    exact hp.ordinary u
  · rw [trySetAction_faults]
    exact hp.enabled

theorem sets_of_after? {e : Event} (hp : Coherent p) (h : p.after? e = some q)
    (he : ¬ e.Installs) : Sets e.SetsUp p q := by
  cases e with
  | enable supply sink settings =>
    obtain rfl := Option.some.inj h
    exact enable_sets hp supply sink settings
  | disable =>
    obtain rfl := Option.some.inj h
    exact (disable_keeps hp).sets _
  | register n sink settings =>
    obtain rfl := Option.some.inj h
    exact register_sets hp n sink settings
  | unregister n =>
    obtain rfl := Option.some.inj h
    exact (Keeps.unregister hp n).sets _
  | install s a ha => exact absurd trivial he
  | deliver caller s budget =>
    exact (raise_keeps caller budget s _ _ _ (returned_of_state? h) hp).sets _
  | trap caller s budget =>
    simp only [after?] at h
    split at h
    · split at h
      · cases h
      · have hreturned := returned_of_state? h
        exact (invoke_keeps (raise_keeps caller budget) caller (fun _ => rfl) _ _ _ hreturned
          hp).sets _
    · cases h
  | elsewhere registry descriptors interpreter =>
    obtain rfl := Option.some.inj h
    exact .of_alike hp rfl rfl rfl rfl

theorem coherent_of_after? {e : Event} (hp : Coherent p) (h : p.after? e = some q) :
    Coherent q := by
  by_cases he : e.Installs
  · cases e with
    | install s a ha =>
      obtain rfl := Option.some.inj h
      exact install_coherent hp s ha
    | _ => cases he
  · exact (sets_of_after? hp h he).coherent

theorem marks_of_after? {e : Event} (hp : Coherent p) (h : p.after? e = some q) (s : Signal)
    (hmark : (q.saved s).installed) :
    (p.saved s).installed ∧ (q.saved s).previous = (p.saved s).previous ∨
      e.SetsUp s ∧ (p.saved s).installed = false ∧ (q.saved s).previous = p.actions.get s := by
  by_cases he : e.Installs
  · cases e with
    | install u a ha =>
      obtain rfl := Option.some.inj h
      unfold Process.saved userSignal at hmark ⊢
      rw [trySetAction_faults, trySetAction_userSignals] at hmark ⊢
      exact .inl ⟨hmark, rfl⟩
    | _ => cases he
  · exact (sets_of_after? hp h he).marks s hmark

-- ════════════════════════════════════════════════════════════════════════
-- All events
-- ════════════════════════════════════════════════════════════════════════

theorem course_cons {e : Event} (h : course start (e :: events) = some q) :
    ∃ p, course start events = some p ∧ p.after? e = some q :=
  Option.bind_eq_some_iff.mp h

theorem coherent_of_course (hstart : Untouched start) (h : course start events = some q) :
    Coherent q := by
  induction events generalizing q with
  | nil =>
    obtain rfl := Option.some.inj h
    exact hstart.coherent
  | cons e earlier ih =>
    obtain ⟨p, hp, he⟩ := course_cons h
    exact coherent_of_after? (ih hp) he

/-- A marked signal was marked by one of the events. The induction goes back to the newest event
before which it was not marked. -/
theorem capturedBy_of_course (hstart : Untouched start) (h : course start events = some q)
    {s : Signal} (hmark : (q.saved s).installed) :
    CapturedBy start s events (q.saved s).previous := by
  induction events generalizing q with
  | nil =>
    obtain rfl := Option.some.inj h
    rw [hstart.saved] at hmark
    cases hmark
  | cons e earlier ih =>
    obtain ⟨p, hp, he⟩ := course_cons h
    obtain ⟨hbefore, hsame⟩ | ⟨hset, hunmarked, htaken⟩ :=
      marks_of_after? (coherent_of_course hstart hp) he s hmark
    · obtain ⟨later, call, first, before, rfl, hcall, hfirst, hfree, htaken, hsince⟩ :=
        ih hp hbefore
      refine ⟨e :: later, call, first, before, rfl, hcall, hfirst, hfree, hsame.trans htaken, ?_⟩
      intro recent hrecent r hr
      obtain rfl | hrecent := List.suffix_cons_iff.mp hrecent
      · obtain rfl := Option.some.inj (h.symm.trans hr)
        exact hmark
      · exact hsince recent hrecent r hr
    · refine ⟨[], e, earlier, p, rfl, hset, hp, hunmarked, htaken, ?_⟩
      intro recent hrecent r hr
      obtain rfl := List.suffix_nil.mp hrecent
      obtain rfl := Option.some.inj (h.symm.trans hr)
      exact hmark

theorem original_of_course (hstart : Untouched start) (h : course start events = some q)
    (hnone : ∀ e ∈ events, ¬ e.Installs) (s : Signal) :
    (q.entry s).original = start.actions.get s := by
  induction events generalizing q with
  | nil =>
    obtain rfl := Option.some.inj h
    have hunmarked : (start.entry s).saved.installed = false := hstart.saved s
    rw [Entry.original, hunmarked]
    rfl
  | cons e earlier ih =>
    obtain ⟨p, hp, he⟩ := course_cons h
    have hsets := sets_of_after? (coherent_of_course hstart hp) he
      (hnone e List.mem_cons_self)
    rw [hsets.original s]
    exact ih hp fun e he => hnone e (List.mem_cons_of_mem _ he)

-- ════════════════════════════════════════════════════════════════════════
-- Taking everything down
-- ════════════════════════════════════════════════════════════════════════

theorem course_append (start : Process) (later earlier : List Event) :
    course start (later ++ earlier) = (course start earlier).bind fun p => course p later := by
  induction later with
  | nil => simp [course]
  | cons e later ih => simp only [List.cons_append, course, ih, Option.bind_assoc]

theorem unregister_eq {n : Int} {s : Signal} (hn : Signal.registrable n = .ok s) :
    (p.unregister n).1 = .ok (p.saved s).installed := by
  have hs := (Signal.registrable_eq_ok.mp hn).2
  unfold unregister
  rw [hn, saved_of_ordinary hs]
  dsimp only
  rw [removeDump_eq]

theorem takeDown {e : Event} (hp : Coherent p) (he : e.TakesDown) :
    ∃ q, p.after? e = some q ∧ Keeps p q ∧
      (e = .disable → ∀ s, s.faultName?.isSome → (q.saved s).installed = false) ∧
      ∀ n s, e = .unregister n → Signal.registrable n = .ok s →
        (q.saved s).installed = false := by
  cases e with
  | disable =>
    refine ⟨p.disable, rfl, disable_keeps hp, fun _ s hs => ?_, nofun⟩
    have hentry := entry_disable hp s
    rw [if_pos hs] at hentry
    exact (congrArg (fun entry => entry.saved.installed) hentry).trans
      (Entry.putBack_unmarked _)
  | unregister n =>
    refine ⟨(p.unregister n).2, rfl, Keeps.unregister hp n, nofun, fun m s hm hs => ?_⟩
    obtain rfl := Event.unregister.inj hm
    have hentry := entry_unregister hp hs s
    rw [if_pos rfl] at hentry
    exact (congrArg (fun entry => entry.saved.installed) hentry).trans
      (Entry.putBack_unmarked _)
  | _ => cases he

/-- What has been taken down once stays so, since taking down marks nothing. -/
theorem course_of_takesDown {closing : List Event} (hp : Coherent p)
    (hclosing : ∀ e ∈ closing, e.TakesDown) :
    ∃ q, course p closing = some q ∧ Keeps p q ∧
      (.disable ∈ closing → ∀ s, s.faultName?.isSome → (q.saved s).installed = false) ∧
      ∀ n s, .unregister n ∈ closing → Signal.registrable n = .ok s →
        (q.saved s).installed = false := by
  induction closing with
  | nil => exact ⟨p, rfl, .of_alike hp rfl rfl rfl rfl, nofun, nofun⟩
  | cons e closing ih =>
    obtain ⟨q, hq, hkeep, hfatal, hordinary⟩ :=
      ih fun e he => hclosing e (List.mem_cons_of_mem _ he)
    obtain ⟨r, hr, hlast, hdisable, hunregister⟩ :=
      takeDown hkeep.coherent (hclosing e List.mem_cons_self)
    have hstays : ∀ s, (q.saved s).installed = false → (r.saved s).installed = false := by
      intro s hs
      by_contra hmark
      have := (hlast.marks s (by simpa using hmark)).1
      simp [hs] at this
    refine ⟨r, by simp only [course, hq, Option.bind_some, hr], hkeep.trans hlast, ?_, ?_⟩
    · intro hmem s hs
      obtain rfl | hmem := List.mem_cons.mp hmem
      · exact hdisable rfl s hs
      · exact hstays s (hfatal hmem s hs)
    · intro n s hmem hs
      obtain hnew | hmem := List.mem_cons.mp hmem
      · exact hunregister n s hnew.symm hs
      · exact hstays s (hordinary n s hmem hs)

theorem unmarked_of_takesAllDown {closing : List Event} (hp : Coherent p)
    (hclosing : TakesAllDown closing) :
    ∃ q, course p closing = some q ∧ Keeps p q ∧ ∀ s, (q.saved s).installed = false := by
  obtain ⟨q, hq, hkeep, hfatal, hordinary⟩ := course_of_takesDown hp hclosing.only
  refine ⟨q, hq, hkeep, fun s => ?_⟩
  by_cases hs : s.faultName?.isSome
  · exact hfatal hclosing.disable s hs
  · by_contra hmark
    have hinstalled : (q.entry s).saved.installed := by
      rw [← Bool.not_eq_false]
      exact hmark
    have hchangeable := (hkeep.coherent.entry s).changeable hinstalled
    have hpos : s.val ≠ 0 := by
      intro hzero
      simp [Signal.actionChangeable, Signal.actionReadable, Signal.number, hzero] at hchangeable
    have hlt := s.isLt
    have hmem := hclosing.unregister s.number (by unfold Signal.number; omega)
      (by unfold Signal.number; omega)
    have hn := Signal.registrable_eq_ok.mpr ⟨Signal.ofInt?_number hpos, Bool.eq_false_iff.mpr hs⟩
    exact hmark (hordinary _ s hmem hn)

/-- In any course of events, at any point between two of them: a handler installed here is marked
in the table of its kind; what is saved for a marked signal is no such handler, but the action
that was in force just before the call that marked it; disabling and unregistering put exactly
that back. So if nobody else has changed actions, taking everything down gives the actions of the
start. -/
theorem actions_of_course (hstart : Untouched start) (hq : course start events = some q) :
    (∀ s, (q.actions.get s).disposition = .handled .report →
      (q.faults.saved.get s).installed) ∧
    (∀ s, (q.actions.get s).disposition = .handled .dump →
      (q.userSignal s).saved.installed) ∧
    (∀ s, (q.saved s).installed → (q.saved s).previous.Foreign ∧
      CapturedBy start s events (q.saved s).previous) ∧
    (∀ s, q.disable.entry s =
      if s.faultName?.isSome then (q.entry s).putBack else q.entry s) ∧
    (∀ n s, Signal.registrable n = .ok s →
      (q.unregister n).1 = .ok (q.saved s).installed ∧
        ∀ u, (q.unregister n).2.entry u =
          if s = u then (q.entry u).putBack else q.entry u) ∧
    ((∀ e ∈ events, ¬ e.Installs) → ∀ closing, TakesAllDown closing →
      ∃ r, course start (closing ++ events) = some r ∧ r.actions = start.actions) := by
  have hcoherent := coherent_of_course hstart hq
  refine ⟨fun s haction => ?_, fun s haction => ?_, fun s hmark => ⟨?_, ?_⟩,
    entry_disable hcoherent, fun n s hn => ⟨unregister_eq hn, entry_unregister hcoherent hn⟩,
    fun hnone closing hclosing => ?_⟩
  · obtain ⟨hmark, hfits⟩ := (hcoherent.entry s).own fun hforeign => hforeign.1 haction
    have hmark : (q.saved s).installed := hmark
    have hs : s.faultName?.isSome := by
      by_contra hs
      rw [Action.Fits, if_neg hs] at hfits
      exact absurd (haction.symm.trans hfits) (by decide)
    rwa [saved_of_fault hs] at hmark
  · obtain ⟨hmark, hfits⟩ := (hcoherent.entry s).own fun hforeign => hforeign.2 haction
    have hmark : (q.saved s).installed := hmark
    have hs : s.faultName?.isSome = false := by
      by_contra hs
      rw [Bool.not_eq_false] at hs
      rw [Action.Fits, if_pos hs] at hfits
      exact absurd (haction.symm.trans hfits.1) (by decide)
    rwa [saved_of_ordinary hs] at hmark
  · exact (hcoherent.entry s).foreign hmark
  · exact capturedBy_of_course hstart hq hmark
  · obtain ⟨r, hr, hkeep, hunmarked⟩ := unmarked_of_takesAllDown hcoherent hclosing
    refine ⟨r, ?_, SignalTable.ext_get fun s => ?_⟩
    · rw [course_append, hq]
      exact hr
    · have hnow : (r.entry s).original = r.actions.get s := by
        have hfree : (r.entry s).saved.installed = false := hunmarked s
        rw [Entry.original, hfree]
        rfl
      rw [← hnow, hkeep.original s]
      exact original_of_course hstart hq hnone s

theorem untouched_initial : Untouched Process.initial := by
  refine ⟨fun s => ?_, fun s => ?_, fun s => ?_⟩
  · simp only [Process.initial, SignalTable.get_put, SignalTable.get_constant]
    split
    · decide
    · decide
  · simp [Process.initial, SavedAction.initial]
  · simp [Process.initial, userSignal, SavedAction.initial]

/-- A handler of the observed program is chained to. -/
def chained : List Event :=
  [.deliver none Signal.user1 3,
    .register 10 Sink.standardError ⟨true, true⟩,
    .install Signal.user1 ⟨.handled (.own .counts), ActionFlags.none⟩ (by decide)]

theorem capturedBy_chained : Untouched Process.initial ∧
    ∃ q, course Process.initial chained = some q ∧ (q.saved Signal.user1).installed ∧
      CapturedBy Process.initial Signal.user1 chained (q.saved Signal.user1).previous := by
  refine ⟨untouched_initial, ?_⟩
  have hcourse : (course Process.initial chained).any fun q => (q.saved Signal.user1).installed := by
    decide +kernel
  obtain ⟨q, hq, hmark⟩ := (Option.any_eq_true _ _).mp hcourse
  exact ⟨q, hq, hmark, ((actions_of_course untouched_initial hq).2.2.1 Signal.user1 hmark).2⟩

end Process

end CrashTrace
