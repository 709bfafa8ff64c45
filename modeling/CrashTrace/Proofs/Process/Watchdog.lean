import CrashTrace.Process.Watchdog
import CrashTrace.Proofs.Process.FatalSignal

/-!
# The threads of timers and the one timer that shows

Of all the threads that timers have had, only that of the armed timer can still do anything: a timer
is given up before another one takes its place, and to give it up is to wait for its thread. So from
outside there is one timer or none, and it has ended or not. Arming, cancelling and running out do to
it what they would do to a mere record.

## Main definitions

- `Timers.Alive` — the thread with a number has not finished
- `Timer`, `Timers.Shows` — the timer that shows from outside, if there is one

## Main results

- `Process.giveUp_ofNumber` — a timer that is given up has finished and writes nothing, wherever
  its thread was
- `Process.arm_accepted`, `Process.arm_unsupplied`, `Process.arm_refused`
- `Process.cancel_none`, `Process.cancel_some`
- `Process.expire_idle`, `Process.expire_running`

## Design notes

`Timers.Shows` is a simulation relation: it is stated for the threads, the flags and the channels on
one side and a record on the other, and kept by every operation. Between two operations no thread is
about to look at its flag.
-/

namespace CrashTrace

namespace Timers

variable {t : Timers} {n m : Nat} {thread : TimerThread}

theorem thread?_modify (t : Timers) (n m : Nat) (change : TimerThread → TimerThread) :
    (t.modify n change).thread? m = (t.thread? m).map fun thread =>
      if n = m then change thread else thread :=
  List.getElem?_modify change n t.threads m

theorem thread?_modify_self (h : t.thread? n = some thread)
    (change : TimerThread → TimerThread) :
    (t.modify n change).thread? n = some (change thread) := by
  rw [thread?_modify, h, Option.map_some, if_pos rfl]

theorem thread?_modify_of_ne (h : m ≠ n) (change : TimerThread → TimerThread) :
    (t.modify n change).thread? m = t.thread? m :=
  List.getElem?_modify_ne change t.threads (Ne.symm h)

theorem modify_modify (t : Timers) (n : Nat) (first second : TimerThread → TimerThread) :
    (t.modify n first).modify n second = t.modify n (second ∘ first) := by
  unfold modify
  rw [List.modify_modify_eq]

/-- Only what becomes of the thread that is there matters. -/
theorem modify_congr (h : t.thread? n = some thread) {change change' : TimerThread → TimerThread}
    (hsame : change thread = change' thread) : t.modify n change = t.modify n change' := by
  unfold modify
  congr 1
  refine List.ext_getElem? fun m => ?_
  rw [List.getElem?_modify, List.getElem?_modify]
  by_cases hm : n = m
  · subst hm
    rw [show t.threads[n]? = some thread from h]
    simp [hsame]
  · simp only [hm, if_false]

theorem modify_eq_self (h : t.thread? n = some thread) {change : TimerThread → TimerThread}
    (hsame : change thread = thread) : t.modify n change = t := by
  have hid : t.modify n change = t.modify n id := modify_congr h hsame
  rw [hid]
  unfold modify
  rw [List.modify_id]

/-- The thread with a number has not finished. -/
def Alive (t : Timers) (n : Nat) : Prop :=
  ∃ thread, t.thread? n = some thread ∧ thread.stage ≠ .finished

theorem alive_modify_of_ne (h : m ≠ n) (change : TimerThread → TimerThread) :
    (t.modify n change).Alive m ↔ t.Alive m := by
  unfold Alive
  rw [thread?_modify_of_ne h]

theorem not_alive_modify {change : TimerThread → TimerThread}
    (h : ∀ thread, (change thread).stage = .finished) : ¬ (t.modify n change).Alive n := by
  rintro ⟨thread, hthread, halive⟩
  rw [thread?_modify] at hthread
  obtain ⟨before, -, rfl⟩ := Option.map_eq_some_iff.mp hthread
  rw [if_pos rfl] at halive
  exact halive (h before)

theorem thread?_start (t : Timers) (thread : TimerThread) :
    (t.start thread).thread? t.threads.length = some thread :=
  List.getElem?_concat_length

theorem alive_start (h : m ≠ t.threads.length) : (t.start thread).Alive m ↔ t.Alive m := by
  have hsame : (t.start thread).thread? m = t.thread? m := by
    unfold start thread?
    obtain hlt | hgt := Nat.lt_or_gt_of_ne h
    · exact List.getElem?_append_left hlt
    · rw [List.getElem?_eq_none (Nat.le_of_lt hgt), List.getElem?_eq_none]
      rw [List.length_append, List.length_singleton]
      exact hgt
  unfold Alive
  rw [hsame]

end Timers

/-- A timer as it shows from outside. -/
@[ext]
structure Timer where
  /-- The number of its thread. -/
  number : Nat
  sink : Sink
  header : Text
  settings : TimerSettings
  /-- It has dumped for the last time. -/
  ended : Bool

/-- The timer has dumped, and has ended unless it repeats. -/
def Timer.dumped (timer : Timer) : Timer := { timer with ended := !timer.settings.repeats }

/-- The timer whose thread this is, with a number. -/
def TimerThread.timer (thread : TimerThread) (n : Nat) : Timer :=
  ⟨n, thread.sink, thread.header, thread.settings, thread.stage = .finished⟩

/-- What becomes of a thread whose timer is given up. -/
def TimerThread.stopped (thread : TimerThread) : TimerThread :=
  { thread with cancelled := true, closed := true, stage := .finished }

/-- The thread waits or has finished, and nobody has told it to stop. -/
structure TimerThread.Untouched (thread : TimerThread) : Prop where
  cancelled : thread.cancelled = false
  closed : thread.closed = false
  stage : thread.stage ≠ .due

namespace TimerThread

theorem Untouched.waiting {thread : TimerThread} (h : thread.Untouched)
    (hrunning : thread.stage ≠ .finished) : thread.stage = .waiting := by
  cases hstage : thread.stage with
  | waiting => rfl
  | due => exact absurd hstage h.stage
  | finished => exact absurd hstage hrunning

theorem Untouched.dumped {thread : TimerThread} (h : thread.Untouched) :
    thread.timedOut.dumped.Untouched := by
  refine ⟨h.cancelled, h.closed, ?_⟩
  unfold TimerThread.dumped
  dsimp only
  split
  · exact nofun
  · exact nofun

theorem timer_dumped (thread : TimerThread) (n : Nat) :
    thread.timedOut.dumped.timer n = (thread.timer n).dumped := by
  cases hrepeats : thread.settings.repeats with
  | true => simp [dumped, timedOut, timer, Timer.dumped, hrepeats]
  | false => simp [dumped, timedOut, timer, Timer.dumped, hrepeats]

end TimerThread

namespace Timers

variable {t : Timers} {o : Option Timer}

/-- The timer that shows from outside, if there is one. Only its thread can be alive. -/
inductive Shows (t : Timers) : Option Timer → Prop
  | absent (unarmed : t.watchdog = none) (gone : ∀ m, ¬ t.Alive m) : Shows t none
  | armed (n : Nat) (thread : TimerThread) (armed : t.watchdog = some (.ofNumber n))
      (found : t.thread? n = some thread) (untouched : thread.Untouched)
      (others : ∀ m, m ≠ n → ¬ t.Alive m) : Shows t (some (thread.timer n))

theorem Shows.alive_iff (h : t.Shows o) (n : Nat) :
    t.Alive n ↔ ∃ timer, o = some timer ∧ timer.number = n ∧ timer.ended = false := by
  cases h with
  | absent unarmed gone => exact iff_of_false (gone n) nofun
  | armed m thread armed found untouched others =>
    by_cases hm : n = m
    · subst hm
      constructor
      · rintro ⟨thread', found', halive⟩
        obtain rfl := Option.some.inj (found.symm.trans found')
        exact ⟨_, rfl, rfl, decide_eq_false halive⟩
      · rintro ⟨timer, htimer, -, hrunning⟩
        obtain rfl := Option.some.inj htimer
        exact ⟨thread, found, of_decide_eq_false hrunning⟩
    · refine iff_of_false (others n hm) ?_
      rintro ⟨timer, htimer, hnumber, -⟩
      obtain rfl := Option.some.inj htimer
      exact hm hnumber.symm

/-- The armed timer has dumped. -/
theorem shows_dumped {n : Nat} {thread : TimerThread} (armed : t.watchdog = some (.ofNumber n))
    (found : t.thread? n = some thread) (untouched : thread.Untouched)
    (others : ∀ m, m ≠ n → ¬ t.Alive m) :
    ((t.modify n TimerThread.timedOut).modify n TimerThread.dumped).Shows
      (some (thread.timer n).dumped) := by
  have hfound := thread?_modify_self (thread?_modify_self found TimerThread.timedOut)
    TimerThread.dumped
  rw [← thread.timer_dumped n]
  refine .armed n thread.timedOut.dumped armed hfound untouched.dumped fun m hm => ?_
  rw [alive_modify_of_ne hm, alive_modify_of_ne hm]
  exact others m hm

theorem Shows.unarmed (h : t.Shows none) : t.watchdog = none := by
  cases h with
  | absent unarmed _ => exact unarmed

end Timers

namespace Process

variable {p : Process} {n : Nat} {thread : TimerThread} {o : Option Timer} {timer : Timer}
  {sink : Sink} {settings : TimerSettings}

-- ════════════════════════════════════════════════════════════════════════
-- Giving up a timer
-- ════════════════════════════════════════════════════════════════════════

/-- The process with other threads of timers. -/
def withTimers (p : Process) (timers : Timers) : Process := { p with timers := timers }

theorem changeTimer_eq (p : Process) (n : Nat) (change : TimerThread → TimerThread) :
    p.changeTimer n change = p.withTimers (p.timers.modify n change) := rfl

theorem join_of_finished (h : p.timers.thread? n = some thread) (hstage : thread.stage = .finished)
    (steps : Nat) : join n (steps + 1) p = .returned () p := by
  unfold join
  rw [Run.state_bind, h]
  dsimp only
  rw [if_pos hstage]
  rfl

theorem join_of_unfinished (h : p.timers.thread? n = some thread)
    (hstage : thread.stage ≠ .finished) (steps : Nat) :
    join n (steps + 1) p = (advance n >>= fun _ => join n steps) p := by
  unfold join
  rw [Run.state_bind, h]
  dsimp only
  rw [if_neg hstage]
  cases steps with
  | zero => rfl
  | succ steps => rfl

theorem hangUp_of_closed (h : p.timers.thread? n = some thread) (hstage : thread.stage = .waiting)
    (hclosed : thread.closed) :
    hangUp n p = .returned () (p.changeTimer n TimerThread.returned) := by
  have hsame : (if thread.stage = .waiting && thread.closed then thread.returned else thread) =
      thread.returned := if_pos (by simp [hstage, hclosed])
  unfold hangUp
  rw [Run.change_apply, changeTimer_eq, changeTimer_eq]
  exact congrArg (fun timers => Outcome.returned () (p.withTimers timers))
    (Timers.modify_congr h hsame)

theorem proceed_of_cancelled (h : p.timers.thread? n = some thread) (hstage : thread.stage = .due)
    (hcancelled : thread.cancelled) :
    proceed n p = .returned () (p.changeTimer n TimerThread.returned) := by
  unfold proceed
  rw [Run.state_bind, h]
  dsimp only
  rw [if_pos hstage, if_pos hcancelled]
  rfl

/-- A thread that has been told to stop and whose channel is closed has one step left at most. -/
theorem join_told (h : p.timers.thread? n = some thread) (hcancelled : thread.cancelled)
    (hclosed : thread.closed) (steps : Nat) :
    join n (steps + 2) p = .returned () (p.changeTimer n TimerThread.returned) := by
  by_cases hstage : thread.stage = .finished
  · have hsame : thread.returned = thread := by
      unfold TimerThread.returned
      rw [← hstage]
    rw [join_of_finished h hstage, changeTimer_eq, Timers.modify_eq_self h hsame]
    rfl
  · have hadvance : advance n p = .returned () (p.changeTimer n TimerThread.returned) := by
      unfold advance
      rw [Run.state_bind, h]
      cases hstep : thread.stage with
      | waiting =>
        refine Eq.trans ?_ (hangUp_of_closed h hstep hclosed)
        dsimp only
        rw [hstep, if_pos hclosed]
      | due =>
        refine Eq.trans ?_ (proceed_of_cancelled h hstep hcancelled)
        dsimp only
        rw [hstep]
      | finished => exact absurd hstep hstage
    rw [join_of_unfinished h hstage, Run.bind_of_returned hadvance]
    exact join_of_finished (Timers.thread?_modify_self h TimerThread.returned) rfl steps

/-- A timer that is given up has finished and writes nothing more, wherever its thread was: also if
its time was over just before. -/
theorem giveUp_ofNumber (h : p.timers.thread? n = some thread) :
    giveUp (.ofNumber n) p = .returned () (p.changeTimer n TimerThread.stopped) := by
  let tell : TimerThread → TimerThread := fun thread => { thread with cancelled := true }
  let close : TimerThread → TimerThread := fun thread => { thread with closed := true }
  have htold : ((p.changeTimer n tell).changeTimer n close).timers.thread? n =
      some (close (tell thread)) :=
    Timers.thread?_modify_self (Timers.thread?_modify_self h tell) close
  have hjoin : join n (budget - 2 + 2) ((p.changeTimer n tell).changeTimer n close) =
      .returned () (((p.changeTimer n tell).changeTimer n close).changeTimer n
        TimerThread.returned) :=
    join_told htold rfl rfl _
  unfold giveUp
  rw [Run.change_bind]
  dsimp only [Watchdog.ofNumber]
  rw [Run.change_bind]
  refine hjoin.trans ?_
  simp only [changeTimer_eq, withTimers, Timers.modify_modify]
  rfl

theorem not_alive_stopped {t : Timers} (others : ∀ m, m ≠ n → ¬ t.Alive m) (m : Nat) :
    ¬ (t.modify n TimerThread.stopped).Alive m := by
  by_cases hm : m = n
  · rw [hm]
    exact Timers.not_alive_modify fun _ => rfl
  · rw [Timers.alive_modify_of_ne hm]
    exact others m hm

/-- Where a timer shows, giving it up after it has been taken away leaves none. -/
theorem giveUp_taken (h : p.timers.thread? n = some thread)
    (others : ∀ m, m ≠ n → ¬ p.timers.Alive m) :
    ∃ timers : Timers, timers.Shows none ∧ timers.threads.length = p.timers.threads.length ∧
      giveUp (.ofNumber n) (p.withTimers { p.timers with watchdog := none }) =
        .returned () (p.withTimers timers) := by
  let taken : Timers := { p.timers with watchdog := none }
  have hfound : (p.withTimers taken).timers.thread? n = some thread := h
  refine ⟨taken.modify n TimerThread.stopped, ?_, List.length_modify .., ?_⟩
  · exact .absent rfl (not_alive_stopped (t := taken) others)
  · exact giveUp_ofNumber hfound

theorem replaceTimer_shows (h : p.timers.Shows o) :
    ∃ timers : Timers, timers.Shows none ∧ timers.threads.length = p.timers.threads.length ∧
      replaceTimer p = .returned () (p.withTimers timers) := by
  unfold replaceTimer
  rw [Run.state_bind]
  cases h with
  | absent unarmed gone =>
    rw [unarmed]
    exact ⟨p.timers, .absent unarmed gone, rfl, rfl⟩
  | armed n thread armed found untouched others =>
    rw [armed]
    exact giveUp_taken found others

-- ════════════════════════════════════════════════════════════════════════
-- Arming and cancelling
-- ════════════════════════════════════════════════════════════════════════

/-- The timer that is armed now. -/
def armedTimer (p : Process) (sink : Sink) (settings : TimerSettings) : Timer :=
  ⟨p.timers.threads.length, sink, Report.timeoutHeader settings.timeout, settings, false⟩

theorem arm_accepted (h : p.timers.Shows o) (hsink : p.descriptors.checkSink sink.descriptor = .ok ())
    (settings : TimerSettings) :
    ∃ timers : Timers, timers.Shows (some (p.armedTimer sink settings)) ∧
      timers.threads.length = p.timers.threads.length + 1 ∧
      arm sink settings .available p =
        .returned (.ok ()) ((p.withTimers timers).note (.timerArmed sink.descriptor settings)) := by
  obtain ⟨gone, hgone, hlength, hreplace⟩ := replaceTimer_shows h
  let thread : TimerThread :=
    ⟨sink, Report.timeoutHeader settings.timeout, settings, false, false, .waiting⟩
  let timers : Timers := { gone.start thread with watchdog := some (.ofNumber gone.threads.length) }
  refine ⟨timers, ?_, ?_, ?_⟩
  · have hothers : ∀ m, m ≠ gone.threads.length → ¬ timers.Alive m := by
      intro m hm
      have halive : timers.Alive m ↔ gone.Alive m := Timers.alive_start hm
      rw [halive, hgone.alive_iff]
      exact nofun
    have hshows : timers.Shows (some (thread.timer gone.threads.length)) :=
      .armed gone.threads.length thread rfl (gone.thread?_start thread) ⟨rfl, rfl, nofun⟩ hothers
    rw [hlength] at hshows
    exact hshows
  · show (gone.threads ++ [thread]).length = _
    rw [List.length_append, hlength]
    rfl
  · unfold arm
    rw [Run.state_bind, hsink]
    dsimp only
    rw [Run.bind_of_returned hreplace]
    rfl

/-- The timer that was armed is gone also if the thread of the new one cannot be started. -/
theorem arm_unsupplied (h : p.timers.Shows o)
    (hsink : p.descriptors.checkSink sink.descriptor = .ok ()) (settings : TimerSettings)
    (failure : IoFailure) :
    ∃ timers : Timers, timers.Shows none ∧ timers.threads.length = p.timers.threads.length ∧
      arm sink settings (.refused failure) p =
        .returned (.error (.timerSpawn failure)) (p.withTimers timers) := by
  obtain ⟨gone, hgone, hlength, hreplace⟩ := replaceTimer_shows h
  refine ⟨gone, hgone, hlength, ?_⟩
  unfold arm
  rw [Run.state_bind, hsink]
  dsimp only
  rw [Run.bind_of_returned hreplace]
  rfl

theorem arm_refused {failure : Failure}
    (hsink : p.descriptors.checkSink sink.descriptor = .error failure) (settings : TimerSettings)
    (supply : ThreadSupply) : arm sink settings supply p = .returned (.error failure) p := by
  unfold arm
  rw [Run.state_bind, hsink]
  rfl

theorem cancel_none (h : p.timers.Shows none) : cancel p = .returned () p := by
  unfold cancel
  rw [Run.state_bind, h.unarmed]
  rfl

theorem cancel_some (h : p.timers.Shows (some timer)) :
    ∃ timers : Timers, timers.Shows none ∧ timers.threads.length = p.timers.threads.length ∧
      cancel p = .returned () ((p.withTimers timers).note (.timerCancelled timer.ended)) := by
  cases h with
  | armed n thread armed found untouched others =>
    obtain ⟨gone, hgone, hlength, hgiveUp⟩ := giveUp_taken found others
    have hfired : (!p.timers.isArmed (.ofNumber n)) = (thread.timer n).ended := by
      unfold Timers.isArmed Watchdog.ofNumber
      dsimp only [Option.bind_some]
      rw [found]
      simp [TimerThread.timer]
    refine ⟨gone, hgone, hlength, ?_⟩
    unfold cancel
    rw [Run.state_bind, armed]
    dsimp only
    rw [Run.change_bind, hfired]
    exact Run.bind_of_returned hgiveUp _

-- ════════════════════════════════════════════════════════════════════════
-- The time is over
-- ════════════════════════════════════════════════════════════════════════

theorem timeOut_of_dead (h : ¬ p.timers.Alive n) : timeOut n p = .returned () p := by
  unfold timeOut
  rw [Run.change_apply, changeTimer_eq]
  cases hthread : p.timers.thread? n with
  | none =>
    unfold Timers.modify
    rw [List.modify_eq_self (List.getElem?_eq_none_iff.mp hthread)]
    rfl
  | some thread =>
    have hstage : thread.stage = .finished := by
      by_contra halive
      exact h ⟨thread, hthread, halive⟩
    have hsame : (if thread.stage = .waiting then thread.timedOut else thread) = thread :=
      if_neg (by simp [hstage])
    exact congrArg (fun timers => Outcome.returned () (p.withTimers timers))
      (Timers.modify_eq_self hthread hsame)

theorem proceed_of_not_due (h : ∀ thread, p.timers.thread? n = some thread → thread.stage ≠ .due) :
    proceed n p = .returned () p := by
  unfold proceed
  rw [Run.state_bind]
  cases hthread : p.timers.thread? n with
  | none => rfl
  | some thread =>
    dsimp only
    rw [if_neg (h thread hthread)]
    rfl

/-- The time of a timer that is not there any more, or has ended, is over to no effect. -/
theorem expire_idle (h : p.timers.Shows o)
    (hidle : ∀ timer, o = some timer → timer.number = n → timer.ended) :
    expire n p = .returned () p := by
  have hdead : ¬ p.timers.Alive n := by
    rw [h.alive_iff]
    rintro ⟨timer, ho, hnumber, hrunning⟩
    rw [hidle timer ho hnumber] at hrunning
    cases hrunning
  have hproceed : proceed n p = .returned () p := by
    refine proceed_of_not_due fun thread hthread hdue => hdead ⟨thread, hthread, ?_⟩
    rw [hdue]
    exact nofun
  unfold expire
  rw [Run.bind_of_returned (timeOut_of_dead hdead), hproceed]

theorem timeOut_of_waiting (h : p.timers.thread? n = some thread)
    (hstage : thread.stage = .waiting) :
    timeOut n p = .returned () (p.changeTimer n TimerThread.timedOut) := by
  unfold timeOut
  rw [Run.change_apply, changeTimer_eq, changeTimer_eq]
  exact congrArg (fun timers => Outcome.returned () (p.withTimers timers))
    (Timers.modify_congr h (if_pos hstage))

/-- A thread whose time is over dumps, unless it has been told to stop. -/
theorem proceed_of_due (h : p.timers.thread? n = some thread) (hstage : thread.stage = .due)
    (hcancelled : thread.cancelled = false)
    (hworks : p.descriptors.Works thread.sink.descriptor) :
    let dumped := { p with
      descriptors := p.descriptors.reported (some (thread.sink.descriptor, p.timerText thread)) }
    proceed n p =
      if thread.settings.exits then .ended (.code 1) dumped
      else .returned () (dumped.changeTimer n TimerThread.dumped) := by
  intro dumped
  have hwrite : write (raise none budget) thread.sink.descriptor (p.timerText thread) p =
      .returned (.ok ()) dumped := by
    unfold write
    rw [Run.state_bind, DescriptorTable.offer_reported hworks]
    rfl
  unfold proceed
  rw [Run.state_bind, h]
  dsimp only
  rw [if_pos hstage, if_neg (by simp [hcancelled])]
  refine (Run.bind_of_returned hwrite _).trans ?_
  split
  · rfl
  · rfl

/-- The time of the timer is over: it dumps, and then it ends the process, or waits again, or has
ended. -/
theorem expire_running (h : p.timers.Shows (some timer)) (hrunning : timer.ended = false)
    (hworks : p.descriptors.Works timer.sink.descriptor) :
    let text := timer.header ++ (p.dumpPieces none true).text
    let dumped := { p with
      descriptors := p.descriptors.reported (some (timer.sink.descriptor, text)) }
    ∃ timers : Timers, timers.threads.length = p.timers.threads.length ∧
      if timer.settings.exits then
        expire timer.number p = .ended (.code 1) (dumped.withTimers timers)
      else
        timers.Shows (some timer.dumped) ∧
          expire timer.number p = .returned () (dumped.withTimers timers) := by
  intro text dumped
  cases h with
  | armed n thread armed found untouched others =>
    have hwaiting : thread.stage = .waiting := untouched.waiting (of_decide_eq_false hrunning)
    have hdue := Timers.thread?_modify_self found TimerThread.timedOut
    have hproceed := proceed_of_due (p := p.changeTimer n TimerThread.timedOut) hdue rfl
      untouched.cancelled hworks
    have hexpire : expire n p = proceed n (p.changeTimer n TimerThread.timedOut) :=
      Run.bind_of_returned (timeOut_of_waiting found hwaiting) _
    have hexpire := hexpire.trans hproceed
    show ∃ timers : Timers, timers.threads.length = p.timers.threads.length ∧
      if thread.settings.exits then _ else _
    cases hexits : thread.settings.exits with
    | true =>
      refine ⟨p.timers.modify n TimerThread.timedOut, List.length_modify .., ?_⟩
      rw [if_pos rfl]
      exact hexpire.trans (if_pos hexits)
    | false =>
      refine ⟨(p.timers.modify n TimerThread.timedOut).modify n TimerThread.dumped, ?_, ?_⟩
      · exact (List.length_modify ..).trans (List.length_modify ..)
      · rw [if_neg (by decide)]
        exact ⟨Timers.shows_dumped armed found untouched others,
          hexpire.trans (if_neg (by simp [TimerThread.timedOut, hexits]))⟩

end Process

end CrashTrace
