import CrashTrace.Proofs.Process.Watchdog
import CrashTrace.Proofs.Report.Snapshots

/-!
# The course of timers

Timers are armed, run out, and are cancelled or replaced, while threads come and go. What happened
so far settles which arming is live: the last one that was not refused, unless it was cancelled or
has run out without repeating. Every time a live timer runs out there is one dump, and timers write
nothing else. The thread of an old timer has finished, so that its time is over to no effect.

## Main definitions

- `TimerEvent` — what happens to timers and around them
- `Process.started` — the number of the next thread of a timer
- `Arming.Held`, `Arming.Live` — an arming that is not cancelled or replaced, and one that will dump
- `Process.Accounted` — the dumps of a course of events
- `Process.TimerCourse` — what a course of events comes to

## Main results

- `Process.timer_course`

## Design notes

What is live is told from the events alone. That the timer that shows agrees with it,
`Process.Timed`, is carried from one event to the next; `Timers.Shows` connects it with the threads,
flags and channels. Times are over for threads, by their numbers, be they old or not started yet.
-/

namespace CrashTrace

/-- What happens to timers and around them. -/
inductive TimerEvent where
  | arm (sink : Sink) (settings : TimerSettings) (supply : ThreadSupply)
  | cancel
  /-- The time of the timer whose thread has this number is over. -/
  | expire (number : Nat)
  /-- Threads and the interpreter change in any way. -/
  | elsewhere (registry : Registry) (interpreter : Interpreter)

namespace TimerEvent

def run : TimerEvent → Run Unit
  | .arm sink settings supply => do
    let _ ← Process.arm sink settings supply
    pure ()
  | .cancel => Process.cancel
  | .expire number => Process.expire number
  | .elsewhere registry interpreter =>
    Run.change fun p => { p with registry := registry, interpreter := interpreter }

/-- A timer that was armed before is gone: it is cancelled, or another one is armed whose sink is
not refused. -/
def Replaces (t : DescriptorTable) : TimerEvent → Prop
  | .arm sink _ _ => t.checkSink sink.descriptor = .ok ()
  | .cancel => True
  | .expire _ => False
  | .elsewhere _ _ => False

/-- The thread of a timer is started. -/
def starts (t : DescriptorTable) : TimerEvent → Bool
  | .arm sink _ .available => (t.checkSink sink.descriptor).isOk
  | _ => false

theorem starts_arm (t : DescriptorTable) (sink : Sink) (settings : TimerSettings) :
    (TimerEvent.arm sink settings .available).starts t = (t.checkSink sink.descriptor).isOk := rfl

end TimerEvent

/-- The number of the next thread of a timer after some events. -/
def Process.started (p : Process) (past : List TimerEvent) : Nat :=
  p.timers.threads.length + past.countP (TimerEvent.starts p.descriptors)

/-- A timer that is armed by the event at some place, and the number of its thread. -/
@[ext]
structure Arming where
  place : Nat
  number : Nat
  sink : Sink
  settings : TimerSettings

namespace Arming

def timer (a : Arming) (ended : Bool) : Timer :=
  ⟨a.number, a.sink, Report.timeoutHeader a.settings.timeout, a.settings, ended⟩

/-- The arming was not refused, and nothing has cancelled or replaced it. -/
structure Held (p : Process) (past : List TimerEvent) (a : Arming) : Prop where
  armed : past[a.place]? = some (.arm a.sink a.settings .available)
  accepted : p.descriptors.checkSink a.sink.descriptor = .ok ()
  numbered : a.number = p.started (past.take a.place)
  kept : ∀ e ∈ past.drop (a.place + 1), ¬ e.Replaces p.descriptors

/-- The timer will dump when its time is over: it repeats, or its time was not over yet. -/
structure Live (p : Process) (past : List TimerEvent) (a : Arming) : Prop where
  held : a.Held p past
  unspent : a.settings.repeats ∨ .expire a.number ∉ past.drop (a.place + 1)

/-- What the timer writes: the header that was made for it, and all threads. -/
def text (a : Arming) (r : Registry) : Text :=
  Report.timeoutHeader a.settings.timeout
    ++ Report.rendering none false ((r.threads none).map r.snapshot)

end Arming

/-- A dump of a timer, and the place of the event that set it off. -/
@[ext]
structure TimerDump where
  arming : Arming
  moment : Nat
  text : Text

namespace Arming

variable {p : Process} {past : List TimerEvent} {a b : Arming} {e : TimerEvent}

theorem Held.lt_length (h : a.Held p past) : a.place < past.length :=
  (List.getElem?_eq_some_iff.mp h.armed).1

/-- What is armed and not refused replaces everything before it. -/
theorem Held.not_before (ha : a.Held p past) (hb : b.Held p past) : ¬ a.place < b.place := by
  intro hlt
  have hmem : .arm b.sink b.settings .available ∈ past.drop (a.place + 1) := by
    refine List.mem_of_getElem? (i := b.place - (a.place + 1)) ?_
    rw [List.getElem?_drop, Nat.add_sub_cancel' hlt]
    exact hb.armed
  exact ha.kept _ hmem hb.accepted

theorem Held.unique (ha : a.Held p past) (hb : b.Held p past) : a = b := by
  have hplace : a.place = b.place :=
    Nat.le_antisymm (Nat.not_lt.mp (hb.not_before ha)) (Nat.not_lt.mp (ha.not_before hb))
  have hnumber : a.number = b.number := by
    rw [ha.numbered, hb.numbered, hplace]
  have harmed := hb.armed
  rw [← hplace, ha.armed] at harmed
  obtain ⟨hsink, hsettings, -⟩ := TimerEvent.arm.inj (Option.some.inj harmed)
  exact Arming.ext hplace hnumber hsink hsettings

theorem held_append (hlt : a.place < past.length) :
    a.Held p (past ++ [e]) ↔ a.Held p past ∧ ¬ e.Replaces p.descriptors := by
  have hdrop : (past ++ [e]).drop (a.place + 1) = past.drop (a.place + 1) ++ [e] :=
    List.drop_append_of_le_length hlt
  have htake : (past ++ [e]).take a.place = past.take a.place :=
    List.take_append_of_le_length (Nat.le_of_lt hlt)
  constructor
  · intro h
    have harmed := h.armed
    have hnumbered := h.numbered
    have hkept := h.kept
    rw [List.getElem?_append_left hlt] at harmed
    rw [htake] at hnumbered
    rw [hdrop] at hkept
    exact ⟨⟨harmed, h.accepted, hnumbered, fun x hx => hkept x (List.mem_append_left _ hx)⟩,
      hkept e (List.mem_append_right _ (List.mem_singleton_self e))⟩
  · rintro ⟨h, he⟩
    refine ⟨?_, h.accepted, ?_, ?_⟩
    · rw [List.getElem?_append_left hlt]
      exact h.armed
    · rw [htake]
      exact h.numbered
    · rw [hdrop]
      intro x hx
      obtain hx | hx := List.mem_append.mp hx
      · exact h.kept x hx
      · rw [List.mem_singleton.mp hx]
        exact he

theorem live_append (hlt : a.place < past.length) :
    a.Live p (past ++ [e]) ↔ a.Live p past ∧ ¬ e.Replaces p.descriptors ∧
      (a.settings.repeats ∨ e ≠ .expire a.number) := by
  have hdrop : (past ++ [e]).drop (a.place + 1) = past.drop (a.place + 1) ++ [e] :=
    List.drop_append_of_le_length hlt
  have hmem : TimerEvent.expire a.number ∉ (past ++ [e]).drop (a.place + 1) ↔
      .expire a.number ∉ past.drop (a.place + 1) ∧ e ≠ .expire a.number := by
    rw [hdrop, List.mem_append, List.mem_singleton, not_or, eq_comm]
  constructor
  · rintro ⟨hheld, hunspent⟩
    obtain ⟨hheld, he⟩ := (held_append hlt).mp hheld
    rw [hmem] at hunspent
    exact ⟨⟨hheld, hunspent.imp id And.left⟩, he, hunspent.imp id And.right⟩
  · rintro ⟨⟨hheld, hunspent⟩, he, hnow⟩
    refine ⟨(held_append hlt).mpr ⟨hheld, he⟩, ?_⟩
    rw [hmem]
    tauto

/-- An arming is held on, or it is the newest event. -/
theorem Held.of_append (h : a.Held p (past ++ [e])) :
    a.Held p past ∧ ¬ e.Replaces p.descriptors ∨
      a.place = past.length ∧ e = .arm a.sink a.settings .available := by
  have hlt := h.lt_length
  rw [List.length_append, List.length_singleton] at hlt
  obtain hlt | hlast := Nat.lt_or_eq_of_le (Nat.le_of_lt_succ hlt)
  · exact .inl ((held_append hlt).mp h)
  · have harmed := h.armed
    rw [hlast, List.getElem?_concat_length] at harmed
    exact .inr ⟨hlast, Option.some.inj harmed⟩

theorem Held.before (h : a.Held p (past ++ [e])) (he : ¬ e.Replaces p.descriptors) :
    a.Held p past := by
  obtain ⟨hpast, -⟩ | ⟨-, rfl⟩ := h.of_append
  · exact hpast
  · exact absurd h.accepted he

/-- A timer is gone, and no other one has been started in its place. -/
theorem not_held_of_replaces (hreplaces : e.Replaces p.descriptors)
    (hnew : ∀ sink settings, e ≠ .arm sink settings .available) : ¬ a.Held p (past ++ [e]) := by
  intro h
  obtain ⟨-, hkept⟩ | ⟨-, harm⟩ := h.of_append
  · exact hkept hreplaces
  · exact hnew _ _ harm

theorem live_new {sink : Sink} {settings : TimerSettings}
    (h : p.descriptors.checkSink sink.descriptor = .ok ()) :
    Live p (past ++ [.arm sink settings .available])
      ⟨past.length, p.started past, sink, settings⟩ := by
  have hdrop : (past ++ [TimerEvent.arm sink settings .available]).drop (past.length + 1) = [] :=
    List.drop_eq_nil_of_le (by simp)
  refine ⟨⟨List.getElem?_concat_length, h, ?_, ?_⟩, .inr ?_⟩
  · rw [List.take_append_of_le_length (Nat.le_refl _), List.take_length]
  · rw [hdrop]
    exact nofun
  · rw [hdrop]
    exact List.not_mem_nil

end Arming

namespace Process

variable {p q : Process} {past : List TimerEvent} {dumps : List TimerDump} {a : Arming}
  {e : TimerEvent}

/-- Events one after the other. -/
def elapse : List TimerEvent → Run Unit
  | [] => pure ()
  | e :: rest => e.run >>= fun _ => elapse rest

/-- The descriptors after each dump has been written to the sink of its timer. -/
def written (t : DescriptorTable) (dumps : List TimerDump) : DescriptorTable :=
  dumps.foldl (fun t d => t.reported (some (d.arming.sink.descriptor, d.text))) t

/-- What a descriptor receives of some dumps. -/
def dumpsTo (fd : Int) (dumps : List TimerDump) : String :=
  String.ofList (dumps.flatMap fun d => if d.arming.sink.descriptor = fd then d.text else [])

/-- The dumps of a course of events, in order: one for each time that a live timer runs out, with
the threads of that moment, and no others. -/
structure Accounted (p : Process) (past : List TimerEvent) (dumps : List TimerDump) : Prop where
  ordered : dumps.Pairwise fun d e => d.moment < e.moment
  mem_iff : ∀ d, d ∈ dumps ↔
    past[d.moment]? = some (.expire d.arming.number) ∧ d.arming.Live p (past.take d.moment) ∧
      ∃ q, elapse (past.take d.moment) p = .returned () q ∧ d.text = d.arming.text q.registry
  returns : ∀ i < past.length, ∃ q, elapse (past.take i) p = .returned () q

/-- The timer that shows after some events. -/
inductive Timed (p : Process) (past : List TimerEvent) : Option Timer → Prop
  | absent (unheld : ∀ a : Arming, ¬ a.Held p past) : Timed p past none
  | armed (a : Arming) (ended : Bool) (held : a.Held p past)
      (live : ended = false ↔ a.Live p past) : Timed p past (some (a.timer ended))

/-- What holds between two events. -/
structure Between (p : Process) (past : List TimerEvent) (q : Process) : Prop where
  timer : ∃ o, q.timers.Shows o ∧ Timed p past o
  threads : q.timers.threads.length = p.started past
  kinds : q.descriptors.kinds = p.descriptors.kinds

-- ════════════════════════════════════════════════════════════════════════
-- One event
-- ════════════════════════════════════════════════════════════════════════

/-- A timer marks no thread as the current one, so nothing tells of collecting garbage. -/
theorem text_dumpPieces_none (p : Process) :
    (p.dumpPieces none true).text =
      Report.rendering none false ((p.registry.threads none).map p.registry.snapshot) := by
  have hall : (Report.allThreads p.registry none p.interpreter.collecting).text = _ :=
    Report.text_threadsFrom_zero p.registry none p.interpreter.collecting
      (List.finRange Registry.capacity)
  have hblock : Report.block none p.interpreter.collecting = Report.block none false := by
    funext s
    simp [Report.block]
  unfold dumpPieces Report.dump
  rw [if_pos rfl, hall, Report.rendering, hblock]
  rfl

theorem started_append (p : Process) (past : List TimerEvent) (e : TimerEvent) :
    p.started (past ++ [e]) = p.started past + if e.starts p.descriptors then 1 else 0 := by
  unfold started
  rw [List.countP_append, List.countP_singleton, Nat.add_assoc]

/-- An event that replaces no timer and is not the end of the time of the one that is armed. -/
theorem Timed.keep {o : Option Timer} (h : Timed p past o)
    (hreplaces : ¬ e.Replaces p.descriptors)
    (hexpire : ∀ a : Arming, a.Live p past → e ≠ .expire a.number) : Timed p (past ++ [e]) o := by
  cases h with
  | absent unheld => exact .absent fun a ha => unheld a (ha.before hreplaces)
  | armed a ended held live =>
    refine .armed a ended ((Arming.held_append held.lt_length).mpr ⟨held, hreplaces⟩) ?_
    rw [Arming.live_append held.lt_length, live]
    exact ⟨fun ha => ⟨ha, hreplaces, .inr (hexpire a ha)⟩, And.left⟩

/-- Only the thread of a live timer is alive. -/
theorem Between.alive_iff (h : Between p past q) (n : Nat) :
    q.timers.Alive n ↔ ∃ a : Arming, a.Live p past ∧ a.number = n := by
  obtain ⟨o, hshows, htimed⟩ := h.timer
  rw [hshows.alive_iff]
  cases htimed with
  | absent unheld =>
    refine iff_of_false nofun ?_
    rintro ⟨a, ha, -⟩
    exact unheld a ha.held
  | armed a ended held live =>
    constructor
    · rintro ⟨timer, htimer, hnumber, hrunning⟩
      obtain rfl := Option.some.inj htimer
      exact ⟨a, live.mp hrunning, hnumber⟩
    · rintro ⟨b, hb, hnumber⟩
      obtain rfl := hb.held.unique held
      exact ⟨_, rfl, hnumber, live.mpr hb⟩

/-- Arming a timer whose sink is not refused, and whose thread may fail to start. -/
theorem Between.arm (h : Between p past q) {sink : Sink}
    (hsink : p.descriptors.checkSink sink.descriptor = .ok ()) (settings : TimerSettings)
    (supply : ThreadSupply) :
    ∃ result q', Process.arm sink settings supply q = .returned result q' ∧
      q'.descriptors = q.descriptors ∧ Between p (past ++ [.arm sink settings supply]) q' ∧
      (result = .ok () ∧ supply = .available ∨
        ∃ failure, result = .error (.timerSpawn failure) ∧ supply = .refused failure) := by
  obtain ⟨o, hshows, -⟩ := h.timer
  have hcheck : q.descriptors.checkSink sink.descriptor = .ok () :=
    (DescriptorTable.checkSink_congr h.kinds _).trans hsink
  have hstarted := started_append p past (.arm sink settings supply)
  cases supply with
  | available =>
    obtain ⟨timers, htimers, hlength, harm⟩ := arm_accepted hshows hcheck settings
    have hlive : Arming.Live p (past ++ [.arm sink settings .available])
        ⟨past.length, p.started past, sink, settings⟩ := Arming.live_new hsink
    have htimed : Timed p (past ++ [.arm sink settings .available])
        (some (q.armedTimer sink settings)) := by
      have harmed := Timed.armed _ false hlive.held (by simp [hlive])
      unfold Arming.timer at harmed
      dsimp only at harmed
      rw [← h.threads] at harmed
      exact harmed
    have hstarts : (TimerEvent.arm sink settings .available).starts p.descriptors := by
      rw [TimerEvent.starts_arm, hsink]
      rfl
    rw [if_pos hstarts] at hstarted
    refine ⟨_, _, harm, rfl, ⟨⟨_, htimers, htimed⟩, ?_, h.kinds⟩, .inl ⟨rfl, rfl⟩⟩
    rw [hstarted, ← h.threads]
    exact hlength
  | refused failure =>
    obtain ⟨timers, htimers, hlength, harm⟩ := arm_unsupplied hshows hcheck settings failure
    have htimed : Timed p (past ++ [.arm sink settings (.refused failure)]) none :=
      .absent fun a => Arming.not_held_of_replaces hsink nofun
    refine ⟨_, _, harm, rfl, ⟨⟨_, htimers, htimed⟩, ?_, h.kinds⟩, .inr ⟨failure, rfl, rfl⟩⟩
    rw [hstarted, ← h.threads]
    exact hlength

/-- What cancelling comes to: nothing is left of the timer, and the log is told whether it had
already ended. Without a timer nothing happens. -/
structure Cancels (p : Process) (past : List TimerEvent) (q : Process) : Prop where
  held : ∀ a : Arming, a.Held p past → ∃ fired timers, timers.Shows none ∧
    cancel q = .returned () ((q.withTimers timers).note (.timerCancelled fired)) ∧
      (fired = true ↔ ¬ a.Live p past)
  unheld : (∀ a : Arming, ¬ a.Held p past) → cancel q = .returned () q

theorem Between.cancels (h : Between p past q) : Cancels p past q := by
  obtain ⟨o, hshows, htimed⟩ := h.timer
  cases htimed with
  | absent unheld => exact ⟨fun a ha => absurd ha (unheld a), fun _ => cancel_none hshows⟩
  | armed a ended held live =>
    obtain ⟨timers, htimers, -, hcancel⟩ := cancel_some hshows
    refine ⟨fun b hb => ⟨ended, timers, htimers, hcancel, ?_⟩, fun unheld => absurd held (unheld a)⟩
    rw [hb.unique held, ← live, Bool.not_eq_false]

/-- An event other than the end of a time writes nothing. -/
theorem Between.run (h : Between p past q) (he : ∀ n, e ≠ .expire n) :
    ∃ q', e.run q = .returned () q' ∧ Between p (past ++ [e]) q' ∧
      q'.descriptors = q.descriptors := by
  have hstarted := started_append p past e
  obtain ⟨o, hshows, htimed⟩ := h.timer
  cases e with
  | arm sink settings supply =>
    cases hsink : p.descriptors.checkSink sink.descriptor with
    | error failure =>
      have hcheck : q.descriptors.checkSink sink.descriptor = .error failure :=
        (DescriptorTable.checkSink_congr h.kinds _).trans hsink
      have hkept : ¬ (TimerEvent.arm sink settings supply).Replaces p.descriptors := by
        intro htaken
        rw [TimerEvent.Replaces, hsink] at htaken
        cases htaken
      have hstarts : (TimerEvent.arm sink settings supply).starts p.descriptors = false := by
        cases supply with
        | available =>
          rw [TimerEvent.starts_arm, hsink]
          rfl
        | refused _ => rfl
      rw [if_neg (by simp [hstarts])] at hstarted
      refine ⟨q, Run.bind_of_returned (arm_refused hcheck settings supply) _, ?_, rfl⟩
      exact ⟨⟨o, hshows, htimed.keep hkept fun a _ => he a.number⟩, h.threads.trans hstarted.symm,
        h.kinds⟩
    | ok _ =>
      obtain ⟨result, q', harm, hdescriptors, hbetween, -⟩ := h.arm hsink settings supply
      exact ⟨q', Run.bind_of_returned harm _, hbetween, hdescriptors⟩
  | cancel =>
    have hnone : Timed p (past ++ [.cancel]) none :=
      .absent fun a => Arming.not_held_of_replaces trivial nofun
    cases htimed with
    | absent unheld =>
      exact ⟨q, cancel_none hshows, ⟨⟨none, hshows, hnone⟩, h.threads.trans hstarted.symm, h.kinds⟩,
        rfl⟩
    | armed a ended held live =>
      obtain ⟨timers, htimers, hlength, hcancel⟩ := cancel_some hshows
      exact ⟨_, hcancel, ⟨⟨none, htimers, hnone⟩,
        hlength.trans (h.threads.trans hstarted.symm), h.kinds⟩, rfl⟩
  | expire n => exact absurd rfl (he n)
  | elsewhere registry interpreter =>
    exact ⟨_, rfl, ⟨⟨o, hshows, htimed.keep id fun a _ => he a.number⟩,
      h.threads.trans hstarted.symm, h.kinds⟩, rfl⟩

/-- The time of some timer is over: nothing happens unless it is the live one, and otherwise there
is one dump. -/
theorem Between.expire (h : Between p past q)
    (hworks : ∀ a : Arming, a.Held p past → p.descriptors.Works a.sink.descriptor) (n : Nat) :
    ((∀ a : Arming, a.Live p past → a.number ≠ n) ∧ expire n q = .returned () q ∧
        Between p (past ++ [.expire n]) q) ∨
      ∃ (a : Arming) (q' : Process), a.Live p past ∧ a.number = n ∧
        q'.descriptors =
          q.descriptors.reported (some (a.sink.descriptor, a.text q.registry)) ∧
        (a.settings.exits ∧ expire n q = .ended (.code 1) q' ∨
          a.settings.exits = false ∧ expire n q = .returned () q' ∧
            Between p (past ++ [.expire n]) q') := by
  have hstarted : q.timers.threads.length = p.started (past ++ [.expire n]) :=
    h.threads.trans (started_append p past (.expire n)).symm
  by_cases hlive : ∃ a : Arming, a.Live p past ∧ a.number = n
  · obtain ⟨a, ha, rfl⟩ := hlive
    obtain ⟨o, hshows, htimed⟩ := h.timer
    cases htimed with
    | absent unheld => exact absurd ha.held (unheld a)
    | armed b ended held live =>
      obtain rfl := ha.held.unique held
      obtain rfl := live.mpr ha
      obtain ⟨timers, hlength, hexpire⟩ :=
        expire_running hshows rfl ((hworks a held).congr h.kinds)
      have htext : Report.timeoutHeader a.settings.timeout ++ (q.dumpPieces none true).text =
          a.text q.registry := by
        rw [text_dumpPieces_none]
        rfl
      let q' : Process := { q with
        timers := timers
        descriptors := q.descriptors.reported (some (a.sink.descriptor,
          Report.timeoutHeader a.settings.timeout ++ (q.dumpPieces none true).text)) }
      have hexpire : if a.settings.exits then Process.expire a.number q = .ended (.code 1) q'
          else timers.Shows (some (a.timer false).dumped) ∧
            Process.expire a.number q = .returned () q' := hexpire
      refine .inr ⟨a, q', ha, rfl, by rw [← htext], ?_⟩
      cases hexits : a.settings.exits with
      | true =>
        rw [if_pos hexits] at hexpire
        exact .inl ⟨rfl, hexpire⟩
      | false =>
        rw [if_neg (by simp [hexits])] at hexpire
        obtain ⟨htimers, hexpire⟩ := hexpire
        have hheld : a.Held p (past ++ [.expire a.number]) :=
          (Arming.held_append held.lt_length).mpr ⟨held, id⟩
        have htimed : Timed p (past ++ [.expire a.number]) (some (a.timer false).dumped) := by
          refine .armed a (!a.settings.repeats) hheld ?_
          rw [Arming.live_append held.lt_length]
          simp [TimerEvent.Replaces, ha]
        refine .inr ⟨rfl, hexpire, ⟨_, htimers, htimed⟩, hlength.trans hstarted, ?_⟩
        exact (DescriptorTable.kinds_reported _ _ _).trans h.kinds
  · have hdead : ∀ a : Arming, a.Live p past → a.number ≠ n := fun a ha hn => hlive ⟨a, ha, hn⟩
    obtain ⟨o, hshows, htimed⟩ := h.timer
    have hnext := htimed.keep (e := .expire n) id fun a ha hn =>
      hdead a ha (TimerEvent.expire.inj hn).symm
    refine .inl ⟨hdead, expire_idle hshows ?_, ⟨o, hshows, hnext⟩, hstarted, h.kinds⟩
    intro timer ho hnumber
    cases htimed with
    | absent unheld => cases ho
    | armed a ended held live =>
      obtain rfl := Option.some.inj ho
      by_contra hrunning
      exact hdead a (live.mp (Bool.not_eq_true _ ▸ hrunning)) hnumber

-- ════════════════════════════════════════════════════════════════════════
-- The account of the dumps
-- ════════════════════════════════════════════════════════════════════════

theorem elapse_append (rest : List TimerEvent) (h : elapse past p = .returned () q) :
    elapse (past ++ rest) p = elapse rest q := by
  induction past generalizing p with
  | nil =>
    obtain ⟨-, rfl⟩ := Outcome.returned.inj h
    rfl
  | cons e past ih =>
    obtain ⟨v, r, he, hpast⟩ := Run.bind_returned.mp h
    have hrun : elapse (e :: past ++ rest) p = elapse (past ++ rest) r := Run.bind_of_returned he _
    rw [hrun, ih hpast]

theorem written_append (t : DescriptorTable) (dumps : List TimerDump) (d : TimerDump) :
    written t (dumps ++ [d]) =
      (written t dumps).reported (some (d.arming.sink.descriptor, d.text)) := by
  unfold written
  rw [List.foldl_append]
  rfl

theorem textOf_written (hworks : ∀ d ∈ dumps, t.Works d.arming.sink.descriptor) (fd : Int) :
    (written t dumps).textOf fd = t.textOf fd ++ dumpsTo fd dumps := by
  unfold dumpsTo
  induction dumps generalizing t with
  | nil => exact (String.append_empty).symm
  | cons d dumps ih =>
    obtain ⟨hd, hrest⟩ := List.forall_mem_cons.mp hworks
    have hkinds := t.kinds_reported d.arming.sink.descriptor d.text
    have hfirst : (t.reported (some (d.arming.sink.descriptor, d.text))).textOf fd =
        t.textOf fd ++ String.ofList (if d.arming.sink.descriptor = fd then d.text else []) := by
      split
      · next hfd =>
        rw [← hfd]
        exact DescriptorTable.textOf_reported hd d.text
      · next hfd =>
        rw [DescriptorTable.textOf_reported_of_ne hd hfd]
        exact (String.append_empty).symm
    have hlater := ih fun e he => (hrest e he).congr hkinds
    rw [List.flatMap_cons, String.ofList_append, ← String.append_assoc, ← hfirst, ← hlater]
    rfl

namespace Accounted

theorem nil (p : Process) : Accounted p [] [] := by
  refine ⟨.nil, fun d => ?_, fun i hi => absurd hi (Nat.not_lt_zero i)⟩
  simp

theorem lt_length (h : Accounted p past dumps) {d : TimerDump} (hd : d ∈ dumps) :
    d.moment < past.length :=
  (List.getElem?_eq_some_iff.mp ((h.mem_iff d).mp hd).1).1

section Append

variable (h : Accounted p past dumps) (hpast : elapse past p = .returned () q)

include h hpast

theorem returns_append : ∀ i < (past ++ [e]).length,
    ∃ q, elapse ((past ++ [e]).take i) p = .returned () q := by
  intro i hi
  rw [List.length_append, List.length_singleton] at hi
  rw [List.take_append_of_le_length (Nat.le_of_lt_succ hi)]
  obtain hlt | rfl := Nat.lt_or_eq_of_le (Nat.le_of_lt_succ hi)
  · exact h.returns i hlt
  · rw [List.take_length]
    exact ⟨q, hpast⟩

/-- What belongs to the account after one more event: the dumps so far, and the one that the event
sets off. -/
theorem mem_append (d : TimerDump) :
    ((past ++ [e])[d.moment]? = some (.expire d.arming.number) ∧
        d.arming.Live p ((past ++ [e]).take d.moment) ∧
        ∃ q, elapse ((past ++ [e]).take d.moment) p = .returned () q ∧
          d.text = d.arming.text q.registry) ↔
      d ∈ dumps ∨ d.moment = past.length ∧ e = .expire d.arming.number ∧ d.arming.Live p past ∧
        d.text = d.arming.text q.registry := by
  obtain hlt | heq | hgt := Nat.lt_trichotomy d.moment past.length
  · rw [List.getElem?_append_left hlt, List.take_append_of_le_length (Nat.le_of_lt hlt),
      ← h.mem_iff d]
    simp [Nat.ne_of_lt hlt]
  · have hnot : d ∉ dumps := fun hd => Nat.ne_of_lt (h.lt_length hd) heq
    rw [heq, List.getElem?_concat_length, List.take_append_of_le_length (Nat.le_refl _),
      List.take_length, hpast]
    simp [hnot]
  · have hnot : d ∉ dumps := fun hd => Nat.lt_asymm hgt (h.lt_length hd)
    rw [List.getElem?_eq_none (by rw [List.length_append, List.length_singleton]; exact hgt)]
    simp [hnot, Nat.ne_of_gt hgt]

theorem append_silent (he : ∀ a : Arming, a.Live p past → e ≠ .expire a.number) :
    Accounted p (past ++ [e]) dumps := by
  refine ⟨h.ordered, fun d => ?_, h.returns_append hpast⟩
  rw [h.mem_append hpast]
  constructor
  · exact .inl
  · rintro (hd | ⟨-, hexpire, hlive, -⟩)
    · exact hd
    · exact absurd hexpire (he _ hlive)

theorem append_dump (ha : a.Live p past) :
    Accounted p (past ++ [.expire a.number])
      (dumps ++ [⟨a, past.length, a.text q.registry⟩]) := by
  refine ⟨?_, fun d => ?_, h.returns_append hpast⟩
  · refine List.pairwise_append.mpr ⟨h.ordered, List.pairwise_singleton _ _, fun d hd e he => ?_⟩
    rw [List.mem_singleton.mp he]
    exact h.lt_length hd
  · rw [h.mem_append hpast, List.mem_append, List.mem_singleton]
    refine or_congr_right ⟨?_, ?_⟩
    · rintro rfl
      exact ⟨rfl, rfl, ha, rfl⟩
    · rintro ⟨hmoment, -, hlive, htext⟩
      have harming := hlive.held.unique ha.held
      exact TimerDump.ext harming hmoment (harming ▸ htext)

end Append

/-- A later dump of the same timer is one of a repeating timer. -/
theorem repeats_of_lt (h : Accounted p past dumps) {d e : TimerDump} (hd : d ∈ dumps)
    (he : e ∈ dumps) (hsame : d.arming = e.arming) (hlt : d.moment < e.moment) :
    d.arming.settings.repeats := by
  obtain ⟨hexpire, hlive, -⟩ := (h.mem_iff d).mp hd
  obtain ⟨-, hlater, -⟩ := (h.mem_iff e).mp he
  have hplace : d.arming.place < d.moment :=
    Nat.lt_of_lt_of_le hlive.held.lt_length (List.length_take_le _ _)
  rw [hsame]
  refine hlater.unspent.resolve_right fun hnever => hnever ?_
  rw [← hsame]
  refine List.mem_of_getElem? (i := d.moment - (d.arming.place + 1)) ?_
  rw [List.getElem?_drop, Nat.add_sub_cancel' hplace, List.getElem?_take_of_lt hlt]
  exact hexpire

/-- A timer that does not repeat dumps at most once. -/
theorem once (h : Accounted p past dumps) {d e : TimerDump} (hd : d ∈ dumps) (he : e ∈ dumps)
    (hsame : d.arming = e.arming) (honce : d.arming.settings.repeats = false) : d = e := by
  have hmoment : d.moment = e.moment := by
    obtain hlt | heq | hgt := Nat.lt_trichotomy d.moment e.moment
    · exact absurd (honce.symm.trans (h.repeats_of_lt hd he hsame hlt)) (by decide)
    · exact heq
    · have hrepeats := h.repeats_of_lt he hd hsame.symm hgt
      rw [← hsame, honce] at hrepeats
      cases hrepeats
  obtain ⟨-, -, q, hq, htext⟩ := (h.mem_iff d).mp hd
  obtain ⟨-, -, r, hr, htext'⟩ := (h.mem_iff e).mp he
  rw [← hmoment, hq] at hr
  obtain ⟨-, rfl⟩ := Outcome.returned.inj hr
  refine TimerDump.ext hsame hmoment ?_
  rw [htext, htext', hsame]

/-- A repeating timer dumps every time until it is cancelled or replaced. -/
theorem each (h : Accounted p past dumps)
    (harmed : past[a.place]? = some (.arm a.sink a.settings .available))
    (haccepted : p.descriptors.checkSink a.sink.descriptor = .ok ())
    (hnumbered : a.number = p.started (past.take a.place)) (hrepeats : a.settings.repeats) {i : Nat}
    (hi : a.place < i) (hexpire : past[i]? = some (.expire a.number))
    (hkept : ∀ e ∈ (past.take i).drop (a.place + 1), ¬ e.Replaces p.descriptors) :
    ∃ d ∈ dumps, d.arming = a ∧ d.moment = i := by
  obtain ⟨q, hq⟩ := h.returns i (List.getElem?_eq_some_iff.mp hexpire).1
  have hheld : a.Held p (past.take i) := by
    refine ⟨?_, haccepted, ?_, hkept⟩
    · rw [List.getElem?_take_of_lt hi]
      exact harmed
    · rw [List.take_take, Nat.min_eq_left (Nat.le_of_lt hi)]
      exact hnumbered
  exact ⟨⟨a, i, a.text q.registry⟩,
    (h.mem_iff _).mpr ⟨hexpire, ⟨hheld, .inl hrepeats⟩, q, hq, rfl⟩, rfl, rfl⟩

end Accounted

-- ════════════════════════════════════════════════════════════════════════
-- Courses of events
-- ════════════════════════════════════════════════════════════════════════

/-- What the account tells of single timers. One that does not repeat dumps at most once, a
repeating one every time until it is cancelled or replaced, and none after that. -/
structure Lifetimes (p : Process) (past : List TimerEvent) (dumps : List TimerDump) : Prop
    extends Accounted p past dumps where
  once : ∀ d ∈ dumps, ∀ e ∈ dumps, d.arming = e.arming → d.arming.settings.repeats = false → d = e
  each : ∀ a : Arming, past[a.place]? = some (.arm a.sink a.settings .available) →
    p.descriptors.checkSink a.sink.descriptor = .ok () →
    a.number = p.started (past.take a.place) → a.settings.repeats →
    ∀ i, a.place < i → past[i]? = some (.expire a.number) →
      (∀ e ∈ (past.take i).drop (a.place + 1), ¬ e.Replaces p.descriptors) →
        ∃ d ∈ dumps, d.arming = a ∧ d.moment = i
  gone : ∀ d ∈ dumps, ∀ e ∈ (past.take d.moment).drop (d.arming.place + 1),
    ¬ e.Replaces p.descriptors

theorem Accounted.lifetimes (h : Accounted p past dumps) : Lifetimes p past dumps where
  toAccounted := h
  once _ hd _ he := h.once hd he
  each _ harmed haccepted hnumbered hrepeats _ := h.each harmed haccepted hnumbered hrepeats
  gone d hd := ((h.mem_iff d).mp hd).2.1.held.kept

/-- What arming comes to. A sink that is refused changes nothing. Otherwise the thread of the new
timer is started, or no timer is left if that fails. -/
structure Arms (p : Process) (q : Process) : Prop where
  refused : ∀ sink settings supply failure,
    p.descriptors.checkSink sink.descriptor = .error failure →
      arm sink settings supply q = .returned (.error failure) q
  armed : ∀ sink settings, p.descriptors.checkSink sink.descriptor = .ok () →
    ∃ timers, timers.Shows (some (q.armedTimer sink settings)) ∧
      arm sink settings .available q =
        .returned (.ok ()) ((q.withTimers timers).note (.timerArmed sink.descriptor settings))
  unsupplied : ∀ sink settings failure, p.descriptors.checkSink sink.descriptor = .ok () →
    ∃ timers, timers.Shows none ∧ arm sink settings (.refused failure) q =
      .returned (.error (.timerSpawn failure)) (q.withTimers timers)

theorem Between.arms (h : Between p past q) : Arms p q := by
  obtain ⟨o, hshows, -⟩ := h.timer
  have hcheck := DescriptorTable.checkSink_congr h.kinds
  refine ⟨fun sink settings supply failure hsink => ?_, fun sink settings hsink => ?_,
    fun sink settings failure hsink => ?_⟩
  · exact arm_refused ((hcheck _).trans hsink) settings supply
  · obtain ⟨timers, htimers, -, harm⟩ := arm_accepted hshows ((hcheck _).trans hsink) settings
    exact ⟨timers, htimers, harm⟩
  · obtain ⟨timers, htimers, -, harm⟩ :=
      arm_unsupplied hshows ((hcheck _).trans hsink) settings failure
    exact ⟨timers, htimers, harm⟩

/-- What a course of events comes to. All dumps are accounted for, and nothing else is written. At
most one thread of a timer is alive, that of the live timer. The process goes on, or the first dump
of a timer that exits ends it. -/
inductive TimerCourse (p : Process) (events : List TimerEvent) : Prop
  | goes (q : Process) (dumps : List TimerDump) (returned : elapse events p = .returned () q)
      (account : Lifetimes p events dumps)
      (descriptors : q.descriptors = written p.descriptors dumps)
      (received : ∀ fd, q.descriptors.textOf fd = p.descriptors.textOf fd ++ dumpsTo fd dumps)
      (stays : ∀ d ∈ dumps, d.arming.settings.exits = false)
      (alive : ∀ n, q.timers.Alive n ↔ ∃ a : Arming, a.Live p events ∧ a.number = n)
      (single : ∀ n m, q.timers.Alive n → q.timers.Alive m → n = m)
      (cancels : Cancels p events q)
      (arms : Arms p q)
  | ends (past rest : List TimerEvent) (q : Process) (dumps : List TimerDump) (d : TimerDump)
      (events_eq : events = past ++ .expire d.arming.number :: rest)
      (ended : elapse events p = .ended (.code 1) q)
      (account : Lifetimes p (past ++ [.expire d.arming.number]) (dumps ++ [d]))
      (descriptors : q.descriptors = written p.descriptors (dumps ++ [d]))
      (received : ∀ fd, q.descriptors.textOf fd =
        p.descriptors.textOf fd ++ dumpsTo fd (dumps ++ [d]))
      (last : d.moment = past.length)
      (exits : d.arming.settings.exits)
      (stays : ∀ e ∈ dumps, e.arming.settings.exits = false)

theorem Between.single (h : Between p past q) {n m : Nat} (hn : q.timers.Alive n)
    (hm : q.timers.Alive m) : n = m := by
  obtain ⟨a, ha, rfl⟩ := (h.alive_iff n).mp hn
  obtain ⟨b, hb, rfl⟩ := (h.alive_iff m).mp hm
  rw [ha.held.unique hb.held]

/-- Every sink that is not refused takes what is written to it. -/
def SinksWork (p : Process) (events : List TimerEvent) : Prop :=
  ∀ sink settings, .arm sink settings .available ∈ events →
    p.descriptors.checkSink sink.descriptor = .ok () → p.descriptors.Works sink.descriptor

theorem SinksWork.held (h : SinksWork p past) (ha : a.Held p past) :
    p.descriptors.Works a.sink.descriptor :=
  h _ _ (List.mem_of_getElem? ha.armed) ha.accepted

theorem SinksWork.front {rest : List TimerEvent} (h : SinksWork p (past ++ rest)) :
    SinksWork p past := fun sink settings hmem =>
  h sink settings (List.mem_append_left rest hmem)

/-- The sinks of the dumps are among those that were not refused. -/
theorem Accounted.works (h : Accounted p past dumps) (hworks : SinksWork p past) :
    ∀ d ∈ dumps, p.descriptors.Works d.arming.sink.descriptor := by
  intro d hd
  obtain ⟨-, ⟨hheld, -⟩, -⟩ := (h.mem_iff d).mp hd
  exact hworks _ _ (List.mem_of_mem_take (List.mem_of_getElem? hheld.armed)) hheld.accepted

/-- The rest of a course. The induction is on the events that are left. -/
theorem Between.course {rest : List TimerEvent} (h : Between p past q)
    (hpast : elapse past p = .returned () q) (haccount : Accounted p past dumps)
    (hdescriptors : q.descriptors = written p.descriptors dumps)
    (hstays : ∀ d ∈ dumps, d.arming.settings.exits = false)
    (hworks : SinksWork p (past ++ rest)) : TimerCourse p (past ++ rest) := by
  induction rest generalizing past q dumps with
  | nil =>
    rw [List.append_nil]
    have hreceived := fun fd => hdescriptors ▸ textOf_written (haccount.works hworks.front) fd
    exact .goes q dumps hpast haccount.lifetimes hdescriptors hreceived hstays h.alive_iff
      (fun n m => h.single) h.cancels h.arms
  | cons e rest ih =>
    have hnext : ∀ q', e.run q = .returned () q' → elapse (past ++ [e]) p = .returned () q' := by
      intro q' hrun
      rw [elapse_append [e] hpast]
      exact Run.bind_of_returned hrun _
    have hall : past ++ e :: rest = past ++ [e] ++ rest := List.append_cons past e rest
    by_cases he : ∃ n, e = .expire n
    · obtain ⟨n, rfl⟩ := he
      obtain ⟨hdead, hrun, hbetween⟩ | ⟨a, q', ha, rfl, hdumped, hrun⟩ :=
        h.expire (fun a ha => hworks.front.held ha) n
      · rw [hall] at hworks ⊢
        have hsilent := haccount.append_silent hpast fun a ha he =>
          hdead a ha (TimerEvent.expire.inj he).symm
        exact ih hbetween (hnext q hrun) hsilent hdescriptors hstays hworks
      · have hafter := haccount.append_dump hpast ha
        have hwritten : q'.descriptors =
            written p.descriptors (dumps ++ [⟨a, past.length, a.text q.registry⟩]) := by
          rw [written_append, ← hdescriptors]
          exact hdumped
        obtain ⟨hexits, hrun⟩ | ⟨hexits, hrun, hbetween⟩ := hrun
        · rw [hall] at hworks
          have hreceived := fun fd => hwritten ▸ textOf_written (hafter.works hworks.front) fd
          refine .ends past rest q' dumps ⟨a, past.length, a.text q.registry⟩ rfl ?_
            hafter.lifetimes hwritten hreceived rfl hexits hstays
          rw [elapse_append _ hpast]
          exact Run.bind_of_ended hrun _
        · rw [hall] at hworks ⊢
          refine ih hbetween (hnext q' hrun) hafter hwritten (fun d hd => ?_) hworks
          obtain hd | hd := List.mem_append.mp hd
          · exact hstays d hd
          · rw [List.mem_singleton.mp hd]
            exact hexits
    · have he : ∀ n, e ≠ .expire n := fun n h => he ⟨n, h⟩
      obtain ⟨q', hrun, hbetween, hsame⟩ := h.run he
      rw [hall] at hworks ⊢
      exact ih hbetween (hnext q' hrun) (haccount.append_silent hpast fun a _ => he a.number)
        (hsame.trans hdescriptors) hstays hworks

/-- From a state in which no timer is armed and no thread of one is left, every course of events is
accounted for, provided that the sinks that are not refused take what is written to them. -/
theorem timer_course {events : List TimerEvent} (hp : p.timers.Shows none)
    (hworks : SinksWork p events) : TimerCourse p events := by
  have hstart : Between p [] p :=
    ⟨⟨none, hp, .absent fun a ha => absurd ha.lt_length (Nat.not_lt_zero _)⟩, rfl, rfl⟩
  exact hstart.course rfl (.nil p) rfl (fun _ => nofun) hworks

/-- A process with one file. -/
def withTimerFile : Process :=
  { Process.initial with descriptors := DescriptorTable.initial.openAs 100 .file }

theorem whole_seconds : 0 < 1000000000 := by decide

/-- A repeating timer runs out, an arming is refused, and the timer runs out once more. Then it is
replaced by one that exits, and its time is over once more to no effect before that of the new
one. -/
def replacedTimer : List TimerEvent :=
  [.arm ⟨100⟩ ⟨⟨1, 0, whole_seconds⟩, true, false⟩ .available, .expire 0,
    .arm ⟨7⟩ ⟨⟨2, 0, whole_seconds⟩, false, false⟩ .available, .expire 0,
    .arm ⟨100⟩ ⟨⟨3, 0, whole_seconds⟩, false, true⟩ .available, .expire 0, .expire 1, .cancel]

theorem timer_course_replaced : TimerCourse withTimerFile replacedTimer ∧
    ∃ q, elapse replacedTimer withTimerFile = .ended (.code 1) q := by
  have hidle : withTimerFile.timers.Shows none := .absent rfl fun n halive => by
    obtain ⟨thread, hthread, -⟩ := halive
    cases hthread
  refine ⟨timer_course hidle fun sink settings hmem haccepted => ?_, _, rfl⟩
  have hsinks : sink.descriptor = 100 ∨ sink.descriptor = 7 := by
    simp only [replacedTimer, List.mem_cons, TimerEvent.arm.injEq] at hmem
    grind
  obtain hfile | hclosed := hsinks
  · exact .inr (.inl (hfile ▸ rfl))
  · rw [hclosed] at haccepted
    cases haccepted

end Process

end CrashTrace
