import CrashTrace.Proofs.Registry.Ownership
import CrashTrace.Proofs.Stack.Cut
import Mathlib.Data.List.InsertIdx
import Mathlib.Data.List.Nodup
import Mathlib.Logic.Function.Basic

/-!
# Threads that record their frames

Any number of threads register, unregister, and enter and leave frames through guards, one
operation at a time and in any order. Beside the registry stands an account of each single thread:
a stack without limit and its guards. The account is kept from what the thread itself did and from
which of its registrations went through. Reading the registry gives what the account tells.

## Main definitions

- `ThreadAction`, `Recording` — what threads do, and the registry with the guards that they hold
- `Account` — the account of one thread
- `Recording.own` — what a thread did, without the registrations that were refused
- `Recording.Kept` — the registry shows what the accounts tell

## Design notes

A guard may be used in any order, on a later registration of its thread, and on a slot that had
other owners before. The account of a guard is whether its thread was registered when it was made.
-/

namespace CrashTrace

/-- What a thread does. Its guards are counted from the oldest. -/
inductive ThreadAction where
  | register
  | unregister
  | enter (frame : Frame)
  | setLine (guard : Nat) (line : UInt32)
  /-- Uses a guard up and leaves a frame. -/
  | drop (guard : Nat)
  /-- Uses a guard up without leaving a frame. -/
  | forget (guard : Nat)
  deriving DecidableEq

/-- A registry and the guards that each thread holds. -/
structure Recording where
  registry : Registry
  guards : ThreadId → List FrameGuard

namespace Recording

/-- No thread has done anything. -/
def initial : Recording := ⟨Registry.empty, fun _ => []⟩

def step (s : Recording) (t : ThreadId) : ThreadAction → Recording
  | .register =>
    match s.registry.register t with
    | .ok r => { s with registry := r }
    | .error _ => s
  | .unregister => { s with registry := s.registry.unregister t }
  | .enter f =>
    let (guard, r) := s.registry.enter t f
    ⟨r, Function.update s.guards t (s.guards t ++ [guard])⟩
  | .setLine i line =>
    match (s.guards t)[i]? with
    | some guard => { s with registry := s.registry.setLine t guard line }
    | none => s
  | .drop i =>
    match (s.guards t)[i]? with
    | some guard =>
      ⟨s.registry.leave t guard, Function.update s.guards t ((s.guards t).eraseIdx i)⟩
    | none => s
  | .forget i => { s with guards := Function.update s.guards t ((s.guards t).eraseIdx i) }

/-- Actions of several threads, one after the other. -/
def run (s : Recording) (actions : List (ThreadId × ThreadAction)) : Recording :=
  actions.foldl (fun s a => s.step a.1 a.2) s

def refuses (s : Recording) (t : ThreadId) (a : ThreadAction) : Bool :=
  decide (a = .register) && !(s.registry.register t).isOk

/-- What one thread does among the actions of all, without the registrations that are refused. -/
def own (s : Recording) (t : ThreadId) : List (ThreadId × ThreadAction) → List ThreadAction
  | [] => []
  | (u, a) :: rest =>
    (if u = t ∧ !s.refuses u a then [a] else []) ++ own (s.step u a) t rest

end Recording

/-- The account of one thread: its stack while it is registered, and for each guard, oldest first,
whether the thread was registered when the guard was made. -/
structure Account where
  stack : Option CutStack
  guards : List Bool
  deriving DecidableEq

namespace Account

/-- The account of a thread that has done nothing. -/
def initial : Account := ⟨none, []⟩

def step (a : Account) : ThreadAction → Account
  | .register => { a with stack := some CutStack.empty }
  | .unregister => { a with stack := none }
  | .enter f => ⟨a.stack.map (·.enter f), a.guards ++ [a.stack.isSome]⟩
  | .setLine i line =>
    if a.guards[i]? = some true then { a with stack := a.stack.map (·.setLine line) } else a
  | .drop i =>
    ⟨if a.guards[i]? = some true then a.stack.map CutStack.leave else a.stack,
      a.guards.eraseIdx i⟩
  | .forget i => { a with guards := a.guards.eraseIdx i }

def run (a : Account) (actions : List ThreadAction) : Account := actions.foldl step a

end Account

/-- What a reader learns of a stack: its visible frames, and whether any are missing. -/
def CutStack.reading (s : CutStack) : List Frame × Bool := (s.visible, decide (0 < s.cut))

/-- What a reader learns of a thread, once for each handle of the thread. -/
def Registry.readings (r : Registry) (caller : Option ThreadId) (t : ThreadId) :
    List (List Frame × Bool) :=
  ((r.threads caller).filter (·.thread = t)).map fun h =>
    ((r.snapshot h).frames, (r.snapshot h).truncated)

/-! ### The handle of a thread -/

namespace Registry

variable {r : Registry} {caller : Option ThreadId} {t : ThreadId}

theorem nodup_threads (r : Registry) (caller : Option ThreadId) : (r.threads caller).Nodup := by
  refine (List.nodup_finRange capacity).filterMap fun i j h hi hj => ?_
  obtain ⟨_, _, rfl⟩ := Option.map_eq_some_iff.mp hi
  obtain ⟨_, _, hij⟩ := Option.map_eq_some_iff.mp hj
  exact (congrArg ThreadHandle.slot hij).symm

/-- A thread without a slot has no handle. -/
theorem filter_threads_of_unregistered (hr : r.WellFormed) (ht : r.home t = none) :
    (r.threads caller).filter (·.thread = t) = [] := by
  rw [List.filter_eq_nil_iff]
  intro h hmem hthread
  obtain rfl := of_decide_eq_true hthread
  have hhome := (hr.home_eq_iff h.thread h.slot).mpr (mem_threads_iff.mp hmem).1
  rw [ht] at hhome
  cases hhome

/-- A thread with a slot has one handle, whoever asks. -/
theorem filter_threads_of_registered (hr : r.WellFormed) {i : SlotIndex} (ht : r.home t = some i) :
    (r.threads caller).filter (·.thread = t) = [⟨i, t, decide (caller = some t)⟩] := by
  refine List.perm_singleton.mp ((List.perm_ext_iff_of_nodup
    ((nodup_threads r caller).filter _) (List.nodup_singleton _)).mpr fun h => ?_)
  rw [List.mem_filter, mem_threads_iff, List.mem_singleton, decide_eq_true_iff]
  constructor
  · rintro ⟨⟨ho, hc⟩, rfl⟩
    have hslot : h.slot = i :=
      Option.some.inj (((hr.home_eq_iff h.thread h.slot).mpr ho).symm.trans ht)
    subst hslot
    rw [← hc]
  · rintro rfl
    exact ⟨⟨(hr.home_eq_iff t i).mp ht, rfl⟩, rfl⟩

/-- Reading a thread whose ring shows a stack gives what is visible of the stack. -/
theorem readings_eq (hr : r.WellFormed) {stack : Option CutStack}
    (h : Option.Rel Ring.Shows (r.ringOf? t) stack) :
    r.readings caller t = stack.toList.map CutStack.reading := by
  cases ht : r.home t with
  | none =>
    have hnone : r.ringOf? t = none := by simp [ringOf?, ht]
    rw [hnone] at h
    cases h
    simp [readings, filter_threads_of_unregistered hr ht]
  | some i =>
    rw [readings, filter_threads_of_registered hr ht]
    obtain ⟨ring, hring, hframes, htruncated⟩ :=
      snapshot_of_owner hr (h := ⟨i, t, decide (caller = some t)⟩) ((hr.home_eq_iff t i).mp ht)
    rw [hring] at h
    cases h with
    | some hshows =>
      obtain ⟨hf, hc⟩ := Cursor.drain_eq hshows
      simp [hframes, htruncated, hf, hc, CutStack.reading]

end Registry

/-! ### The registry keeps the accounts -/

namespace Recording

/-- The registry is well formed, the ring of each thread shows the stack of its account, and the
guards are as the account tells. -/
structure Kept (s : Recording) (accounts : ThreadId → Account) : Prop where
  wellFormed : s.registry.WellFormed
  shows : ∀ t, Option.Rel Ring.Shows (s.registry.ringOf? t) (accounts t).stack
  guards : ∀ t, (s.guards t).map FrameGuard.pushed = (accounts t).guards

variable {s : Recording} {accounts : ThreadId → Account}

theorem slots_pos : 0 < Registry.capacity := by decide

theorem kept_initial : initial.Kept fun _ => Account.initial where
  wellFormed := Registry.WellFormed.empty
  shows _ := Option.Rel.none
  guards _ := rfl

theorem rel_map {o : Option Ring} {p : Option CutStack} (h : Option.Rel Ring.Shows o p)
    {change : Ring → Ring} {change' : CutStack → CutStack}
    (hc : ∀ r s, r.Shows s → (change r).Shows (change' s)) :
    Option.Rel Ring.Shows (o.map change) (p.map change') := by
  cases h with
  | none => exact Option.Rel.none
  | some hs => exact Option.Rel.some (hc _ _ hs)

/-- Changing the ring of one thread as its account changes. -/
theorem Kept.changeRing (h : s.Kept accounts) (t : ThreadId) {change : Ring → Ring}
    {change' : CutStack → CutStack} (hc : ∀ r s, r.Shows s → (change r).Shows (change' s))
    {guards : List FrameGuard} {guards' : List Bool}
    (hg : guards.map FrameGuard.pushed = guards') :
    (Recording.mk (s.registry.changeRing t change) (Function.update s.guards t guards)).Kept
      (Function.update accounts t ⟨(accounts t).stack.map change', guards'⟩) where
  wellFormed := h.wellFormed.changeRing t change
  shows u := by
    rw [Registry.ringOf?_changeRing h.wellFormed]
    by_cases hu : u = t
    · subst hu
      simpa using rel_map (h.shows u) hc
    · simpa [hu] using h.shows u
  guards u := by
    by_cases hu : u = t
    · subst hu
      simpa using hg
    · simpa [hu] using h.guards u

/-- Using guards up leaves the stacks alone. -/
theorem Kept.changeGuards (h : s.Kept accounts) (t : ThreadId) {guards : List FrameGuard}
    {guards' : List Bool} (hg : guards.map FrameGuard.pushed = guards') :
    (Recording.mk s.registry (Function.update s.guards t guards)).Kept
      (Function.update accounts t ⟨(accounts t).stack, guards'⟩) where
  wellFormed := h.wellFormed
  shows u := by
    by_cases hu : u = t
    · subst hu
      simpa using h.shows u
    · simpa [hu] using h.shows u
  guards u := by
    by_cases hu : u = t
    · subst hu
      simpa using hg
    · simpa [hu] using h.guards u

/-- A refused registration changes nothing. -/
theorem step_of_refuses {t : ThreadId} {a : ThreadAction} (h : s.refuses t a) : s.step t a = s := by
  simp only [refuses, Bool.and_eq_true, decide_eq_true_eq, Bool.not_eq_true'] at h
  obtain ⟨rfl, hr⟩ := h
  cases hreg : s.registry.register t with
  | ok r => simp [hreg, Except.isOk, Except.toBool] at hr
  | error e => simp [step, hreg]

theorem Kept.guard_iff (h : s.Kept accounts) (t : ThreadId) (i : Nat) :
    (accounts t).guards[i]? = ((s.guards t)[i]?).map FrameGuard.pushed := by
  rw [← h.guards t, List.getElem?_map]

theorem Kept.step_register (h : s.Kept accounts) {t : ThreadId}
    (ha : s.refuses t .register = false) :
    (s.step t .register).Kept
      (Function.update accounts t ((accounts t).step .register)) := by
  cases hreg : s.registry.register t with
  | error e => simp [refuses, hreg, Except.isOk, Except.toBool] at ha
  | ok r =>
    obtain ⟨old, hring⟩ := Registry.ringOf?_register h.wellFormed hreg
    simp only [step, hreg]
    refine ⟨h.wellFormed.register hreg, fun u => ?_, fun u => ?_⟩
    · rw [hring u]
      by_cases hu : u = t
      · subst hu
        simpa [Account.step] using Option.Rel.some (Ring.shows_reset old)
      · simpa [hu] using h.shows u
    · by_cases hu : u = t
      · subst hu
        simpa [Account.step] using h.guards u
      · simpa [hu] using h.guards u

theorem Kept.step_unregister (h : s.Kept accounts) (t : ThreadId) :
    (s.step t .unregister).Kept
      (Function.update accounts t ((accounts t).step .unregister)) := by
  refine ⟨h.wellFormed.unregister t, fun u => ?_, fun u => ?_⟩
  · rw [step, Registry.ringOf?_unregister h.wellFormed]
    by_cases hu : u = t
    · subst hu
      simp [Account.step]
    · simpa [hu] using h.shows u
  · by_cases hu : u = t
    · subst hu
      simpa [Recording.step, Account.step] using h.guards u
    · simpa [Recording.step, hu] using h.guards u

theorem Kept.step_enter (h : s.Kept accounts) (t : ThreadId) (f : Frame) :
    (s.step t (.enter f)).Kept
      (Function.update accounts t ((accounts t).step (.enter f))) := by
  cases ht : s.registry.ringOf? t with
  | none =>
    have hstack : (accounts t).stack = none := by
      have hs := h.shows t
      rw [ht] at hs
      generalize (accounts t).stack = stack at hs
      cases hs
      rfl
    simp only [step, Registry.enter, ht, Account.step, hstack]
    have hguards : (s.guards t ++ [FrameGuard.mk false]).map FrameGuard.pushed =
        (accounts t).guards ++ [false] := by simp [h.guards t]
    have hk := h.changeGuards t hguards
    rwa [hstack] at hk
  | some ring =>
    have hstack : (accounts t).stack.isSome = true := by
      have hs := h.shows t
      rw [ht] at hs
      generalize (accounts t).stack = stack at hs
      cases hs
      rfl
    simp only [step, Registry.enter, ht, Account.step, hstack]
    exact h.changeRing t (fun _ _ hs => hs.push f) (by simp [h.guards t])

theorem Kept.step_setLine (h : s.Kept accounts) (t : ThreadId) (i : Nat) (line : UInt32) :
    (s.step t (.setLine i line)).Kept
      (Function.update accounts t ((accounts t).step (.setLine i line))) := by
  have hg := h.guard_iff t i
  cases hi : (s.guards t)[i]? with
  | none => simpa [step, hi, Account.step, hg] using h
  | some guard =>
    cases hp : guard.pushed with
    | false => simpa [step, hi, Registry.setLine, hp, Account.step, hg] using h
    | true =>
      have hk := h.changeRing t (fun _ _ hs => hs.setLine line) (h.guards t)
      simpa [step, hi, Registry.setLine, hp, Account.step, hg] using hk

theorem Kept.step_drop (h : s.Kept accounts) (t : ThreadId) (i : Nat) :
    (s.step t (.drop i)).Kept
      (Function.update accounts t ((accounts t).step (.drop i))) := by
  have hg := h.guard_iff t i
  have herase : ((s.guards t).eraseIdx i).map FrameGuard.pushed = (accounts t).guards.eraseIdx i := by
    rw [← h.guards t, List.eraseIdx_map]
  cases hi : (s.guards t)[i]? with
  | none =>
    have hlen : (accounts t).guards.length ≤ i := by
      rw [← List.getElem?_eq_none_iff, hg, hi]
      rfl
    simpa [step, hi, Account.step, hg, List.eraseIdx_of_length_le hlen] using h
  | some guard =>
    cases hp : guard.pushed with
    | false =>
      simpa [step, hi, Registry.leave, hp, Account.step, hg] using h.changeGuards t herase
    | true =>
      have hk := h.changeRing t (fun _ _ hs => hs.pop) herase
      simpa [step, hi, Registry.leave, hp, Account.step, hg] using hk

/-- One action of a thread that is not refused changes the account of that thread alone. -/
theorem Kept.step (h : s.Kept accounts) {t : ThreadId} {a : ThreadAction}
    (ha : s.refuses t a = false) :
    (s.step t a).Kept (Function.update accounts t ((accounts t).step a)) := by
  cases a with
  | register => exact h.step_register ha
  | unregister => exact h.step_unregister t
  | enter f => exact h.step_enter t f
  | setLine i line => exact h.step_setLine t i line
  | drop i => exact h.step_drop t i
  | forget i => exact h.changeGuards t (by rw [← h.guards t, List.eraseIdx_map])

/-- A run changes the account of each thread by what that thread did itself. -/
theorem Kept.run (h : s.Kept accounts) (actions : List (ThreadId × ThreadAction)) :
    (s.run actions).Kept fun t => (accounts t).run (s.own t actions) := by
  induction actions generalizing s accounts with
  | nil => exact h
  | cons first rest ih =>
    obtain ⟨u, a⟩ := first
    cases hr : s.refuses u a with
    | true =>
      have hs := step_of_refuses hr
      have hk := ih h
      simpa [Recording.run, own, hr, hs] using hk
    | false =>
      have hk := ih (h.step hr)
      have hrun : s.run ((u, a) :: rest) = (s.step u a).run rest := rfl
      rw [hrun]
      convert hk using 2 with t
      by_cases ht : t = u
      · subst ht
        simp [own, hr, Account.run]
      · simp [own, ht, Ne.symm ht]

/-- Whatever any number of threads do, reading a thread gives what its own account tells: the
frames inside the cut of its unbounded stack, innermost first, and a mark if the cut is not at the
outermost frame. A thread that is not registered has no handle to read. -/
theorem readings_run (actions : List (ThreadId × ThreadAction)) (caller : Option ThreadId)
    (t : ThreadId) :
    (initial.run actions).registry.readings caller t =
      (Account.initial.run (initial.own t actions)).stack.toList.map CutStack.reading :=
  Registry.readings_eq (kept_initial.run actions).wellFormed ((kept_initial.run actions).shows t)

end Recording

end CrashTrace
