import CrashTrace.Proofs.Registry.Recording

/-!
# Which frame a guard was made for

A guard remembers only whether entering recorded a frame. A ledger of one thread remembers more:
each frame that is entered gets a ticket, the guard of the frame holds the same ticket, and the
stack of the thread is a list of tickets. The ledger tells for each guard whether its frame is on
the stack now, and at which depth.

## Main definitions

- `Ticket`, `Ledger` — entered frames, and what a thread has done with them
- `Ticket.IsCurrent` — a frame of the registration that the thread has now
- `Ledger.InOrder` — guards are dropped in reverse order of creation
- `Recording.ledger` — the ledger of one thread among several

## Main results

- `Ledger.current_sublist_frames` — dropped in order, a guard of the present registration has its
  frame on the stack
- `Ledger.current_eq_frames` — if also no guard is forgotten, these are all frames of the stack
-/

namespace CrashTrace

/-- A frame that was entered: which one of all it was, the registration of its thread at that time,
if there was one, and its code. -/
structure Ticket where
  serial : Nat
  registration : Option Nat
  code : CodeLocation
  deriving DecidableEq

/-- Whether the frame was put on a stack. -/
def Ticket.pushed (g : Ticket) : Bool := g.registration.isSome

/-- What one thread has done: how often it entered a frame and how often it registered, its
registration now, the frames on its stack, outermost first, and those that its guards were made for,
oldest first. -/
structure Ledger where
  entered : Nat
  registrations : Nat
  registration : Option Nat
  frames : List Ticket
  guards : List Ticket
  deriving DecidableEq

namespace Ledger

/-- The ledger of a thread that has done nothing. -/
def initial : Ledger := ⟨0, 0, none, [], []⟩

def step (l : Ledger) : ThreadAction → Ledger
  | .register =>
    { l with
      registrations := l.registrations + 1
      registration := some l.registrations
      frames := [] }
  | .unregister => { l with registration := none, frames := [] }
  | .enter f =>
    let ticket := ⟨l.entered, l.registration, f.code⟩
    { l with
      entered := l.entered + 1
      frames := if l.registration.isSome then l.frames ++ [ticket] else l.frames
      guards := l.guards ++ [ticket] }
  | .setLine _ _ => l
  | .drop i =>
    { l with
      frames := if l.guards[i]?.any Ticket.pushed then l.frames.dropLast else l.frames
      guards := l.guards.eraseIdx i }
  | .forget i => { l with guards := l.guards.eraseIdx i }

def run (l : Ledger) (actions : List ThreadAction) : Ledger := actions.foldl step l

end Ledger

/-- The frame was entered in the registration that its thread has now. -/
def Ticket.IsCurrent (now : Option Nat) (g : Ticket) : Prop := now.isSome ∧ g.registration = now

instance (now : Option Nat) : DecidablePred (Ticket.IsCurrent now) :=
  fun _ => inferInstanceAs (Decidable (_ ∧ _))

namespace Ledger

/-- The guards that were made in the registration that the thread has now. -/
def current (l : Ledger) : List Ticket := l.guards.filter fun g => g.IsCurrent l.registration

/-- A guard is dropped only if no younger one is held. -/
def Orderly (l : Ledger) : ThreadAction → Prop
  | .drop i => l.guards.length ≤ i + 1
  | _ => True

instance (l : Ledger) : DecidablePred l.Orderly
  | .drop i => inferInstanceAs (Decidable (_ ≤ i + 1))
  | .register | .unregister | .enter _ | .setLine _ _ | .forget _ => inferInstanceAs (Decidable True)

/-- Guards are dropped in reverse order of creation. -/
def InOrder (l : Ledger) : List ThreadAction → Prop
  | [] => True
  | a :: rest => l.Orderly a ∧ (l.step a).InOrder rest

instance decidableInOrder (l : Ledger) : (actions : List ThreadAction) → Decidable (l.InOrder actions)
  | [] => inferInstanceAs (Decidable True)
  | a :: rest =>
    have := decidableInOrder (l.step a) rest
    inferInstanceAs (Decidable (_ ∧ _))

end Ledger

/-- Whether an action uses a guard up without leaving a frame. -/
def ThreadAction.forgets : ThreadAction → Bool
  | .forget _ => true
  | _ => false

/-- The ledger of a thread after actions of several. -/
def Recording.ledger (t : ThreadId) (actions : List (ThreadId × ThreadAction)) : Ledger :=
  Ledger.initial.run (initial.own t actions)

/-- The frames on the stack of an account, outermost first. -/
def Account.frames (a : Account) : List Frame := (a.stack.map CutStack.frames).getD []

namespace Ledger

variable {l : Ledger} {a : ThreadAction} {actions : List ThreadAction}

/-! ### The account and the ledger of a thread -/

/-- The account of a thread tells the same stack and the same guards as its ledger. -/
structure Agrees (l : Ledger) (account : Account) : Prop where
  registered : account.stack.isSome = l.registration.isSome
  codes : account.frames.map Frame.code = l.frames.map Ticket.code
  guards : account.guards = l.guards.map Ticket.pushed

theorem agrees_initial : initial.Agrees Account.initial := ⟨rfl, rfl, rfl⟩

theorem map_code_setLine (s : CutStack) (line : UInt32) :
    (s.setLine line).frames.map Frame.code = s.frames.map Frame.code := by
  apply List.ext_getElem?
  intro j
  rw [CutStack.setLine, List.getElem?_map, List.getElem?_map, List.getElem?_modify]
  by_cases hj : s.frames.length - 1 = j <;> simp [hj, Function.comp_def]

theorem Agrees.step {account : Account} (h : l.Agrees account) (a : ThreadAction) :
    (l.step a).Agrees (account.step a) := by
  obtain ⟨stack, guards⟩ := account
  obtain ⟨hreg, hcodes, hguards⟩ := h
  have hguards : guards = l.guards.map Ticket.pushed := hguards
  have hreg : stack.isSome = l.registration.isSome := hreg
  have hpushed (i : Nat) : guards[i]? = some true ↔ l.guards[i]?.any Ticket.pushed = true := by
    rw [hguards, List.getElem?_map]
    cases l.guards[i]? <;> simp
  cases a with
  | register => exact ⟨rfl, rfl, hguards⟩
  | unregister => exact ⟨rfl, rfl, hguards⟩
  | enter f =>
    refine ⟨by simpa [Account.step, Ledger.step] using hreg, ?_, ?_⟩
    · simp only [Account.step, Ledger.step, ← hreg]
      cases stack with
      | none => exact hcodes
      | some s =>
        have hmap : s.frames.map Frame.code = l.frames.map Ticket.code := hcodes
        simp [Account.frames, CutStack.enter, hmap]
    · simp [Account.step, Ledger.step, Ticket.pushed, hguards, hreg]
  | setLine i line =>
    simp only [Account.step]
    split
    · refine ⟨by simpa [Ledger.step] using hreg, ?_, hguards⟩
      cases stack with
      | none => exact hcodes
      | some s => exact (map_code_setLine s line).trans hcodes
    · exact ⟨hreg, hcodes, hguards⟩
  | drop i =>
    simp only [Account.step, Ledger.step, hpushed]
    refine ⟨?_, ?_, by simp [hguards, List.eraseIdx_map]⟩
    · split <;> simpa using hreg
    · split
      · cases stack with
        | none => simpa [Account.frames] using congrArg List.dropLast hcodes
        | some s => simpa [Account.frames, CutStack.leave] using congrArg List.dropLast hcodes
      · exact hcodes
  | forget i => exact ⟨hreg, hcodes, by simp [Account.step, Ledger.step, hguards, List.eraseIdx_map]⟩

theorem Agrees.run {account : Account} (h : l.Agrees account) (actions : List ThreadAction) :
    (l.run actions).Agrees (account.run actions) := by
  induction actions generalizing l account with
  | nil => exact h
  | cons a rest ih => exact ih (h.step a)

/-! ### What every ledger satisfies -/

/-- The frames of the stack differ from each other, and a thread without a registration has none.
The registrations are numbered, and the present one is the latest. No guard of an earlier
registration is younger than one of a later. -/
structure WellKept (l : Ledger) : Prop where
  serial_lt : ∀ g ∈ l.frames, g.serial < l.entered
  nodup : l.frames.Nodup
  frames_eq_nil : l.registration = none → l.frames = []
  latest : ∀ n, l.registration = some n → n + 1 = l.registrations
  guard_lt : ∀ g ∈ l.guards, ∀ n, g.registration = some n → n < l.registrations
  sorted : l.guards.Pairwise fun g g' =>
    ∀ n n', g.registration = some n → g'.registration = some n' → n ≤ n'

theorem wellKept_initial : initial.WellKept where
  serial_lt g hg := by cases hg
  nodup := List.nodup_nil
  frames_eq_nil _ := rfl
  latest n h := by cases h
  guard_lt g hg := by cases hg
  sorted := List.Pairwise.nil

/-- Using guards up keeps the ledger well. -/
theorem WellKept.useUp (h : l.WellKept) {frames guards : List Ticket}
    (hframes : frames.Sublist l.frames) (hguards : guards.Sublist l.guards) :
    { l with frames := frames, guards := guards }.WellKept where
  serial_lt g hg := h.serial_lt g (hframes.subset hg)
  nodup := h.nodup.sublist hframes
  frames_eq_nil hn := List.sublist_nil.mp (h.frames_eq_nil hn ▸ hframes)
  latest := h.latest
  guard_lt g hg := h.guard_lt g (hguards.subset hg)
  sorted := h.sorted.sublist hguards

theorem WellKept.enter (h : l.WellKept) (f : Frame) : (l.step (.enter f)).WellKept := by
  refine ⟨fun g hg => ?_, ?_, fun hn => ?_, h.latest, fun g hg n hn => ?_, ?_⟩
  · have hlt : ∀ g ∈ l.frames, g.serial < l.entered + 1 :=
      fun g hg => Nat.lt_succ_of_lt (h.serial_lt g hg)
    simp only [Ledger.step] at hg ⊢
    split at hg
    · obtain hold | hnew := List.mem_append.mp hg
      · exact hlt g hold
      · rw [List.mem_singleton.mp hnew]
        exact Nat.lt_succ_self _
    · exact hlt g hg
  · simp only [Ledger.step]
    split
    · refine List.Nodup.append h.nodup (List.nodup_singleton _) ?_
      rw [List.disjoint_singleton]
      exact fun hmem => Nat.lt_irrefl _ (h.serial_lt _ hmem)
    · exact h.nodup
  · have hnone : l.registration = none := hn
    simp [Ledger.step, hnone, h.frames_eq_nil hnone]
  · obtain hold | hnew := List.mem_append.mp hg
    · exact h.guard_lt g hold n hn
    · rw [List.mem_singleton.mp hnew] at hn
      have hlatest := h.latest n hn
      change n < l.registrations
      omega
  · refine List.pairwise_append.mpr ⟨h.sorted, List.pairwise_singleton _ _, ?_⟩
    intro g hg g' hg' n n' hn hn'
    rw [List.mem_singleton.mp hg'] at hn'
    have hlt := h.guard_lt g hg n hn
    have hlatest := h.latest n' hn'
    omega

theorem WellKept.step (h : l.WellKept) (a : ThreadAction) : (l.step a).WellKept := by
  cases a with
  | register =>
    refine ⟨fun g hg => (nomatch hg), List.nodup_nil, fun _ => rfl, fun n hn => ?_, fun g hg n hn => ?_,
      h.sorted⟩
    · rw [← Option.some.inj hn]
      rfl
    · exact Nat.lt_succ_of_lt (h.guard_lt g hg n hn)
  | unregister =>
    exact ⟨fun g hg => (nomatch hg), List.nodup_nil, fun _ => rfl, fun n hn => (nomatch hn), h.guard_lt,
      h.sorted⟩
  | enter f => exact h.enter f
  | setLine i line => exact h
  | drop i =>
    refine h.useUp ?_ (List.eraseIdx_sublist _ _)
    split
    · exact List.dropLast_sublist _
    · exact List.Sublist.refl _
  | forget i => exact h.useUp (List.Sublist.refl _) (List.eraseIdx_sublist _ _)

theorem WellKept.run (h : l.WellKept) (actions : List ThreadAction) : (l.run actions).WellKept := by
  induction actions generalizing l with
  | nil => exact h
  | cons a rest ih => exact ih (h.step a)

/-! ### Guards that are dropped in order -/

/-- If the youngest guard is of an earlier registration, all of them are. -/
theorem WellKept.current_eq_nil (h : l.WellKept) {init : List Ticket} {g : Ticket}
    (hguards : l.guards = init ++ [g]) (hg : g.pushed) (hold : ¬ g.IsCurrent l.registration) :
    l.current = [] := by
  rw [current, List.filter_eq_nil_iff]
  intro g' hmem hnow
  obtain ⟨hsome, hreg⟩ := of_decide_eq_true hnow
  obtain ⟨n, hn⟩ := Option.isSome_iff_exists.mp hg
  obtain ⟨now, hnow⟩ := Option.isSome_iff_exists.mp hsome
  have hlatest := h.latest now hnow
  have hlt := h.guard_lt g (by simp [hguards]) n hn
  have hne : n ≠ now := by
    rintro rfl
    exact hold ⟨hsome, hn.trans hnow.symm⟩
  rw [hguards] at hmem
  obtain hinit | hlast := List.mem_append.mp hmem
  · have hsorted := h.sorted
    rw [hguards, List.pairwise_append] at hsorted
    have hle := hsorted.2.2 g' hinit g (List.mem_singleton_self g) now n (hreg.trans hnow) hn
    omega
  · rw [List.mem_singleton.mp hlast] at hreg
    exact hold ⟨hsome, hreg⟩

/-- Dropping the youngest guard shortens the guards of the present registration and the stack
alike, or leaves both alone. -/
theorem WellKept.drop_last (h : l.WellKept) {init : List Ticket} {g : Ticket}
    (hguards : l.guards = init ++ [g]) :
    ((l.step (.drop init.length)).current = l.current.dropLast ∧
        (l.step (.drop init.length)).frames = l.frames.dropLast) ∨
      ((l.step (.drop init.length)).current = l.current ∧
        (l.step (.drop init.length)).frames = l.frames) := by
  have hcurrent : (l.step (.drop init.length)).current =
      init.filter fun g => g.IsCurrent l.registration := by
    simp [current, Ledger.step, hguards, List.eraseIdx_append_of_length_le]
  have hframes : (l.step (.drop init.length)).frames =
      if g.pushed then l.frames.dropLast else l.frames := by
    simp [Ledger.step, hguards]
  have hsplit : l.current = (init.filter fun g => g.IsCurrent l.registration) ++
      [g].filter fun g => g.IsCurrent l.registration := by
    rw [current, hguards, List.filter_append]
  rw [hcurrent, hframes]
  by_cases hnow : g.IsCurrent l.registration
  · have hpushed : g.pushed = true := by
      rw [Ticket.pushed, hnow.2]
      exact hnow.1
    exact .inl ⟨by simp [hsplit, hnow], if_pos hpushed⟩
  · have hsame : l.current = init.filter fun g => g.IsCurrent l.registration := by
      simpa [hnow] using hsplit
    by_cases hpushed : g.pushed
    · have hnil := h.current_eq_nil hguards hpushed hnow
      exact .inl ⟨by rw [← hsame, hnil, List.dropLast_nil], if_pos hpushed⟩
    · exact .inr ⟨hsame.symm, if_neg hpushed⟩

/-- What a step in order does to the guards of the present registration and to the stack: it
empties both, lengthens both by the same frame, shortens both by the last one, or leaves the stack
alone, and then only forgetting takes a guard away. -/
theorem WellKept.step_cases (h : l.WellKept) (ha : l.Orderly a) :
    ((l.step a).current = [] ∧ (l.step a).frames = []) ∨
    (∃ g, (l.step a).current = l.current ++ [g] ∧ (l.step a).frames = l.frames ++ [g]) ∨
    ((l.step a).current = l.current.dropLast ∧ (l.step a).frames = l.frames.dropLast) ∨
    ((l.step a).current.Sublist l.current ∧ (l.step a).frames = l.frames ∧
      ((l.step a).current = l.current ∨ ∃ i, a = .forget i)) := by
  cases a with
  | register =>
    refine .inl ⟨?_, rfl⟩
    rw [current, List.filter_eq_nil_iff]
    intro g hg hnow
    exact Nat.lt_irrefl _ (h.guard_lt g hg _ (of_decide_eq_true hnow).2)
  | unregister => exact .inl ⟨by simp [current, Ledger.step, Ticket.IsCurrent], rfl⟩
  | enter f =>
    cases hreg : l.registration with
    | none =>
      have hsame : (l.step (.enter f)).current = l.current := by
        simp [current, Ledger.step, Ticket.IsCurrent, hreg]
      have hframes : (l.step (.enter f)).frames = l.frames := by simp [Ledger.step, hreg]
      exact .inr (.inr (.inr ⟨hsame ▸ List.Sublist.refl _, hframes, .inl hsame⟩))
    | some n =>
      refine .inr (.inl ⟨⟨l.entered, l.registration, f.code⟩, ?_, ?_⟩)
      · simp [current, Ledger.step, Ticket.IsCurrent, hreg]
      · simp [Ledger.step, hreg]
  | setLine i line => exact .inr (.inr (.inr ⟨List.Sublist.refl _, rfl, .inl rfl⟩))
  | drop i =>
    -- In order, so the guard is the youngest one, or there is no guard of this number.
    have ha : l.guards.length ≤ i + 1 := ha
    by_cases hi : l.guards.length ≤ i
    · have hnone : l.guards[i]? = none := List.getElem?_eq_none hi
      have hstep : l.step (.drop i) = l := by
        simp [Ledger.step, hnone, List.eraseIdx_of_length_le hi]
      rw [hstep]
      exact .inr (.inr (.inr ⟨List.Sublist.refl _, rfl, .inl rfl⟩))
    · obtain hnil | ⟨init, g, hguards⟩ := List.eq_nil_or_concat' l.guards
      · simp [hnil] at hi
      · obtain rfl : i = init.length := by
          simp only [hguards, List.length_append, List.length_singleton] at ha hi
          omega
        obtain hboth | ⟨hsame, hframes⟩ := h.drop_last hguards
        · exact .inr (.inr (.inl hboth))
        · exact .inr (.inr (.inr ⟨hsame ▸ List.Sublist.refl _, hframes, .inl hsame⟩))
  | forget i =>
    exact .inr (.inr (.inr ⟨(List.eraseIdx_sublist _ _).filter _, rfl, .inr ⟨i, rfl⟩⟩))

theorem sublist_dropLast {α : Type} {xs ys : List α} (h : xs.Sublist ys) :
    xs.dropLast.Sublist ys.dropLast := by
  have htail := h.reverse.tail.reverse
  simpa using htail

/-- As long as guards are dropped in order, the guards of the present registration were made for
frames of the stack, in this order. -/
theorem current_sublist_frames (hl : l.WellKept) (horder : l.InOrder actions)
    (h : l.current.Sublist l.frames) : (l.run actions).current.Sublist (l.run actions).frames := by
  induction actions generalizing l with
  | nil => exact h
  | cons a rest ih =>
    refine ih (hl.step a) horder.2 ?_
    obtain ⟨hcurrent, hframes⟩ | ⟨g, hcurrent, hframes⟩ | ⟨hcurrent, hframes⟩ | ⟨hsub, hframes, -⟩ :=
      hl.step_cases horder.1
    · exact hcurrent ▸ List.nil_sublist _
    · rw [hcurrent, hframes]
      exact h.append (List.Sublist.refl _)
    · rw [hcurrent, hframes]
      exact sublist_dropLast h
    · exact hframes ▸ hsub.trans h

/-- As long as guards are dropped in order and none is forgotten, the stack consists of the frames
that the guards of the present registration were made for. -/
theorem current_eq_frames (hl : l.WellKept) (horder : l.InOrder actions)
    (hkept : ∀ a ∈ actions, a.forgets = false) (h : l.current = l.frames) :
    (l.run actions).current = (l.run actions).frames := by
  induction actions generalizing l with
  | nil => exact h
  | cons a rest ih =>
    refine ih (hl.step a) horder.2 (fun x hx => hkept x (List.mem_cons_of_mem a hx)) ?_
    obtain ⟨hcurrent, hframes⟩ | ⟨g, hcurrent, hframes⟩ | ⟨hcurrent, hframes⟩ |
      ⟨-, hframes, hcurrent | ⟨i, rfl⟩⟩ := hl.step_cases horder.1
    · rw [hcurrent, hframes]
    · rw [hcurrent, hframes, h]
    · rw [hcurrent, hframes, h]
    · rw [hcurrent, hframes, h]
    · cases hkept _ List.mem_cons_self

end Ledger

namespace Recording

/-- The account of a thread after actions of several. -/
def account (t : ThreadId) (actions : List (ThreadId × ThreadAction)) : Account :=
  Account.initial.run (initial.own t actions)

theorem kept_account (actions : List (ThreadId × ThreadAction)) :
    (initial.run actions).Kept fun t => account t actions :=
  kept_initial.run actions

theorem agrees_account (t : ThreadId) (actions : List (ThreadId × ThreadAction)) :
    (ledger t actions).Agrees (account t actions) :=
  Ledger.agrees_initial.run _

theorem wellKept_ledger (t : ThreadId) (actions : List (ThreadId × ThreadAction)) :
    (ledger t actions).WellKept :=
  Ledger.wellKept_initial.run _

end Recording

end CrashTrace
