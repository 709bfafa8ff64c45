import CrashTrace.Proofs.Registry.Recording
import Mathlib.Data.List.Induction
import Mathlib.Data.List.Sort

/-!
# Slots in use

A thread that registers takes the lowest free slot and keeps it until it unregisters, whatever the
other threads do meanwhile. Threads are listed in the order of their slots, so two threads that
stay registered are always listed in the same order.

## Main definitions

- `Registry.Claims` — a thread has taken the lowest free slot
- `Registry.Admits` — when a registration is refused, and what it does otherwise
- `Registry.Lists` — what is in the list of threads
- `Registry.Before` — one thread is listed before another
- `Recording.Stays` — a thread does not unregister

## Main results

- `Recording.slots_run`
-/

namespace CrashTrace

namespace Registry

/-- A thread has taken the lowest free slot. It starts with an empty stack, and the slots of the
other threads are as they were. -/
structure Claims (t : ThreadId) (r r' : Registry) : Prop where
  lowest : ∃ i, (r.slot i).owner = none ∧ (∀ j < i, (r.slot j).owner ≠ none) ∧
    r'.home t = some i ∧ (r'.slot i).owner = some t ∧ ∀ j ≠ i, r'.slot j = r.slot j
  others : ∀ u ≠ t, r'.home u = r.home u
  unread : ∀ caller, r'.readings caller t = [([], false)]

/-- A thread is refused that has a slot, or while the others have all slots. Otherwise it takes
the lowest free one. -/
structure Admits (r : Registry) (t : ThreadId) : Prop where
  held : r.register t = .error .alreadyRegistered ↔ ∃ i, r.home t = some i
  full : r.register t = .error (.full capacity) ↔
    r.home t = none ∧ ∀ i, ∃ u ≠ t, (r.slot i).owner = some u
  claims : r.home t = none → (∃ i, (r.slot i).owner = none) →
    ∃ r', r.register t = .ok r' ∧ r.Claims t r'

/-- Each registered thread is listed once, in the order of the slots, and the caller alone is
marked. -/
structure Lists (r : Registry) (caller : Option ThreadId) : Prop where
  ordered : (r.threads caller).Pairwise fun g h => g.slot < h.slot
  once : ∀ t, ((r.threads caller).map ThreadHandle.thread).count t =
    if (r.home t).isSome then 1 else 0
  marked : ∀ h ∈ r.threads caller,
    r.home h.thread = some h.slot ∧ h.isCurrent = decide (caller = some h.thread)
  current : ∀ h, r.current? caller = some h ↔ h ∈ r.threads caller ∧ h.isCurrent

/-- The thread `t` is listed before the thread `u`. -/
def Before (r : Registry) (caller : Option ThreadId) (t u : ThreadId) : Prop :=
  [t, u].Sublist ((r.threads caller).map ThreadHandle.thread)

variable {r : Registry} {caller : Option ThreadId} {t u : ThreadId}

/-! ### Registering -/

theorem freeSlot?_eq_some_iff {i : SlotIndex} :
    r.freeSlot? = some i ↔ (r.slot i).owner = none ∧ ∀ j < i, (r.slot j).owner ≠ none := by
  unfold freeSlot?
  rw [List.find?_eq_some_iff_getElem]
  simp only [List.getElem_finRange, Option.isNone_iff_eq_none]
  constructor
  · rintro ⟨hfree, k, hk, rfl, hlower⟩
    refine ⟨hfree, fun j hj hnone => ?_⟩
    have hused := hlower j.val hj
    simp [hnone] at hused
  · rintro ⟨hfree, hlower⟩
    refine ⟨hfree, i.val, i.isLt.trans_eq List.length_finRange.symm, rfl, fun j hj => ?_⟩
    simpa [Option.isSome_iff_ne_none] using hlower ⟨j, hj.trans i.isLt⟩ hj

theorem freeSlot?_eq_none_iff : r.freeSlot? = none ↔ ∀ i, (r.slot i).owner ≠ none := by
  unfold freeSlot?
  simp [List.find?_eq_none]

/-- A registration that goes through takes the lowest free slot and empties its ring. -/
theorem register_eq_ok {r' : Registry} (h : r.register t = .ok r') :
    ∃ i, r.home t = none ∧ r.freeSlot? = some i ∧
      r' = (r.putSlot i ⟨some t, some (r.ringAt i).reset⟩).putHome t (some i) := by
  rw [register] at h
  split at h
  · cases h
  · next hhome =>
    split at h
    · cases h
    · next i hfree =>
      cases h
      exact ⟨i, by simpa using hhome, hfree, rfl⟩

theorem claims_of_register (hr : r.WellFormed) {r' : Registry} (h : r.register t = .ok r') :
    r.Claims t r' := by
  obtain ⟨old, hring⟩ := ringOf?_register hr h
  have hunread : ∀ caller, r'.readings caller t = [([], false)] := by
    intro caller
    have hshows : Option.Rel Ring.Shows (r'.ringOf? t) (some CutStack.empty) := by
      rw [hring, if_pos rfl]
      exact .some (Ring.shows_reset old)
    rw [readings_eq (hr.register h) hshows]
    rfl
  obtain ⟨i, -, hfree, rfl⟩ := register_eq_ok h
  obtain ⟨hnone, hlower⟩ := freeSlot?_eq_some_iff.mp hfree
  refine ⟨⟨i, hnone, hlower, ?_, ?_, fun j hj => ?_⟩, fun u hu => ?_, hunread⟩
  · simp
  · simp
  · simp [Ne.symm hj]
  · simp [hu]

theorem admits (hr : r.WellFormed) (t : ThreadId) : r.Admits t := by
  have hothers : r.home t = none → ∀ i, (r.slot i).owner ≠ none →
      ∃ u ≠ t, (r.slot i).owner = some u := by
    intro hhome i hused
    obtain ⟨u, hu⟩ := Option.ne_none_iff_exists'.mp hused
    refine ⟨u, ?_, hu⟩
    rintro rfl
    rw [(hr.home_eq_iff u i).mpr hu] at hhome
    cases hhome
  cases hhome : r.home t with
  | some i =>
    have hheld : r.register t = .error .alreadyRegistered := by simp [register, hhome]
    exact ⟨by simp [hheld, hhome], by simp [hheld, hhome], by simp [hhome]⟩
  | none =>
    cases hfree : r.freeSlot? with
    | none =>
      have hfull : r.register t = .error (.full capacity) := by simp [register, hhome, hfree]
      have hused := freeSlot?_eq_none_iff.mp hfree
      refine ⟨by simp [hfull, hhome], ?_, ?_⟩
      · exact ⟨fun _ => ⟨hhome, fun i => hothers hhome i (hused i)⟩, fun _ => hfull⟩
      · rintro - ⟨i, hi⟩
        exact absurd hi (hused i)
    | some i =>
      obtain ⟨r', hclaim⟩ : ∃ r', r.register t = .ok r' := by simp [register, hhome, hfree]
      refine ⟨by simp [hclaim, hhome], ?_, fun _ _ => ⟨r', hclaim, claims_of_register hr hclaim⟩⟩
      constructor
      · intro hfull
        rw [hclaim] at hfull
        cases hfull
      · rintro ⟨-, hused⟩
        obtain ⟨u, -, hu⟩ := hused i
        rw [owner_of_freeSlot? hfree] at hu
        cases hu

/-! ### The list of threads -/

theorem pairwise_threads (r : Registry) (caller : Option ThreadId) :
    (r.threads caller).Pairwise fun g h => g.slot < h.slot := by
  refine (List.pairwise_lt_finRange capacity).filterMap _ fun i j hij g hg h hh => ?_
  obtain ⟨_, _, rfl⟩ := Option.map_eq_some_iff.mp hg
  obtain ⟨_, _, rfl⟩ := Option.map_eq_some_iff.mp hh
  exact hij

theorem home_of_mem_threads (hr : r.WellFormed) {h : ThreadHandle} (hmem : h ∈ r.threads caller) :
    r.home h.thread = some h.slot :=
  (hr.home_eq_iff _ _).mpr (mem_threads_iff.mp hmem).1

theorem handle_mem_threads (hr : r.WellFormed) {i : SlotIndex} (ht : r.home t = some i) :
    ⟨i, t, decide (caller = some t)⟩ ∈ r.threads caller :=
  mem_threads_iff.mpr ⟨(hr.home_eq_iff t i).mp ht, rfl⟩

theorem count_threads (hr : r.WellFormed) (caller : Option ThreadId) (t : ThreadId) :
    ((r.threads caller).map ThreadHandle.thread).count t =
      if (r.home t).isSome then 1 else 0 := by
  have hcount : ((r.threads caller).map ThreadHandle.thread).count t =
      ((r.threads caller).filter (·.thread = t)).length := by
    rw [List.count, List.countP_map, List.countP_eq_length_filter]
    rfl
  rw [hcount]
  cases ht : r.home t with
  | none => rw [filter_threads_of_unregistered hr ht]; rfl
  | some i => rw [filter_threads_of_registered hr ht]; rfl

/-- Only the handle of the caller is marked, so the first marked handle is the only one. -/
theorem current?_eq_some_iff (hr : r.WellFormed) {h : ThreadHandle} :
    r.current? caller = some h ↔ h ∈ r.threads caller ∧ h.isCurrent := by
  constructor
  · intro hcurrent
    exact ⟨List.mem_of_find?_eq_some hcurrent, List.find?_some hcurrent⟩
  · rintro ⟨hmem, hmark⟩
    obtain ⟨g, hg⟩ : ∃ g, r.current? caller = some g :=
      Option.isSome_iff_exists.mp (List.find?_isSome.mpr ⟨h, hmem, hmark⟩)
    have hgmem := List.mem_of_find?_eq_some hg
    have hgmark : g.isCurrent := List.find?_some hg
    have hg' := (mem_threads_iff.mp hgmem).2
    have hh' := (mem_threads_iff.mp hmem).2
    rw [hgmark] at hg'
    rw [hmark] at hh'
    have hthread : g.thread = h.thread :=
      Option.some.inj ((of_decide_eq_true hg'.symm).symm.trans (of_decide_eq_true hh'.symm))
    have hslot : g.slot = h.slot := by
      have hhome := home_of_mem_threads hr hgmem
      rw [hthread, home_of_mem_threads hr hmem] at hhome
      exact (Option.some.inj hhome).symm
    have hgh : g = h := by
      obtain ⟨_, _, _⟩ := g
      obtain ⟨_, _, _⟩ := h
      simp_all
    rw [hg, hgh]

theorem lists (hr : r.WellFormed) (caller : Option ThreadId) : r.Lists caller where
  ordered := pairwise_threads r caller
  once := count_threads hr caller
  marked _ hmem := ⟨home_of_mem_threads hr hmem, (mem_threads_iff.mp hmem).2⟩
  current _ := current?_eq_some_iff hr

/-- Threads are listed in the order of their slots. -/
theorem before_iff (hr : r.WellFormed) :
    r.Before caller t u ↔ ∃ i j, r.home t = some i ∧ r.home u = some j ∧ i < j := by
  constructor
  · intro h
    obtain ⟨hs, hsub, heq⟩ := List.sublist_map_iff.mp h
    obtain ⟨g, k, rfl⟩ : ∃ g k, hs = [g, k] :=
      List.length_eq_two.mp (by simpa using (congrArg List.length heq).symm)
    obtain ⟨rfl, rfl⟩ : t = g.thread ∧ u = k.thread := by simpa using heq
    refine ⟨g.slot, k.slot, home_of_mem_threads hr (hsub.subset ?_),
      home_of_mem_threads hr (hsub.subset ?_), ?_⟩
    · exact List.mem_cons_self
    · exact List.mem_cons_of_mem g (List.mem_singleton_self k)
    · have hpair := (pairwise_threads r caller).sublist hsub
      rwa [List.pairwise_pair] at hpair
  · rintro ⟨i, j, hi, hj, hij⟩
    have hpair : [ThreadHandle.mk i t (decide (caller = some t)),
        ⟨j, u, decide (caller = some u)⟩].Sublist (r.threads caller) := by
      have : Std.Antisymm fun g h : ThreadHandle => g.slot < h.slot :=
        ⟨fun _ _ h h' => absurd h' (lt_asymm h)⟩
      refine List.sublist_of_subperm_of_pairwise (List.subperm_of_subset ?_ ?_)
        (List.pairwise_pair.mpr hij) (pairwise_threads r caller)
      · rw [List.nodup_cons, List.mem_singleton, ThreadHandle.mk.injEq]
        exact ⟨fun h => absurd h.1 (ne_of_lt hij), List.nodup_singleton _⟩
      · intro h hmem
        rcases List.mem_pair.mp hmem with rfl | rfl
        · exact handle_mem_threads hr hi
        · exact handle_mem_threads hr hj
    exact hpair.map ThreadHandle.thread

/-! ### Operations on frames -/

theorem slot_changeRing (r : Registry) (t : ThreadId) (change : Ring → Ring) (i : SlotIndex) :
    (r.changeRing t change).slot i =
      if r.home t = some i then { r.slot i with ring := (r.slot i).ring.map change }
      else r.slot i := by
  unfold changeRing
  cases ht : r.home t with
  | none => simp
  | some j =>
    by_cases hij : j = i
    · subst hij
      simp
    · simp [hij]

@[simp] theorem home_changeRing (r : Registry) (t : ThreadId) (change : Ring → Ring) :
    (r.changeRing t change).home = r.home := by
  unfold changeRing
  split
  · rfl
  · rfl

@[simp] theorem home_enter (r : Registry) (t : ThreadId) (f : Frame) :
    (r.enter t f).2.home = r.home := by
  unfold enter
  split
  · exact home_changeRing r t _
  · rfl

@[simp] theorem home_setLine (r : Registry) (t : ThreadId) (g : FrameGuard) (line : UInt32) :
    (r.setLine t g line).home = r.home := by
  unfold setLine
  split
  · exact home_changeRing r t _
  · rfl

@[simp] theorem home_leave (r : Registry) (t : ThreadId) (g : FrameGuard) :
    (r.leave t g).home = r.home := by
  unfold leave
  split
  · exact home_changeRing r t _
  · rfl

end Registry

/-! ### Slots along a run -/

namespace Recording

open Registry (SlotIndex)

variable {s : Recording} {t u : ThreadId}

/-- A thread does not unregister. -/
def Stays (t : ThreadId) (actions : List (ThreadId × ThreadAction)) : Prop :=
  (t, .unregister) ∉ actions

/-- A thread that has a slot keeps it until it unregisters. -/
theorem home_step {i : SlotIndex} (h : s.registry.home t = some i) {a : ThreadAction}
    (ha : (u, a) ≠ (t, .unregister)) : (s.step u a).registry.home t = some i := by
  cases a with
  | register =>
    simp only [step]
    split
    · next r hr =>
      obtain ⟨j, hu, -, rfl⟩ := Registry.register_eq_ok hr
      have hne : t ≠ u := by
        rintro rfl
        rw [h] at hu
        cases hu
      simp [hne, h]
    · exact h
  | unregister =>
    have hne : t ≠ u := by
      rintro rfl
      exact ha rfl
    simp only [step, Registry.unregister]
    split
    · exact h
    · simp [hne, h]
  | enter f => simpa [step] using h
  | setLine g line =>
    simp only [step]
    split
    · simpa using h
    · exact h
  | drop g =>
    simp only [step]
    split
    · simpa using h
    · exact h
  | forget g => exact h

theorem home_run {i : SlotIndex} (h : s.registry.home t = some i)
    {actions : List (ThreadId × ThreadAction)} (hstays : Stays t actions) :
    (s.run actions).registry.home t = some i := by
  induction actions generalizing s with
  | nil => exact h
  | cons first rest ih =>
    obtain ⟨hfirst, hrest⟩ := not_or.mp (mt List.mem_cons.mpr hstays)
    exact ih (home_step h (Ne.symm hfirst)) hrest

theorem wellFormed_run (actions : List (ThreadId × ThreadAction)) :
    (initial.run actions).registry.WellFormed :=
  (kept_initial.run actions).wellFormed

theorem run_append (s : Recording) (actions later : List (ThreadId × ThreadAction)) :
    s.run (actions ++ later) = (s.run actions).run later :=
  List.foldl_append ..

/-- Threads that register one after the other get the slots in this order. -/
theorem owner_registered {ts : List ThreadId} (hnodup : ts.Nodup)
    (hroom : ts.length ≤ Registry.capacity) (j : SlotIndex) :
    ((initial.run (ts.map (·, .register))).registry.slot j).owner = ts[j.val]? := by
  induction ts using List.reverseRecOn generalizing j with
  | nil => simp [run, initial]
  | append_singleton ts t ih =>
    rw [List.length_append, List.length_singleton] at hroom
    obtain ⟨hts, -, hnew⟩ := List.nodup_append.mp hnodup
    have ih := ih hts (by omega)
    rw [List.map_append, run_append]
    set s := initial.run (ts.map (·, .register)) with hs
    have hr : s.registry.WellFormed := wellFormed_run _
    have hhome : s.registry.home t = none := by
      rw [Option.eq_none_iff_forall_ne_some]
      intro i hi
      have howner := (hr.home_eq_iff t i).mp hi
      rw [ih i] at howner
      exact hnew t (List.mem_of_getElem? howner) t (List.mem_singleton_self t) rfl
    have hlast : (s.registry.slot ⟨ts.length, hroom⟩).owner = none := by
      rw [ih]
      exact List.getElem?_eq_none le_rfl
    obtain ⟨r', hregister, hclaims⟩ := (Registry.admits hr t).claims hhome ⟨_, hlast⟩
    obtain ⟨i, hfree, hlower, -, howner, hothers⟩ := hclaims.lowest
    have hi : i.val = ts.length := by
      rw [ih] at hfree
      have hle := List.getElem?_eq_none_iff.mp hfree
      by_contra hne
      exact hlower ⟨ts.length, hroom⟩ (Nat.lt_of_le_of_ne hle (Ne.symm hne)) hlast
    have hstep : s.run [(t, .register)] = { s with registry := r' } := by
      simp [run, step, hregister]
    rw [List.map_singleton, hstep]
    by_cases hj : j = i
    · subst hj
      rw [howner, hi, List.getElem?_concat_length]
    · have hne : j.val ≠ ts.length := fun h => hj (Fin.ext (h.trans hi.symm))
      rw [hothers j hj, ih, List.getElem?_append]
      split
      · rfl
      · next hge =>
        have hlt : 0 < j.val - ts.length := by omega
        rw [List.getElem?_eq_none (Nat.le_of_not_lt hge),
          List.getElem?_eq_none (l := [t]) hlt]

/-- Whatever any number of threads do: both records of ownership agree and no thread has two
slots; a registration is refused or takes the lowest free slot; the list has every registered
thread once, and marks the caller; and a thread keeps its slot, and so its place among the threads
listed, for as long as it stays registered. -/
theorem slots_run (actions : List (ThreadId × ThreadAction)) :
    let r := (initial.run actions).registry
    (∀ t i, r.home t = some i ↔ (r.slot i).owner = some t ∧ (r.slot i).ring.isSome) ∧
    (∀ t i j, (r.slot i).owner = some t → (r.slot j).owner = some t → i = j) ∧
    (∀ t, r.Admits t) ∧ (∀ caller, r.Lists caller) ∧
    ∀ later,
      let r' := (initial.run (actions ++ later)).registry
      (∀ t i, r.home t = some i → Stays t later → r'.home t = some i) ∧
      ∀ caller t u, (r.home t).isSome → (r.home u).isSome → Stays t later → Stays u later →
        (r'.Before caller t u ↔ r.Before caller t u) := by
  intro r
  have hr : r.WellFormed := wellFormed_run actions
  refine ⟨fun t i => ?_, fun t i j hi hj => ?_, Registry.admits hr, Registry.lists hr,
    fun later => ?_⟩
  · rw [hr.home_eq_iff]
    exact ⟨fun ho => ⟨ho, hr.ring_isSome i (by simp [ho])⟩, And.left⟩
  · have hhome := (hr.home_eq_iff t i).mpr hi
    rw [(hr.home_eq_iff t j).mpr hj] at hhome
    exact (Option.some.inj hhome).symm
  · intro r'
    have hkeeps : ∀ t i, r.home t = some i → Stays t later → r'.home t = some i := by
      intro t i ht hstays
      show (initial.run (actions ++ later)).registry.home t = some i
      rw [run_append]
      exact home_run ht hstays
    refine ⟨hkeeps, fun caller t u ht hu hstays hstays' => ?_⟩
    obtain ⟨i, hi⟩ := Option.isSome_iff_exists.mp ht
    obtain ⟨j, hj⟩ := Option.isSome_iff_exists.mp hu
    rw [Registry.before_iff (wellFormed_run _), Registry.before_iff hr, hi, hj,
      hkeeps t i hi hstays, hkeeps u j hj hstays']

end Recording

end CrashTrace
