import CrashTrace.Registry.Handle

/-!
# Who owns which slot

Ownership of a slot is recorded in the slot and with the thread. Registering and unregistering keep
the two records together, so the ring of a thread is its own: what happens on one thread leaves the
rings of the others alone.

## Main definitions

- `Registry.WellFormed` — the two records agree, and a slot with an owner has its ring
- `Registry.ringOf?_register`, `Registry.ringOf?_unregister`, `Registry.ringOf?_changeRing` — the
  ring of every thread after an operation of one of them
-/

namespace CrashTrace.Registry

/-- The records of ownership agree, and a slot that has an owner has been set up. -/
structure WellFormed (r : Registry) : Prop where
  home_eq_iff : ∀ t i, r.home t = some i ↔ (r.slot i).owner = some t
  ring_isSome : ∀ i, (r.slot i).owner.isSome → (r.slot i).ring.isSome

variable {r : Registry} {t u : ThreadId}

@[simp] theorem slot_empty (i : SlotIndex) : Registry.empty.slot i = ⟨none, none⟩ :=
  Vector.getElem_replicate i.isLt

theorem owner_of_freeSlot? {i : SlotIndex} (h : r.freeSlot? = some i) :
    (r.slot i).owner = none := by
  simpa using List.find?_some h

namespace WellFormed

theorem empty : Registry.empty.WellFormed where
  home_eq_iff t i := by
    have hhome : Registry.empty.home t = none := rfl
    simp [hhome]
  ring_isSome i h := by simp at h

/-- Two threads do not own the same slot. -/
theorem home_inj (h : r.WellFormed) {i : SlotIndex} (ht : r.home t = some i)
    (hu : r.home u = some i) : t = u := by
  have ho := (h.home_eq_iff t i).mp ht
  exact Option.some.inj (ho.symm.trans ((h.home_eq_iff u i).mp hu))

theorem ring_eq_ringAt (h : r.WellFormed) {i : SlotIndex} (ht : r.home t = some i) :
    r.ringOf? t = some (r.ringAt i) := by
  have ho := (h.home_eq_iff t i).mp ht
  obtain ⟨ring, hring⟩ := Option.isSome_iff_exists.mp (h.ring_isSome i (by simp [ho]))
  simp [ringOf?, ringAt, ht, hring]

/-- Replacing a slot together with the record of its owner. -/
theorem claim (h : r.WellFormed) {i : SlotIndex} (hi : (r.slot i).owner = none)
    (ht : r.home t = none) (ring : Ring) :
    ((r.putSlot i ⟨some t, some ring⟩).putHome t (some i)).WellFormed where
  home_eq_iff u j := by
    have hu := h.home_eq_iff u j
    by_cases hut : u = t
    · subst hut
      by_cases hij : i = j
      · subst hij
        simp
      · have hj : (r.slot j).owner ≠ some u := fun ho => by simp [hu.mpr ho] at ht
        simp [hij, hj]
    · by_cases hij : i = j
      · subst hij
        have hhome : r.home u ≠ some i := fun he => by simp [hu.mp he] at hi
        simp [hut, hhome, Ne.symm hut]
      · simpa [hut, hij] using hu
  ring_isSome j hj := by
    by_cases hij : i = j
    · simp [hij]
    · simpa [hij] using h.ring_isSome j (by simpa [hij] using hj)

/-- Taking the owner away from a slot, with the record of it. -/
theorem release (h : r.WellFormed) {i : SlotIndex} (ht : r.home t = some i)
    (ring? : Option Ring) :
    ((r.putSlot i ⟨none, ring?⟩).putHome t none).WellFormed where
  home_eq_iff u j := by
    have hu := h.home_eq_iff u j
    by_cases hij : i = j
    · subst hij
      by_cases hut : u = t
      · simp [hut]
      · have hhome : r.home u ≠ some i := fun he => hut (h.home_inj he ht)
        simp [hut, hhome]
    · by_cases hut : u = t
      · subst hut
        have hj : (r.slot j).owner ≠ some u := fun ho => by
          rw [hu.mpr ho] at ht
          exact hij (Option.some.inj ht).symm
        simp [hij, hj]
      · simpa [hut, hij] using hu
  ring_isSome j hj := by
    by_cases hij : i = j
    · simp [hij] at hj
    · simpa [hij] using h.ring_isSome j (by simpa [hij] using hj)

theorem register (h : r.WellFormed) {r' : Registry} (hr : r.register t = .ok r') :
    r'.WellFormed := by
  rw [Registry.register] at hr
  split at hr
  · cases hr
  · rename_i hhome
    split at hr
    · cases hr
    · rename_i i hfree
      cases hr
      exact h.claim (owner_of_freeSlot? hfree) (by simpa using hhome) _

theorem unregister (h : r.WellFormed) (t : ThreadId) : (r.unregister t).WellFormed := by
  rw [Registry.unregister]
  split
  · exact h
  · rename_i i hi
    exact h.release hi _

theorem changeRing (h : r.WellFormed) (t : ThreadId) (change : Ring → Ring) :
    (r.changeRing t change).WellFormed := by
  rw [Registry.changeRing]
  split
  · exact h
  · rename_i i hi
    refine ⟨fun u j => ?_, fun j hj => ?_⟩
    · have hu := h.home_eq_iff u j
      by_cases hij : i = j
      · subst hij
        simpa using hu
      · simpa [hij] using hu
    · by_cases hij : i = j
      · subst hij
        simpa using h.ring_isSome i (by simpa using hj)
      · simpa [hij] using h.ring_isSome j (by simpa [hij] using hj)

end WellFormed

/-! ### The rings of the threads after an operation -/

/-- A thread that registers starts with an empty ring; the other threads keep theirs. -/
theorem ringOf?_register (h : r.WellFormed) {r' : Registry} (hr : r.register t = .ok r') :
    ∃ old : Ring, ∀ u, r'.ringOf? u = if u = t then some old.reset else r.ringOf? u := by
  rw [register] at hr
  split at hr
  · cases hr
  · split at hr
    · cases hr
    · rename_i i hfree
      cases hr
      refine ⟨(r.slot i).ring.getD Ring.empty, fun u => ?_⟩
      by_cases hut : u = t
      · simp [ringOf?, hut]
      · cases hu : r.home u with
        | none => simp [ringOf?, hut, hu]
        | some j =>
          have hij : i ≠ j := by
            rintro rfl
            have ho := owner_of_freeSlot? hfree
            rw [(h.home_eq_iff u i).mp hu] at ho
            cases ho
          simp [ringOf?, hut, hu, hij]

/-- A thread that unregisters has no ring; the other threads keep theirs. -/
theorem ringOf?_unregister (h : r.WellFormed) (t u : ThreadId) :
    (r.unregister t).ringOf? u = if u = t then none else r.ringOf? u := by
  rw [unregister]
  cases ht : r.home t with
  | none =>
    by_cases hut : u = t
    · simp [ringOf?, hut, ht]
    · simp [hut]
  | some i =>
    by_cases hut : u = t
    · simp [ringOf?, hut]
    · cases hu : r.home u with
      | none => simp [ringOf?, hut, hu]
      | some j =>
        have hij : i ≠ j := by
          rintro rfl
          exact hut (h.home_inj hu ht)
        simp [ringOf?, hut, hu, hij]

/-- Changing the ring of a thread leaves the rings of the others alone. -/
theorem ringOf?_changeRing (h : r.WellFormed) (t u : ThreadId) (change : Ring → Ring) :
    (r.changeRing t change).ringOf? u =
      if u = t then (r.ringOf? t).map change else r.ringOf? u := by
  rw [changeRing]
  cases ht : r.home t with
  | none =>
    by_cases hut : u = t
    · simp [ringOf?, hut, ht]
    · simp [hut]
  | some i =>
    by_cases hut : u = t
    · simp [ringOf?, hut, ht]
    · cases hu : r.home u with
      | none => simp [ringOf?, hut, hu]
      | some j =>
        have hij : i ≠ j := by
          rintro rfl
          exact hut (h.home_inj hu ht)
        simp [ringOf?, hut, hu, hij]

/-! ### Handles -/

theorem mem_threads_iff {caller : Option ThreadId} {h : ThreadHandle} :
    h ∈ r.threads caller ↔
      (r.slot h.slot).owner = some h.thread ∧ h.isCurrent = decide (caller = some h.thread) := by
  simp only [threads, List.mem_filterMap, List.mem_finRange, true_and, handleAt?,
    Option.map_eq_some_iff]
  constructor
  · rintro ⟨i, v, hv, rfl⟩
    exact ⟨hv, rfl⟩
  · rintro ⟨ho, hc⟩
    exact ⟨h.slot, h.thread, ho, by rw [← hc]⟩

/-- A handle of a registered thread reads the ring of that thread. -/
theorem snapshot_of_owner (hr : r.WellFormed) {h : ThreadHandle}
    (ho : (r.slot h.slot).owner = some h.thread) :
    ∃ ring, r.ringOf? h.thread = some ring ∧
      (r.snapshot h).frames = (ring.cursor.drain ring).1 ∧
      (r.snapshot h).truncated = (ring.cursor.drain ring).2.truncated :=
  ⟨r.ringAt h.slot, hr.ring_eq_ringAt ((hr.home_eq_iff _ _).mpr ho),
    by simp [snapshot, walk, ho], by simp [snapshot, walk, ho]⟩

end CrashTrace.Registry
