import CrashTrace.Proofs.Registry.SlotHistory

/-!
# Reading through handles

A handle is kept for any time while threads register, unregister and record frames. It has no
generation: reading it compares the thread with the owner of the slot. A thread has one slot at a
time and starts there with an empty stack, so this is enough. The handle reads what its thread
shows now, or nothing.

## Main results

- `Registry.snapshot_of_owned`, `Registry.snapshot_of_not_owned` — reading a handle in any registry
- `SlotHistory.Life.enteredBy_of_take` — the frames of a stack were entered by the owner of its slot
- `Recording.snapshot_run` — reading a handle after any run
-/

namespace CrashTrace

namespace Cursor

variable {r : Ring} {c : Cursor}

/-- A walk goes outwards only. -/
theorem next_next?_le (r : Ring) (c : Cursor) : (c.next? r).2.next ≤ c.next := by
  rw [next?]
  split
  · exact le_rfl
  · next hb =>
    have hstop : c.stop.next ≤ c.next := Nat.le_of_not_le hb
    split
    · split
      · exact Nat.sub_le _ _
      · exact hstop
    · exact hstop

/-- A request that finds a frame has looked one further out. -/
theorem next_of_next? {f : Frame} (h : (c.next? r).1 = some f) :
    0 < c.next ∧ (c.next? r).2.next = c.next - 1 := by
  obtain ⟨cell, hcell, hindex, -⟩ := Ring.cell_of_next? h
  by_cases hb : c.next ≤ c.bottom
  · rw [next?, if_pos hb] at h
    cases h
  · exact ⟨by omega, by simp [next?, hb, hcell, hindex]⟩

theorem take_done (r : Ring) (n : Nat) : done.take r n = ([], done) := by
  cases n with
  | zero => rfl
  | succ n => rfl

end Cursor

/-! ### Any registry -/

namespace Registry

variable {r : Registry} {h : ThreadHandle}

/-- A handle of a slot that its thread owns reads the same as a handle obtained now. -/
theorem snapshot_of_owned (hr : r.WellFormed) (hhome : r.home h.thread = some h.slot)
    (caller : Option ThreadId) :
    r.readings caller h.thread = [((r.snapshot h).frames, (r.snapshot h).truncated)] := by
  rw [readings, filter_threads_of_registered hr hhome]
  rfl

theorem snapshot_of_not_owned (hr : r.WellFormed) (hhome : r.home h.thread ≠ some h.slot) :
    (r.snapshot h).frames = [] ∧ (r.snapshot h).truncated = false := by
  have howner : (r.slot h.slot).owner ≠ some h.thread := mt (hr.home_eq_iff _ _).mpr hhome
  have hdrain := Cursor.take_done (r.ringAt h.slot) (Cursor.done.next + 1)
  rw [← Cursor.drain] at hdrain
  rw [snapshot, walk, if_neg howner, hdrain]
  exact ⟨rfl, rfl⟩

end Registry

/-! ### Who entered the frames -/

/-- All frames that a walk gives one after the other were entered by the owner, each at the depth
at which it is found. -/
theorem SlotHistory.Life.enteredBy_of_take {past : SlotHistory} {t : ThreadId}
    (hlife : past.Life (some t)) {c : Cursor} (hc : c.next ≤ past.ringAfter.depth) {n j : Nat}
    {f : Frame} (hf : (c.take past.ringAfter n).1[j]? = some f) :
    past.EnteredBy (c.next - (j + 1)) t f := by
  induction n generalizing c j with
  | zero => cases hf
  | succ n ih =>
    rw [Cursor.take] at hf
    split at hf
    · cases hf
    · next g c' hnext =>
      have hg : (c.next? past.ringAfter).1 = some g := by rw [hnext]
      obtain ⟨hpos, hfurther⟩ := Cursor.next_of_next? hg
      rw [hnext] at hfurther
      have hfurther : c'.next = c.next - 1 := hfurther
      cases j with
      | zero =>
        obtain rfl : g = f := Option.some.inj hf
        obtain ⟨u, hu⟩ := hlife.exists_enteredBy hg
        obtain rfl := hlife.enteredBy_owner (by omega) hu
        exact hu
      | succ j =>
        have hrest := ih (c := c') (by omega) hf
        rwa [hfurther, Nat.sub_sub, Nat.add_comm 1] at hrest

/-! ### Runs -/

namespace Recording

/-- Reading a handle after a run, whenever it was obtained. As long as its thread has the slot of
the handle, it gives what a reader learns of the thread now, and that is what the account of the
thread tells. Otherwise it gives an empty stack without a mark. Each frame that it gives was
entered by the thread of the handle and by no other, at the depth at which it stands. -/
theorem snapshot_run (actions : List (ThreadId × ThreadAction)) (h : ThreadHandle) :
    let r := (initial.run actions).registry
    (r.home h.thread = some h.slot →
      (∀ caller,
        r.readings caller h.thread = [((r.snapshot h).frames, (r.snapshot h).truncated)]) ∧
      (Account.initial.run (initial.own h.thread actions)).stack.map CutStack.reading =
        some ((r.snapshot h).frames, (r.snapshot h).truncated)) ∧
    (r.home h.thread ≠ some h.slot →
      (r.snapshot h).frames = [] ∧ (r.snapshot h).truncated = false) ∧
    ∀ j f, (r.snapshot h).frames[j]? = some f → ∀ t,
      (history actions h.slot).EnteredBy ((r.ringAt h.slot).depth - (j + 1)) t f ↔
        t = h.thread := by
  intro r
  have hr : r.WellFormed := wellFormed_run actions
  refine ⟨fun hhome => ⟨Registry.snapshot_of_owned hr hhome, ?_⟩,
    Registry.snapshot_of_not_owned hr, fun j f hf t => ?_⟩
  · have hreadings : r.readings none h.thread = _ :=
      Registry.readings_eq hr ((kept_initial.run actions).shows h.thread)
    rw [Registry.snapshot_of_owned hr hhome] at hreadings
    generalize (Account.initial.run (initial.own h.thread actions)).stack = stack at hreadings
    cases stack with
    | none => cases hreadings
    | some stack => exact congrArg List.head? hreadings.symm
  · by_cases hhome : r.home h.thread = some h.slot
    · have howner := (hr.home_eq_iff _ _).mp hhome
      obtain ⟨hlife, hring⟩ := traced_run actions h.slot
      have hring' : r.ringAt h.slot = (history actions h.slot).ringAfter := hring
      rw [howner] at hlife
      simp only [Registry.snapshot, Registry.walk, if_pos howner, hring'] at hf
      have hentered := hlife.enteredBy_of_take le_rfl hf
      rw [hring']
      constructor
      · exact fun ht => ht.unique hentered
      · rintro rfl
        exact hentered
    · rw [(Registry.snapshot_of_not_owned hr hhome).1] at hf
      cases hf

end Recording

end CrashTrace
