import CrashTrace.Proofs.Registry.Handles

/-!
# Walks that are paused

A walk over the frames of a handle compares the thread with the owner of the slot only when it
begins. While it is paused the slot may get another owner, who writes to the same cells. A cell
tells its depth but not its owner, so the walk then gives a frame of the other thread if that
thread has entered one at the very depth at which the walk stands.

## Main definitions

- `Recording.Walked` — the walks that can be going on after the walk over a handle began
- `Recording.Crosses` — some walk gives a frame of another thread
- `SlotHistory.Uses` — a thread has entered a frame in a slot

## Main results

- `Recording.exists_crossing` — a walk can give a frame of another thread
- `Recording.crosses_iff` — whose frames a walk gives, and when it can be those of another thread
-/

namespace CrashTrace

open Registry (SlotIndex)

namespace SlotHistory

/-- A thread has entered a frame in the slot. -/
def Uses (past : SlotHistory) (t : ThreadId) : Prop := ∃ f, (t, .push f) ∈ past

variable {past : SlotHistory} {t : ThreadId} {k : Nat} {f : Frame}

theorem EnteredBy.uses (h : EnteredBy past k t f) : past.Uses t := by
  obtain ⟨g, horigin, -⟩ := h
  exact ⟨g, mem_of_origin horigin⟩

theorem Uses.append (h : past.Uses t) (new : SlotHistory) : Uses (new ++ past) t := by
  obtain ⟨f, hmem⟩ := h
  exact ⟨f, List.mem_append_right new hmem⟩

/-- An owner that has entered no frame in its slot has none on its stack. -/
theorem Life.depth_of_not_uses (h : Life past (some t)) (hunused : ¬ past.Uses t) :
    (ringAfter past).depth = 0 := by
  by_contra hdepth
  obtain ⟨cell, hcell⟩ := h.origin_owner (Nat.pos_of_ne_zero hdepth)
  exact hunused ⟨cell.frame, mem_of_origin hcell⟩

end SlotHistory

namespace Recording

open SlotHistory (Uses)

variable {begun since : List (ThreadId × ThreadAction)} {h : ThreadHandle} {w : Walk}

/-- The walks that can be going on if the walk over a handle began after the actions `begun`, and
`since` is what the threads have done since then. Each was asked for frames at any moments. -/
inductive Walked (h : ThreadHandle) (begun : List (ThreadId × ThreadAction)) :
    List (ThreadId × ThreadAction) → Walk → Prop
  | start : Walked h begun [] ((initial.run begun).registry.walk h)
  | act {since : List (ThreadId × ThreadAction)} {w : Walk} (action : ThreadId × ThreadAction) :
      Walked h begun since w → Walked h begun (since ++ [action]) w
  | ask {since : List (ThreadId × ThreadAction)} {w : Walk} : Walked h begun since w →
      Walked h begun since ((initial.run (begun ++ since)).registry.advance 1 w).2

/-- After some actions a walk gives a frame when it is asked for one, and `t` has entered that
frame, at the depth at which the walk stands. -/
def GivesOf (actions : List (ThreadId × ThreadAction)) (w : Walk) (f : Frame) (t : ThreadId) :
    Prop :=
  ((initial.run actions).registry.advance 1 w).1 = [f] ∧
    (history actions w.slot).EnteredBy (w.cursor.next - 1) t f

/-- In the course of some actions a walk over a handle gives a frame of another thread. -/
def Crosses (actions : List (ThreadId × ThreadAction)) : Prop :=
  ∃ begun since h w f t, (begun ++ since) <+: actions ∧ Walked h begun since w ∧
    GivesOf (begun ++ since) w f t ∧ t ≠ h.thread

/-! ### What a walk gives -/

theorem advance_one (r : Registry) (w : Walk) :
    r.advance 1 w =
      ((w.cursor.next? (r.ringAt w.slot)).1.toList,
        { w with cursor := (w.cursor.next? (r.ringAt w.slot)).2 }) := by
  rcases hnext : w.cursor.next? (r.ringAt w.slot) with ⟨_ | f, c⟩
  · simp [Registry.advance, Cursor.take, hnext]
  · simp [Registry.advance, Cursor.take, hnext]

/-- All depths that a walk still looks at were those of frames of its thread when it began. -/
theorem Walked.origin (hw : Walked h begun since w) : w.slot = h.slot ∧
    ∀ k < w.cursor.next, ∃ cell, (history begun h.slot).origin k = some (h.thread, cell) := by
  induction hw with
  | start =>
    rw [Registry.walk]
    split
    · next howner =>
      obtain ⟨hlife, hring⟩ := traced_run begun h.slot
      rw [howner] at hlife
      refine ⟨rfl, fun k hk => hlife.origin_owner ?_⟩
      rwa [← hring]
    · exact ⟨rfl, fun k hk => absurd hk (Nat.not_lt_zero k)⟩
  | act action _ ih => exact ih
  | ask _ ih =>
    rw [advance_one]
    exact ⟨ih.1, fun k hk => ih.2 k (hk.trans_le (Cursor.next_next?_le _ _))⟩

/-- A frame that a walk gives was entered by some thread. -/
theorem exists_givesOf {actions : List (ThreadId × ThreadAction)} {f : Frame}
    (hgives : ((initial.run actions).registry.advance 1 w).1 = [f]) :
    0 < w.cursor.next ∧ ∃ t, GivesOf actions w f t := by
  obtain ⟨hlife, hring⟩ := traced_run actions w.slot
  have hnext := hgives
  rw [advance_one, hring] at hnext
  have hsome : (w.cursor.next? (history actions w.slot).ringAfter).1 = some f :=
    Option.toList_eq_singleton_iff.mp hnext
  obtain ⟨t, ht⟩ := hlife.exists_enteredBy hsome
  exact ⟨(Cursor.next_of_next? hsome).1, t, hgives, ht⟩

/-- A frame that a walk gives is one of its thread, or was entered since the walk began. -/
theorem Walked.thread_or_entered (hw : Walked h begun since w) {f : Frame} {t : ThreadId}
    (hpos : 0 < w.cursor.next) (hgives : GivesOf (begun ++ since) w f t) :
    t = h.thread ∨ ∃ g, (t, .enter g) ∈ since ∧ g.code = f.code := by
  obtain ⟨hslot, horigins⟩ := hw.origin
  obtain ⟨-, g, horigin, hcode, -⟩ := hgives
  rw [hslot, history_append] at horigin
  rcases SlotHistory.origin_append horigin with hnew | hold
  · exact .inr ⟨g, mem_of_push_mem_added hnew, hcode.symm⟩
  · obtain ⟨cell, hcell⟩ := horigins (w.cursor.next - 1) (Nat.sub_lt hpos Nat.one_pos)
    rw [hold] at hcell
    exact .inl (congrArg Prod.fst (Option.some.inj hcell))

theorem Crosses.uses {actions : List (ThreadId × ThreadAction)} (hc : Crosses actions) :
    ∃ i t u, t ≠ u ∧ (history actions i).Uses t ∧ (history actions i).Uses u := by
  obtain ⟨begun, since, h, w, f, t, ⟨rest, rfl⟩, hw, hgives, hne⟩ := hc
  obtain ⟨hslot, horigins⟩ := hw.origin
  obtain ⟨hpos, -⟩ := exists_givesOf hgives.1
  obtain ⟨cell, hcell⟩ := horigins (w.cursor.next - 1) (Nat.sub_lt hpos Nat.one_pos)
  have hown : (history begun h.slot).Uses h.thread := ⟨_, SlotHistory.mem_of_origin hcell⟩
  have hother := hgives.2.uses
  rw [hslot] at hother
  refine ⟨h.slot, t, h.thread, hne, ?_, ?_⟩
  · rw [history_append]
    exact hother.append _
  · rw [history_append, history_append]
    exact (hown.append _).append _

/-! ### The first frame of a thread in a slot -/

variable {i : SlotIndex} {t u : ThreadId} {a : ThreadAction}
  {actions : List (ThreadId × ThreadAction)}

/-- Some action was the first with which a thread entered a frame in a slot. -/
theorem exists_first_use (h : (history actions i).Uses t) :
    ∃ earlier a, (earlier ++ [(t, a)]) <+: actions ∧ ¬ (history earlier i).Uses t ∧
      (history (earlier ++ [(t, a)]) i).Uses t := by
  induction actions using List.reverseRecOn with
  | nil =>
    obtain ⟨f, hmem⟩ := h
    cases hmem
  | append_singleton earlier last ih =>
    by_cases hbefore : (history earlier i).Uses t
    · obtain ⟨start, a, hpre, hfirst⟩ := ih hbefore
      exact ⟨start, a, hpre.trans (List.prefix_append _ _), hfirst⟩
    · obtain ⟨u, a⟩ := last
      have hafter := h
      obtain ⟨f, hmem⟩ := h
      rw [history_concat, List.mem_append] at hmem
      rcases hmem with hnew | hold
      · obtain ⟨rfl, -⟩ := mem_touch_iff.mp hnew
        exact ⟨earlier, a, List.prefix_refl _, hbefore, hafter⟩
      · exact absurd ⟨f, hold⟩ hbefore

/-- The slot has its owner's first frame in the cell of depth zero. -/
structure Opened (actions : List (ThreadId × ThreadAction)) (i : SlotIndex) (t : ThreadId) :
    Prop where
  owner : ((initial.run actions).registry.slot i).owner = some t
  depth : ((initial.run actions).registry.ringAt i).depth = 1
  cell : ∃ f, ((initial.run actions).registry.ringAt i).cellFor 0 = some ⟨0, f⟩ ∧
    (history actions i).EnteredBy 0 t f

/-- A thread enters its first frame in a slot at depth zero, whoever had the slot before. -/
theorem opened_of_first_use (hbefore : ¬ (history actions i).Uses t)
    (hafter : (history (actions ++ [(t, a)]) i).Uses t) : Opened (actions ++ [(t, a)]) i t := by
  obtain ⟨f, hmem⟩ := hafter
  rw [history_concat, List.mem_append] at hmem
  rcases hmem with hnew | hold
  · obtain ⟨-, hop, hslot⟩ := mem_touch_iff.mp hnew
    obtain rfl := enter_of_ringOp? hop
    have hhistory : history (actions ++ [(t, .enter f)]) i = (t, .push f) :: history actions i := by
      rw [history_concat, touch, if_pos hslot, hop]
      rfl
    have hhome : (initial.run actions).registry.home t = some i := by
      simpa [slotOf?, step] using hslot
    obtain ⟨hlife, -⟩ := traced_run actions i
    rw [((wellFormed_run actions).home_eq_iff t i).mp hhome] at hlife
    have hdepth := hlife.depth_of_not_uses hbefore
    obtain ⟨hlife', hring'⟩ := traced_run (actions ++ [(t, .enter f)]) i
    rw [hhistory] at hlife' hring'
    refine ⟨?_, ?_, f, ?_, f, ?_, rfl, .inl rfl⟩
    · generalize ((initial.run (actions ++ [(t, .enter f)])).registry.slot i).owner = owner
        at hlife'
      cases hlife'
      rfl
    · rw [hring', SlotHistory.ringAfter_cons, Ring.apply, Ring.depth_push, hdepth]
    · rw [hring', SlotHistory.ringAfter_cons, Ring.apply, Ring.cellFor_push, hdepth, if_pos rfl]
    · rw [hhistory, SlotHistory.origin, hdepth, if_pos rfl]
  · exact absurd ⟨f, hold⟩ hbefore

theorem Walked.acts (hw : Walked h begun since w) (later : List (ThreadId × ThreadAction)) :
    Walked h begun (since ++ later) w := by
  induction later using List.reverseRecOn with
  | nil => rwa [List.append_nil]
  | append_singleton earlier last ih =>
    rw [← List.append_assoc]
    exact ih.act last

/-- A walk that stands at the first frame of its thread gives the first frame of another one. -/
theorem crosses_of_opened (ht : Opened begun i t) (hu : Opened (begun ++ since) i u)
    (hne : u ≠ t) : Crosses (begun ++ since) := by
  obtain ⟨f, hcell, hentered⟩ := hu.cell
  have hstart : (initial.run begun).registry.walk ⟨i, t, false⟩ = ⟨i, ⟨1, 0, false⟩⟩ := by
    rw [Registry.walk, if_pos ht.owner, Ring.cursor, ht.depth]
    rfl
  have hwalk : Walked ⟨i, t, false⟩ begun since ⟨i, ⟨1, 0, false⟩⟩ := by
    rw [← hstart]
    exact Walked.start.acts since
  refine ⟨begun, since, _, _, f, u, List.prefix_refl _, hwalk, ⟨?_, hentered⟩, hne⟩
  rw [advance_one]
  simp [Cursor.next?, hcell]

theorem Crosses.mono {earlier : List (ThreadId × ThreadAction)} (hc : Crosses earlier)
    (hpre : earlier <+: actions) : Crosses actions := by
  obtain ⟨begun, since, h, w, f, t, hin, hcross⟩ := hc
  exact ⟨begun, since, h, w, f, t, hin.trans hpre, hcross⟩

/-- If two threads have entered frames in one slot, in whatever order, some walk gives the one a
frame of the other. -/
theorem crosses_of_uses (ht : (history actions i).Uses t) (hu : (history actions i).Uses u)
    (hne : t ≠ u) : Crosses actions := by
  obtain ⟨earlier, a, hpre, hbefore, hafter⟩ := exists_first_use ht
  obtain ⟨earlier', a', hpre', hbefore', hafter'⟩ := exists_first_use hu
  have hopened := opened_of_first_use hbefore hafter
  have hopened' := opened_of_first_use hbefore' hafter'
  -- The walk begins at whichever of the two first frames was entered first.
  rcases List.prefix_or_prefix_of_prefix hpre hpre' with ⟨since, hsince⟩ | ⟨since, hsince⟩
  · rw [← hsince] at hopened' hpre'
    exact (crosses_of_opened hopened hopened' hne.symm).mono hpre'
  · rw [← hsince] at hopened hpre
    exact (crosses_of_opened hopened' hopened hne).mono hpre

/-! ### Crossing -/

/-- A thread registers and enters two frames. -/
def firstOwner : List (ThreadId × ThreadAction) :=
  [(1, .register), (1, .enter ⟨Ring.outerCode, 1⟩), (1, .enter ⟨⟨"middle", "a.py"⟩, 1⟩)]

/-- The thread unregisters, and another one gets its slot and enters a frame. -/
def secondOwner : List (ThreadId × ThreadAction) :=
  [(1, .unregister), (2, .register), (2, .enter ⟨Ring.innerCode, 2⟩)]

/-- The handle of the first owner. -/
def firstHandle : ThreadHandle := ⟨⟨0, slots_pos⟩, 1, true⟩

/-- The walk over both frames of the first owner, after it was asked for one of them. -/
def pausedWalk : Walk := ⟨firstHandle.slot, ⟨1, 0, false⟩⟩

/-- A walk can give a frame of another thread: the walk over the two frames of the first owner is
paused after one of them, and goes on with the frame of the second owner. -/
theorem exists_crossing : ¬ ∀ begun since caller h w f t,
    h ∈ (initial.run begun).registry.threads caller → Walked h begun since w →
      GivesOf (begun ++ since) w f t → t = h.thread := by
  intro hall
  have hmem : firstHandle ∈ (initial.run firstOwner).registry.threads (some 1) :=
    Registry.mem_threads_iff.mpr ⟨by decide +kernel, rfl⟩
  have hwalk : Walked firstHandle firstOwner secondOwner pausedWalk := by
    have hasked : ((initial.run (firstOwner ++ [])).registry.advance 1
        ((initial.run firstOwner).registry.walk firstHandle)).2 = pausedWalk := by
      decide +kernel
    rw [← hasked]
    exact Walked.start.ask.acts secondOwner
  have hgives : GivesOf (firstOwner ++ secondOwner) pausedWalk ⟨Ring.innerCode, 2⟩ 2 :=
    ⟨by decide +kernel, ⟨Ring.innerCode, 2⟩, by decide +kernel, rfl, .inl rfl⟩
  exact absurd (hall _ _ _ _ _ _ _ hmem hwalk hgives) (by decide)

/-- Whatever any number of threads do, a frame that a walk gives after some actions was entered by
the thread of its handle, or by a thread that has entered a frame of this code since the walk
began. In the course of a run some walk gives a frame of another thread exactly if two threads have
entered frames in one slot. -/
theorem crosses_iff (actions : List (ThreadId × ThreadAction)) :
    (∀ begun since h w f, begun ++ since = actions → Walked h begun since w →
      ((initial.run actions).registry.advance 1 w).1 = [f] →
      ∃ t, GivesOf actions w f t ∧
        (t = h.thread ∨ ∃ g, (t, .enter g) ∈ since ∧ g.code = f.code)) ∧
    (Crosses actions ↔
      ∃ i t u, t ≠ u ∧ (history actions i).Uses t ∧ (history actions i).Uses u) := by
  constructor
  · rintro begun since h w f rfl hw hgives
    obtain ⟨hpos, t, ht⟩ := exists_givesOf hgives
    exact ⟨t, ht, hw.thread_or_entered hpos ht⟩
  · constructor
    · exact Crosses.uses
    · rintro ⟨i, t, u, hne, ht, hu⟩
      exact crosses_of_uses ht hu hne

end Recording

end CrashTrace
