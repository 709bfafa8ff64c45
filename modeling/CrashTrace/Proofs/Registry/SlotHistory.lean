import CrashTrace.Proofs.Registry.Slots
import CrashTrace.Proofs.Stack.Torn
import Mathlib.Data.List.Induction

/-!
# The history of a slot

A slot has one owner after the other, and all of them use the same ring. Its history has every
operation on that ring with the thread that did it. Cells are never cleared, so a cell may have
been written by an earlier owner. The cells of the frames that are now on the stack were all
written by the present one.

## Main definitions

- `SlotHistory` — all operations on the ring of a slot, each with its thread
- `SlotHistory.Life` — a slot is claimed and released by turns, and used by its owner in between
- `SlotHistory.origin` — the entering of a frame that wrote a cell last
- `SlotHistory.EnteredBy` — the thread that entered the frame in a cell
- `Recording.history` — the history of a slot along a run

## Main results

- `SlotHistory.Life.exists_enteredBy` — every frame that a walk gives was entered by some thread
- `SlotHistory.Life.enteredBy_owner` — a frame at a depth of the stack was entered by the owner
- `Recording.traced_run` — the registry after a run has the rings of its histories
-/

namespace CrashTrace

open Registry (SlotIndex)

/-- All operations on the ring of a slot, newest first, each with the thread that did it. -/
abbrev SlotHistory := List (ThreadId × Ring.Op)

namespace SlotHistory

open CrashTrace.Ring (capacity)

/-- The ring after a history. -/
def ringAfter (past : SlotHistory) : Ring := Ring.after (past.map Prod.snd)

/-- A slot has been claimed and released by turns, and used by its owner in between. -/
inductive Life : SlotHistory → Option ThreadId → Prop
  | fresh : Life [] none
  | claim {past : SlotHistory} (t : ThreadId) : Life past none →
      Life ((t, .reset) :: past) (some t)
  | release {past : SlotHistory} {t : ThreadId} : Life past (some t) →
      Life ((t, .reset) :: past) none
  | use {past : SlotHistory} {t : ThreadId} {op : Ring.Op} : Life past (some t) → op ≠ .reset →
      Life ((t, op) :: past) (some t)

/-- Who wrote the cell for depth `k` last by entering a frame, with the cell as it was written. -/
def origin (k : Nat) : SlotHistory → Option (ThreadId × Ring.Cell)
  | [] => none
  | (t, .push f) :: past =>
    if (ringAfter past).depth % capacity = k % capacity then some (t, ⟨(ringAfter past).depth, f⟩)
    else origin k past
  | (_, .pop) :: past => origin k past
  | (_, .setLine _) :: past => origin k past
  | (_, .reset) :: past => origin k past

/-- The frame in the cell for depth `k` was entered by `t` at that depth. It has the code with
which it was entered, and the line, or a line that `t` has set. -/
def EnteredBy (past : SlotHistory) (k : Nat) (t : ThreadId) (f : Frame) : Prop :=
  ∃ g, origin k past = some (t, ⟨k, g⟩) ∧ f.code = g.code ∧
    (f.line = g.line ∨ (t, .setLine f.line) ∈ past)

variable {past : SlotHistory} {owner : Option ThreadId} {t u : ThreadId} {k : Nat} {f : Frame}

@[simp] theorem ringAfter_cons (op : Ring.Op) :
    ringAfter ((t, op) :: past) = (ringAfter past).apply op := rfl

theorem EnteredBy.unique (ht : EnteredBy past k t f) {g : Frame} (hu : EnteredBy past k u g) :
    t = u := by
  obtain ⟨_, ht, -⟩ := ht
  obtain ⟨_, hu, -⟩ := hu
  rw [ht] at hu
  exact congrArg Prod.fst (Option.some.inj hu)

theorem origin_congr {j : Nat} (h : j % capacity = k % capacity) (past : SlotHistory) :
    origin j past = origin k past := by
  induction past with
  | nil => rfl
  | cons first past ih =>
    obtain ⟨t, op⟩ := first
    cases op with
    | push f => simp only [origin, h, ih]
    | pop => exact ih
    | setLine line => exact ih
    | reset => exact ih

/-- What wrote a cell is in the history. -/
theorem mem_of_origin {cell : Ring.Cell} (h : origin k past = some (t, cell)) :
    (t, .push cell.frame) ∈ past := by
  induction past with
  | nil => cases h
  | cons first past ih =>
    obtain ⟨u, op⟩ := first
    cases op with
    | push f =>
      rw [origin] at h
      split at h
      · cases h
        exact List.mem_cons_self
      · exact List.mem_cons_of_mem _ (ih h)
    | pop => exact List.mem_cons_of_mem _ (ih h)
    | setLine line => exact List.mem_cons_of_mem _ (ih h)
    | reset => exact List.mem_cons_of_mem _ (ih h)

/-- Later operations leave what wrote a cell, unless one of them writes it again. -/
theorem origin_append {new : SlotHistory} {cell : Ring.Cell}
    (h : origin k (new ++ past) = some (t, cell)) :
    (t, .push cell.frame) ∈ new ∨ origin k past = some (t, cell) := by
  induction new with
  | nil => exact .inr h
  | cons first new ih =>
    obtain ⟨u, op⟩ := first
    have hlater : origin k (new ++ past) = some (t, cell) →
        (t, .push cell.frame) ∈ (u, op) :: new ∨ origin k past = some (t, cell) :=
      fun h => (ih h).imp_left (List.mem_cons_of_mem _)
    cases op with
    | push f =>
      rw [List.cons_append, origin] at h
      split at h
      · cases h
        exact .inl List.mem_cons_self
      · exact hlater h
    | pop => exact hlater h
    | setLine line => exact hlater h
    | reset => exact hlater h

namespace Life

/-- The cells of the frames on the stack were written by the owner: when the slot was claimed there
were none, and since then nobody else has entered one. -/
theorem origin_owner (h : Life past (some t)) (hk : k < (ringAfter past).depth) :
    ∃ cell, origin k past = some (t, cell) := by
  generalize howner : some t = owner at h
  induction h with
  | fresh => cases howner
  | claim u _ _ => exact absurd hk (Nat.not_lt_zero k)
  | release _ _ => cases howner
  | @use past u op _ hop ih =>
    obtain rfl := Option.some.inj howner
    cases op with
    | push f =>
      rw [origin]
      split
      · exact ⟨_, rfl⟩
      · next hne =>
        have hlt : k < (ringAfter past).depth + 1 := hk
        refine ih ?_ rfl
        rcases Nat.lt_succ_iff_lt_or_eq.mp hlt with hlt | rfl
        · exact hlt
        · exact absurd rfl hne
    | pop =>
      have hlt : k < (ringAfter past).depth - 1 := hk
      exact ih (by omega) rfl
    | setLine line =>
      rw [ringAfter_cons, Ring.apply, Ring.depth_setLine] at hk
      exact ih hk rfl
    | reset => exact absurd rfl hop

/-- A cell has the depth and the code with which it was written. Its line was written then or was
set by the same thread: only the owner sets lines, and the cell of its innermost frame is its
own. -/
theorem origin_of_cell (h : Life past owner) {cell : Ring.Cell}
    (hcell : (ringAfter past).cellFor k = some cell) :
    ∃ t old, origin k past = some (t, old) ∧ cell.index = old.index ∧
      cell.frame.code = old.frame.code ∧
      (cell.frame.line = old.frame.line ∨ (t, .setLine cell.frame.line) ∈ past) := by
  induction h generalizing cell with
  | fresh => simp [ringAfter, Ring.after, Ring.cellFor, Ring.empty, Vector.get] at hcell
  | claim u _ ih =>
    obtain ⟨t, old, horigin, hindex, hcode, hline⟩ := ih hcell
    exact ⟨t, old, horigin, hindex, hcode, hline.imp_right (List.mem_cons_of_mem _)⟩
  | release _ ih =>
    obtain ⟨t, old, horigin, hindex, hcode, hline⟩ := ih hcell
    exact ⟨t, old, horigin, hindex, hcode, hline.imp_right (List.mem_cons_of_mem _)⟩
  | @use past u op hlife hop ih =>
    have hkept : (ringAfter past).cellFor k = some cell →
        ∃ t old, origin k past = some (t, old) ∧ cell.index = old.index ∧
          cell.frame.code = old.frame.code ∧
          (cell.frame.line = old.frame.line ∨ (t, .setLine cell.frame.line) ∈ (u, op) :: past) := by
      intro hcell
      obtain ⟨t, old, horigin, hindex, hcode, hline⟩ := ih hcell
      exact ⟨t, old, horigin, hindex, hcode, hline.imp_right (List.mem_cons_of_mem _)⟩
    cases op with
    | push f =>
      rw [ringAfter_cons, Ring.apply, Ring.cellFor_push] at hcell
      rw [origin]
      split at hcell
      · next hmod =>
        obtain rfl := Option.some.inj hcell
        exact ⟨u, _, if_pos hmod, rfl, rfl, .inl rfl⟩
      · next hmod =>
        rw [if_neg hmod]
        exact hkept hcell
    | pop => exact hkept hcell
    | setLine line =>
      rw [ringAfter_cons, Ring.apply, Ring.cellFor_setLine] at hcell
      split at hcell
      case isTrue hinner =>
        obtain ⟨hdepth, hmod⟩ := hinner
        obtain ⟨before, hbefore, rfl⟩ := Option.map_eq_some_iff.mp hcell
        obtain ⟨t, old, horigin, hindex, hcode, -⟩ := ih hbefore
        obtain ⟨own, hown⟩ := hlife.origin_owner
          (show (ringAfter past).depth - 1 < (ringAfter past).depth by omega)
        obtain rfl : t = u := by
          rw [origin_congr hmod, horigin] at hown
          exact congrArg Prod.fst (Option.some.inj hown)
        exact ⟨t, old, horigin, hindex, hcode, .inr List.mem_cons_self⟩
      case isFalse => exact hkept hcell
    | reset => exact absurd rfl hop

/-- A frame that a walk gives was entered by some thread at the depth that the walk looks at. -/
theorem exists_enteredBy (h : Life past owner) {c : Cursor}
    (hnext : (c.next? (ringAfter past)).1 = some f) : ∃ t, EnteredBy past (c.next - 1) t f := by
  obtain ⟨cell, hcell, hindex, rfl⟩ := Ring.cell_of_next? hnext
  obtain ⟨t, ⟨index, g⟩, horigin, hsame, hcode, hline⟩ := h.origin_of_cell hcell
  obtain rfl : index = c.next - 1 := hsame.symm.trans hindex
  exact ⟨t, g, horigin, hcode, hline⟩

/-- A frame at a depth of the stack was entered by the owner of the slot. -/
theorem enteredBy_owner (h : Life past (some t)) (hk : k < (ringAfter past).depth)
    (hentered : EnteredBy past k u f) : u = t := by
  obtain ⟨cell, hcell⟩ := h.origin_owner hk
  obtain ⟨g, horigin, -⟩ := hentered
  rw [hcell] at horigin
  exact (congrArg Prod.fst (Option.some.inj horigin)).symm

end Life

end SlotHistory

/-! ### Histories along a run -/

namespace Recording

variable {s : Recording} {t : ThreadId} {i : SlotIndex} {past : SlotHistory}

/-- What an action does to the ring that its thread owns, if it owns one. -/
def ringOp? (s : Recording) (t : ThreadId) : ThreadAction → Option Ring.Op
  | .register => if s.refuses t .register then none else some .reset
  | .unregister => some .reset
  | .enter f => some (.push f)
  | .setLine g line => if (s.guards t)[g]? = some ⟨true⟩ then some (.setLine line) else none
  | .drop g => if (s.guards t)[g]? = some ⟨true⟩ then some .pop else none
  | .forget _ => none

/-- The slot whose ring an action is about: the one that its thread has, or has afterwards. -/
def slotOf? (s : Recording) (t : ThreadId) (a : ThreadAction) : Option SlotIndex :=
  s.registry.home t <|> (s.step t a).registry.home t

/-- What an action adds to the history of a slot. -/
def touch (s : Recording) (i : SlotIndex) (t : ThreadId) (a : ThreadAction) : SlotHistory :=
  if s.slotOf? t a = some i then (s.ringOp? t a).toList.map (t, ·) else []

/-- What some actions add to the history of a slot. -/
def added (i : SlotIndex) : Recording → List (ThreadId × ThreadAction) → SlotHistory
  | _, [] => []
  | s, (t, a) :: rest => added i (s.step t a) rest ++ s.touch i t a

/-- The history of a slot after a run. -/
def history (actions : List (ThreadId × ThreadAction)) (i : SlotIndex) : SlotHistory :=
  added i initial actions

/-- The registry has the owner and the ring that a history leads to. -/
structure Traced (s : Recording) (i : SlotIndex) (past : SlotHistory) : Prop where
  life : past.Life (s.registry.slot i).owner
  ring : s.registry.ringAt i = past.ringAfter

/-! ### One action -/

theorem traced_initial (i : SlotIndex) : initial.Traced i [] where
  life := by
    have howner : (initial.registry.slot i).owner = none :=
      congrArg Registry.Slot.owner (Registry.slot_empty i)
    rw [howner]
    exact .fresh
  ring := by
    simp only [Registry.ringAt, initial, Registry.slot_empty]
    rfl

namespace Traced

/-- What an action leaves alone keeps its history. -/
theorem of_slot_eq (h : s.Traced i past) {s' : Recording}
    (hslot : s'.registry.slot i = s.registry.slot i) : s'.Traced i past where
  life := by
    rw [hslot]
    exact h.life
  ring := by
    rw [Registry.ringAt, hslot]
    exact h.ring

end Traced

/-- A thread whose slot stays the same can only act on this slot. -/
theorem touch_of_home_eq {a : ThreadAction}
    (h : (s.step t a).registry.home t = s.registry.home t) :
    s.touch i t a =
      if s.registry.home t = some i then (s.ringOp? t a).toList.map (t, ·) else [] := by
  rw [touch, slotOf?, h]
  cases s.registry.home t with
  | none => rfl
  | some j => rfl

theorem mem_touch_iff {u : ThreadId} {a : ThreadAction} {op : Ring.Op} :
    (u, op) ∈ s.touch i t a ↔ u = t ∧ s.ringOp? t a = some op ∧ s.slotOf? t a = some i := by
  rw [touch]
  split
  · next hslot =>
    rw [List.mem_map]
    constructor
    · rintro ⟨op', hop, heq⟩
      obtain ⟨rfl, rfl⟩ := Prod.mk.inj heq
      exact ⟨rfl, Option.mem_toList.mp hop, hslot⟩
    · rintro ⟨rfl, hop, -⟩
      exact ⟨op, Option.mem_toList.mpr hop, rfl⟩
  · next hslot => simp [hslot]

theorem enter_of_ringOp? {a : ThreadAction} {f : Frame} (h : s.ringOp? t a = some (.push f)) :
    a = .enter f := by
  cases a with
  | enter g =>
    cases h
    rfl
  | register =>
    rw [ringOp?] at h
    split at h <;> cases h
  | unregister => cases h
  | setLine g line =>
    rw [ringOp?] at h
    split at h <;> cases h
  | drop g =>
    rw [ringOp?] at h
    split at h <;> cases h
  | forget g => cases h

/-- The owner of a slot does something on its ring. -/
theorem Traced.use (hs : s.registry.WellFormed) (h : s.Traced i past) (op : Ring.Op)
    {a : ThreadAction} (hop : op ≠ .reset) (hop' : s.ringOp? t a = some op)
    (hstep : (s.step t a).registry = s.registry.changeRing t (·.apply op)) :
    (s.step t a).Traced i (s.touch i t a ++ past) := by
  rw [touch_of_home_eq (by rw [hstep, Registry.home_changeRing]), hop']
  split
  · next hhome =>
    have howner := (hs.home_eq_iff t i).mp hhome
    obtain ⟨ring, hring⟩ := Option.isSome_iff_exists.mp (hs.ring_isSome i (by simp [howner]))
    have hlife := h.life
    rw [howner] at hlife
    have hafter := h.ring
    rw [Registry.ringAt, hring] at hafter
    refine ⟨?_, ?_⟩
    · rw [hstep, Registry.slot_changeRing, if_pos hhome, howner]
      exact hlife.use hop
    · rw [hstep, Registry.ringAt, Registry.slot_changeRing, if_pos hhome, hring]
      exact congrArg (·.apply op) hafter
  · next hhome =>
    refine h.of_slot_eq ?_
    rw [hstep, Registry.slot_changeRing, if_neg hhome]

/-- An action that does nothing to the registry adds nothing to a history. -/
theorem Traced.idle (h : s.Traced i past) {a : ThreadAction} (hop : s.ringOp? t a = none)
    (hstep : (s.step t a).registry = s.registry) :
    (s.step t a).Traced i (s.touch i t a ++ past) := by
  have hnone : s.touch i t a = [] := by simp [touch, hop]
  rw [hnone]
  exact h.of_slot_eq (by rw [hstep])

/-- A slot is claimed or released, and its ring is emptied. -/
theorem Traced.handOver (h : s.Traced i past) (j : SlotIndex) (owner : Option ThreadId)
    {a : ThreadAction} (hslot : s.slotOf? t a = some j) (hop : s.ringOp? t a = some .reset)
    (hstep : ∀ k, (s.step t a).registry.slot k =
      if j = k then ⟨owner, some (s.registry.ringAt j).reset⟩ else s.registry.slot k)
    (hlife : past.Life (s.registry.slot j).owner →
      SlotHistory.Life ((t, .reset) :: past) owner) :
    (s.step t a).Traced i (s.touch i t a ++ past) := by
  rw [touch, hslot, hop]
  by_cases hij : j = i
  · subst hij
    rw [if_pos rfl]
    refine ⟨?_, ?_⟩
    · rw [hstep, if_pos rfl]
      exact hlife h.life
    · rw [Registry.ringAt, hstep, if_pos rfl]
      exact congrArg Ring.reset h.ring
  · rw [if_neg (mt Option.some.inj hij)]
    refine h.of_slot_eq ?_
    rw [hstep, if_neg hij]

theorem Traced.register (h : s.Traced i past) (t : ThreadId) :
    (s.step t .register).Traced i (s.touch i t .register ++ past) := by
  cases hreg : s.registry.register t with
  | error e =>
    have hrefuses : s.refuses t .register := by simp [refuses, hreg, Except.isOk, Except.toBool]
    exact h.idle (by rw [ringOp?, if_pos hrefuses]) (by rw [step_of_refuses hrefuses])
  | ok r =>
    have hregistry : (s.step t .register).registry = r := by simp [step, hreg]
    obtain ⟨j, hhome, hfree, rfl⟩ := Registry.register_eq_ok hreg
    refine h.handOver j (some t) ?_ ?_ (fun k => ?_) fun hlife => ?_
    · simp [slotOf?, hhome, hregistry]
    · simp [ringOp?, refuses, hreg, Except.isOk, Except.toBool]
    · simp [hregistry]
    · rw [Registry.owner_of_freeSlot? hfree] at hlife
      exact hlife.claim t

theorem Traced.unregister (hs : s.registry.WellFormed) (h : s.Traced i past) (t : ThreadId) :
    (s.step t .unregister).Traced i (s.touch i t .unregister ++ past) := by
  cases hhome : s.registry.home t with
  | none =>
    have hidle : s.step t .unregister = s := by simp [step, Registry.unregister, hhome]
    have hnone : s.touch i t .unregister = [] := by simp [touch, slotOf?, hidle, hhome]
    rw [hidle, hnone]
    exact h
  | some j =>
    have howner := (hs.home_eq_iff t j).mp hhome
    obtain ⟨ring, hring⟩ := Option.isSome_iff_exists.mp (hs.ring_isSome j (by simp [howner]))
    refine h.handOver j none ?_ rfl (fun k => ?_) fun hlife => ?_
    · rw [slotOf?, hhome]
      rfl
    · simp [step, Registry.unregister, hhome, hring, Registry.ringAt]
    · rw [howner] at hlife
      exact hlife.release

/-- An action through a guard does something to a ring only if the guard recorded a frame. -/
theorem Traced.throughGuard (hs : s.registry.WellFormed) (h : s.Traced i past) (g : Nat)
    (op : Ring.Op) {a : ThreadAction} (hop : op ≠ .reset)
    (hop' : s.ringOp? t a = if (s.guards t)[g]? = some ⟨true⟩ then some op else none)
    (hstep : (s.step t a).registry =
      if (s.guards t)[g]? = some ⟨true⟩ then s.registry.changeRing t (·.apply op)
      else s.registry) :
    (s.step t a).Traced i (s.touch i t a ++ past) := by
  by_cases hg : (s.guards t)[g]? = some ⟨true⟩
  · rw [if_pos hg] at hop' hstep
    exact h.use hs op hop hop' hstep
  · rw [if_neg hg] at hop' hstep
    exact h.idle hop' hstep

theorem Traced.enter (hs : s.registry.WellFormed) (h : s.Traced i past) (t : ThreadId)
    (f : Frame) : (s.step t (.enter f)).Traced i (s.touch i t (.enter f) ++ past) := by
  cases hhome : s.registry.home t with
  | none =>
    have hring : s.registry.ringOf? t = none := by simp [Registry.ringOf?, hhome]
    have hsame : (s.step t (.enter f)).registry = s.registry := by
      simp [step, Registry.enter, hring]
    have hnone : s.touch i t (.enter f) = [] := by simp [touch, slotOf?, hsame, hhome]
    rw [hnone]
    exact h.of_slot_eq (by rw [hsame])
  | some j =>
    refine h.use hs (.push f) Ring.Op.noConfusion rfl ?_
    simp only [step, Registry.enter, hs.ring_eq_ringAt hhome, Option.isSome_some]
    rfl

/-- A registry with the owner and the ring of a history has, after an action, those of the history
with what the action adds. -/
theorem Traced.step (hs : s.registry.WellFormed) (h : s.Traced i past) (t : ThreadId)
    (a : ThreadAction) : (s.step t a).Traced i (s.touch i t a ++ past) := by
  cases a with
  | register => exact h.register t
  | unregister => exact h.unregister hs t
  | enter f => exact h.enter hs t f
  | setLine g line =>
    refine h.throughGuard hs g (.setLine line) Ring.Op.noConfusion rfl ?_
    rcases hg : (s.guards t)[g]? with _ | ⟨_ | _⟩
    · simp [Recording.step, hg]
    · simp [Recording.step, hg, Registry.setLine]
    · simp [Recording.step, hg, Registry.setLine, Ring.apply]
  | drop g =>
    refine h.throughGuard hs g .pop Ring.Op.noConfusion rfl ?_
    rcases hg : (s.guards t)[g]? with _ | ⟨_ | _⟩
    · simp [Recording.step, hg]
    · simp [Recording.step, hg, Registry.leave]
    · simp [Recording.step, hg, Registry.leave, Ring.apply]
  | forget g => exact h.idle rfl rfl

/-! ### Runs -/

theorem added_append (s : Recording) (actions later : List (ThreadId × ThreadAction)) :
    added i s (actions ++ later) = added i (s.run actions) later ++ added i s actions := by
  induction actions generalizing s with
  | nil => simp [added, run]
  | cons first rest ih =>
    rw [List.cons_append, added, ih, List.append_assoc]
    rfl

theorem history_append (actions later : List (ThreadId × ThreadAction)) (i : SlotIndex) :
    history (actions ++ later) i = added i (initial.run actions) later ++ history actions i :=
  added_append initial actions later

theorem history_concat (actions : List (ThreadId × ThreadAction)) (t : ThreadId)
    (a : ThreadAction) (i : SlotIndex) :
    history (actions ++ [(t, a)]) i = (initial.run actions).touch i t a ++ history actions i := by
  rw [history_append, added, added, List.nil_append]

/-- A frame is entered in a slot only by a thread that enters it. -/
theorem mem_of_push_mem_added {f : Frame} {actions : List (ThreadId × ThreadAction)}
    (h : (t, .push f) ∈ added i s actions) : (t, .enter f) ∈ actions := by
  induction actions generalizing s with
  | nil => cases h
  | cons first rest ih =>
    obtain ⟨u, a⟩ := first
    rcases List.mem_append.mp h with h | h
    · exact List.mem_cons_of_mem _ (ih h)
    · obtain ⟨rfl, hop, -⟩ := mem_touch_iff.mp h
      rw [enter_of_ringOp? hop]
      exact List.mem_cons_self

/-- After a run every slot has the owner and the ring that its history leads to. -/
theorem traced_run (actions : List (ThreadId × ThreadAction)) (i : SlotIndex) :
    (initial.run actions).Traced i (history actions i) := by
  induction actions using List.reverseRecOn with
  | nil => exact traced_initial i
  | append_singleton earlier last ih =>
    rw [run_append, history_concat]
    exact ih.step (wellFormed_run earlier) last.1 last.2

end Recording

end CrashTrace
