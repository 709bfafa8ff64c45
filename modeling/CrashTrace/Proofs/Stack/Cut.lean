import CrashTrace.Stack.Cursor
import Mathlib.Order.MinMax

/-!
# What a ring shows of a stack without limit

A ring keeps the innermost frames of a stack. Beside it stands a stack of any depth together with a
cut, the number of its outermost frames that the ring has lost. Cells are never cleared, so a cell
may hold a frame of a deeper stack, of one that was left long ago, or of an earlier owner.

## Main definitions

- `CutStack` — a stack of any depth and its cut
- `CutStack.visible` — the frames inside the cut
- `Ring.Shows` — a ring holds what is inside the cut, and nothing that can be taken for the rest

## Design notes

`Ring.Shows` says nothing about cells that no depth of the stack refers to. It need not: before a
depth is reached again its cell is written again.
-/

namespace CrashTrace

/-- The frames of a stack, outermost first, and the number of those that can no longer be read. -/
structure CutStack where
  frames : List Frame
  cut : Nat
  deriving DecidableEq

namespace CutStack

/-- A stack without frames. -/
def empty : CutStack := ⟨[], 0⟩

/-- Enters a frame. At most as many frames as a ring holds stay inside the cut. -/
def enter (s : CutStack) (f : Frame) : CutStack :=
  ⟨s.frames ++ [f], max s.cut (s.frames.length + 1 - Ring.capacity)⟩

/-- Leaves the innermost frame, if there is one. -/
def leave (s : CutStack) : CutStack :=
  ⟨s.frames.dropLast, min s.cut s.frames.dropLast.length⟩

/-- Sets the line of the innermost frame, if there is one. -/
def setLine (s : CutStack) (line : UInt32) : CutStack :=
  { s with frames := s.frames.modify (s.frames.length - 1) fun f => { f with line := line } }

/-- The frames inside the cut, innermost first. -/
def visible (s : CutStack) : List Frame := (s.frames.drop s.cut).reverse

end CutStack

namespace Ring

theorem capacity_eq : capacity = 100 := rfl

theorem cellFor_push (r : Ring) (f : Frame) (i : Nat) :
    (r.push f).cellFor i =
      if r.depth % capacity = i % capacity then some ⟨r.depth, f⟩ else r.cellFor i :=
  cellFor_putCell r r.depth i _

theorem cellFor_setLine (r : Ring) (line : UInt32) (i : Nat) :
    (r.setLine line).cellFor i =
      if r.depth ≠ 0 ∧ (r.depth - 1) % capacity = i % capacity then
        (r.cellFor i).map fun cell => { cell with frame := { cell.frame with line := line } }
      else r.cellFor i := by
  by_cases hd : r.depth = 0
  · simp [setLine, hd]
  · rw [setLine, if_neg hd, cellFor_putCell]
    by_cases hi : (r.depth - 1) % capacity = i % capacity
    · have hc : r.cellFor (r.depth - 1) = r.cellFor i := by simp only [cellFor, hi]
      simp [hd, hi, hc]
    · simp [hi]

/-- The ring holds the frames inside the cut, each in the cell of its depth. No cell can be taken
for one of the frames outside. -/
structure Shows (r : Ring) (s : CutStack) : Prop where
  depth_eq : r.depth = s.frames.length
  cut_le : s.cut ≤ s.frames.length
  length_le : s.frames.length ≤ s.cut + capacity
  readable : ∀ i f, s.cut ≤ i → s.frames[i]? = some f → r.cellFor i = some ⟨i, f⟩
  lost : ∀ i < s.cut, ∀ cell, r.cellFor i = some cell → cell.index ≠ i

variable {r : Ring} {s : CutStack}

/-- An emptied ring shows the empty stack, whatever its cells hold. -/
theorem shows_reset (r : Ring) : r.reset.Shows CutStack.empty where
  depth_eq := rfl
  cut_le := le_rfl
  length_le := by simp [CutStack.empty]
  readable i f _ hf := by simp [CutStack.empty] at hf
  lost i hi := absurd hi (Nat.not_lt_zero i)

theorem Shows.push (h : r.Shows s) (f : Frame) : (r.push f).Shows (s.enter f) where
  depth_eq := by simp [CutStack.enter, h.depth_eq]
  cut_le := by
    have := h.cut_le
    simp only [CutStack.enter, List.length_append, List.length_singleton, capacity_eq]
    omega
  length_le := by
    have := h.length_le
    simp only [CutStack.enter, List.length_append, List.length_singleton, capacity_eq] at *
    omega
  readable i g hi hg := by
    have hlen := h.length_le
    simp only [CutStack.enter, capacity_eq] at hi hlen
    rw [cellFor_push, h.depth_eq, capacity_eq]
    by_cases hnew : i = s.frames.length
    · subst hnew
      have hfg : f = g := by simpa [CutStack.enter] using hg
      rw [if_pos rfl, hfg]
    · -- A readable frame is less than one round away from the new one, so its cell is another.
      have hlt : i < s.frames.length := by
        have hlt := (List.getElem?_eq_some_iff.mp hg).1
        simp only [CutStack.enter, List.length_append, List.length_singleton] at hlt
        omega
      rw [if_neg (by omega)]
      refine h.readable i g (by omega) ?_
      rwa [CutStack.enter, List.getElem?_append_left hlt] at hg
  lost i hi cell hcell := by
    have hlen := h.length_le
    have hcut := h.cut_le
    simp only [CutStack.enter, capacity_eq] at hi hlen
    rw [cellFor_push, h.depth_eq, capacity_eq] at hcell
    split at hcell
    case isTrue =>
      obtain rfl := Option.some.inj hcell
      change s.frames.length ≠ i
      omega
    case isFalse hne =>
      -- The one frame that leaves the cut now is a full round away and has lost its cell.
      have hold : i < s.cut := by
        by_contra hge
        have hi' : i + 100 = s.frames.length := by omega
        rw [← hi'] at hne
        omega
      exact h.lost i hold cell hcell

theorem Shows.pop (h : r.Shows s) : r.pop.Shows s.leave where
  depth_eq := by simp [CutStack.leave, h.depth_eq]
  cut_le := min_le_right _ _
  length_le := by
    have := h.length_le
    simp only [CutStack.leave, List.length_dropLast, capacity_eq] at *
    omega
  readable i f hi hf := by
    have hlt : i < s.frames.length - 1 := by
      simpa [CutStack.leave] using (List.getElem?_eq_some_iff.mp hf).1
    have hf' : s.frames[i]? = some f := by
      rwa [CutStack.leave, List.getElem?_dropLast, if_pos hlt] at hf
    simp only [CutStack.leave, List.length_dropLast] at hi
    exact h.readable i f (by omega) hf'
  lost i hi cell hcell := by
    simp only [CutStack.leave] at hi
    exact h.lost i (by omega) cell hcell

theorem Shows.setLine (h : r.Shows s) (line : UInt32) :
    (r.setLine line).Shows (s.setLine line) where
  depth_eq := by simp [CutStack.setLine, h.depth_eq]
  cut_le := by simpa [CutStack.setLine] using h.cut_le
  length_le := by simpa [CutStack.setLine] using h.length_le
  readable i f hi hf := by
    have hlen := h.length_le
    simp only [CutStack.setLine, List.getElem?_modify] at hi hf
    obtain ⟨g, hg, rfl⟩ := Option.map_eq_some_iff.mp hf
    have hlt := (List.getElem?_eq_some_iff.mp hg).1
    rw [cellFor_setLine, h.depth_eq, h.readable i g hi hg, capacity_eq]
    rw [capacity_eq] at hlen
    by_cases htop : s.frames.length - 1 = i
    · rw [if_pos ⟨by omega, by rw [htop]⟩, if_pos htop]
      rfl
    · rw [if_neg (by omega), if_neg htop]
  lost i hi cell hcell := by
    rw [cellFor_setLine] at hcell
    split at hcell
    case isTrue =>
      obtain ⟨old, hold, rfl⟩ := Option.map_eq_some_iff.mp hcell
      exact h.lost i hi old hold
    case isFalse => exact h.lost i hi cell hcell

end Ring

/-! ### Reading -/

namespace Cursor

variable {r : Ring} {s : CutStack}

/-- At the cut a walk over a ring finds no frame, and from then on tells whether any are missing. -/
theorem next?_at_cut (h : r.Shows s) :
    ∃ c, next? r ⟨s.cut, s.frames.length - Ring.capacity, false⟩ = (none, c) ∧
      c.truncated = decide (0 < s.cut) := by
  have hlen := h.length_le
  rw [Ring.capacity_eq] at hlen ⊢
  by_cases hb : s.cut ≤ s.frames.length - 100
  · refine ⟨_, if_pos hb, ?_⟩
    have hcut : s.cut = s.frames.length - 100 := by omega
    simp [truncated, ← hcut]
  · have hpos : 0 < s.cut := by omega
    refine ⟨stop ⟨s.cut, s.frames.length - 100, false⟩, ?_, by simp [truncated, stop, hpos]⟩
    rw [next?, if_neg hb]
    cases hcell : r.cellFor (s.cut - 1) with
    | none => rfl
    | some cell =>
      have hne : cell.index ≠ s.cut - 1 := h.lost (s.cut - 1) (by omega) cell hcell
      simp only [if_neg hne]

/-- Inside the cut a walk over a ring finds the frame one further out. -/
theorem next?_inside (h : r.Shows s) {k : Nat} (hk : s.cut ≤ k) {f : Frame}
    (hf : s.frames[k]? = some f) :
    next? r ⟨k + 1, s.frames.length - Ring.capacity, false⟩ =
      (some f, ⟨k, s.frames.length - Ring.capacity, false⟩) := by
  have hlen := h.length_le
  have hlt := (List.getElem?_eq_some_iff.mp hf).1
  have hb : ¬ k + 1 ≤ s.frames.length - Ring.capacity := by
    rw [Ring.capacity_eq] at hlen ⊢
    omega
  simp only [next?, if_neg hb, Nat.add_sub_cancel, h.readable k f hk hf, if_true]

/-- A walk that stands at depth `k` gives the frames between the cut and `k`, innermost first, and
then tells whether any are missing. -/
theorem take_eq (h : r.Shows s) {k : Nat} (hk : s.cut ≤ k) (hlen : k ≤ s.frames.length) {n : Nat}
    (hn : k - s.cut < n) :
    (take r n ⟨k, s.frames.length - Ring.capacity, false⟩).1 =
        ((s.frames.take k).drop s.cut).reverse ∧
      (take r n ⟨k, s.frames.length - Ring.capacity, false⟩).2.truncated =
        decide (0 < s.cut) := by
  -- The walk goes outwards: the induction is on the number of frames up to the cut.
  induction n generalizing k with
  | zero => omega
  | succ n ih =>
    rcases Nat.eq_or_lt_of_le hk with rfl | hlt
    · obtain ⟨c, hc, ht⟩ := next?_at_cut h
      rw [take, hc]
      simp [ht]
    · obtain ⟨k, rfl⟩ := Nat.exists_eq_succ_of_ne_zero (by omega : k ≠ 0)
      have hf : s.frames[k]? = some s.frames[k] := List.getElem?_eq_getElem (by omega)
      obtain ⟨hfs, ht⟩ := ih (k := k) (by omega) (by omega) (by omega)
      have hd : ((s.frames.take k).drop s.cut).length = k - s.cut := by simp; omega
      rw [take, next?_inside h (by omega) hf]
      refine ⟨?_, ht⟩
      have htake : s.frames.take (k + 1) = s.frames.take k ++ [s.frames[k]] := by
        rw [List.take_add_one, hf]
        rfl
      rw [htake, List.drop_append_of_le_length (by simp; omega), List.reverse_append]
      simp [hfs]

/-- Reading a ring to the end gives what is visible of its stack, and tells whether frames are
missing. -/
theorem drain_eq (h : r.Shows s) :
    (r.cursor.drain r).1 = s.visible ∧ (r.cursor.drain r).2.truncated = decide (0 < s.cut) := by
  have hcursor : r.cursor = ⟨s.frames.length, s.frames.length - Ring.capacity, false⟩ := by
    rw [Ring.cursor, h.depth_eq]
  rw [drain, hcursor]
  simpa [CutStack.visible] using take_eq h h.cut_le le_rfl (n := s.frames.length + 1) (by omega)

end Cursor

end CrashTrace
