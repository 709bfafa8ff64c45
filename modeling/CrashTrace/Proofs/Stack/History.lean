import CrashTrace.Proofs.Stack.Cut
import Mathlib.Data.List.Forall2

/-!
# What a ring remembers of its history

The owner of a ring enters and leaves frames while a walk over the ring may be paused for any time.
The history of a ring, newest operation first, tells which frames there have been: each was entered
once, and its line was set while it was the innermost frame. Setting a line writes to the cell of
the innermost frame even if that cell belongs to another frame by now, so a paused walk can give a
frame that never was.

## Main definitions

- `Ring.Op`, `Ring.History`, `Ring.after` — operations of the owner, and the ring after them
- `Ring.Had` — a frame with its line as some entered frame really had it
- `Ring.Walks` — the walks that can be going on at a moment
- `Ring.SetAstray` — a line is set while the cell of the innermost frame belongs to another frame

## Design notes

Earlier moments of a history are its suffixes, and the length of a suffix is the time of the
operation before it. A slot that is released or claimed resets its ring.
-/

namespace CrashTrace.Ring

/-- What the owner of a ring does. The ring is reset when its slot is released, and again when the
slot is claimed. -/
inductive Op where
  | push (frame : Frame)
  | pop
  | setLine (line : UInt32)
  | reset
  deriving DecidableEq

/-- The ring after an operation. -/
def apply (r : Ring) : Op → Ring
  | .push f => r.push f
  | .pop => r.pop
  | .setLine line => r.setLine line
  | .reset => r.reset

/-- All operations on a ring since it was set up, newest first. -/
abbrev History := List Op

def after : History → Ring
  | [] => empty
  | op :: past => (after past).apply op

/-- The stack after a history, if no frame were ever lost, with its cut. -/
def stackAfter : History → CutStack
  | [] => CutStack.empty
  | .push f :: past => (stackAfter past).enter f
  | .pop :: past => (stackAfter past).leave
  | .setLine line :: past => (stackAfter past).setLine line
  | .reset :: _ => CutStack.empty

/-- The times at which the frames now on the stack were entered, outermost first. -/
def entries : History → List Nat
  | [] => []
  | .push _ :: past => entries past ++ [past.length]
  | .pop :: past => (entries past).dropLast
  | .setLine _ :: past => entries past
  | .reset :: _ => []

/-- At time `n` a frame of this code was entered. -/
def EnteredAt (past : History) (n : Nat) (code : CodeLocation) : Prop :=
  ∃ f earlier, (.push f :: earlier) <:+ past ∧ earlier.length = n ∧ f.code = code

/-- Some entered frame had this code and line: the line it was entered with, or one that was set
while it was the innermost frame. -/
def Had (past : History) (f : Frame) : Prop :=
  ∃ g earlier, (.push g :: earlier) <:+ past ∧ g.code = f.code ∧
    (f.line = g.line ∨
      ∃ later, (.setLine f.line :: later) <:+ past ∧
        (entries later).getLast? = some earlier.length)

/-- The walks that can be going on after a history: each was started at some moment, and was asked
for frames at any moments since. -/
inductive Walks : History → Cursor → Prop
  | start (past : History) : Walks past (after past).cursor
  | own (op : Op) {past : History} {c : Cursor} : Walks past c → Walks (op :: past) c
  | next {past : History} {c : Cursor} : Walks past c → Walks past (c.next? (after past)).2

/-- At the moment `earlier` of a history a line is set while the cell of the innermost frame
belongs to a frame of another depth. -/
def SetAstray (past earlier : History) (line : UInt32) (cell : Cell) : Prop :=
  (.setLine line :: earlier) <:+ past ∧ (after earlier).depth ≠ 0 ∧
    (after earlier).cellFor ((after earlier).depth - 1) = some cell ∧
    cell.index + 1 ≠ (after earlier).depth

variable {past : History}

/-- The ring after a history shows the stack after it. -/
theorem shows_after (past : History) : (after past).Shows (stackAfter past) := by
  induction past with
  | nil => exact shows_reset empty
  | cons op past ih =>
    cases op with
    | push f => exact ih.push f
    | pop => exact ih.pop
    | setLine line => exact ih.setLine line
    | reset => exact shows_reset _

/-! ### Where the frames of a ring come from -/

theorem EnteredAt.mono {n : Nat} {code : CodeLocation} (h : EnteredAt past n code) (op : Op) :
    EnteredAt (op :: past) n code := by
  obtain ⟨f, earlier, hpush, hn, hcode⟩ := h
  exact ⟨f, earlier, hpush.trans (List.suffix_cons op past), hn, hcode⟩

theorem Had.mono {earlier : History} {f : Frame} (h : Had earlier f) (hp : earlier <:+ past) :
    Had past f := by
  obtain ⟨g, start, hpush, hcode, hline⟩ := h
  refine ⟨g, start, hpush.trans hp, hcode, hline.imp_right ?_⟩
  rintro ⟨later, hset, htop⟩
  exact ⟨later, hset.trans hp, htop⟩

/-- A cell holds a frame that was entered at the depth in the cell. -/
theorem entered_of_cell {i : Nat} {cell : Cell} (h : (after past).cellFor i = some cell) :
    ∃ f earlier, (.push f :: earlier) <:+ past ∧ (after earlier).depth = cell.index ∧
      f.code = cell.frame.code := by
  induction past generalizing i cell with
  | nil => simp [after, cellFor, empty, Vector.get] at h
  | cons op past ih =>
    have kept : ∀ old, (after past).cellFor i = some old →
        ∃ f earlier, (.push f :: earlier) <:+ op :: past ∧ (after earlier).depth = old.index ∧
          f.code = old.frame.code := by
      intro old hold
      obtain ⟨f, earlier, hpush, hrest⟩ := ih hold
      exact ⟨f, earlier, hpush.trans (List.suffix_cons op past), hrest⟩
    cases op with
    | push f =>
      rw [after, apply, cellFor_push] at h
      split at h
      · obtain rfl := Option.some.inj h
        exact ⟨f, past, List.suffix_refl _, rfl, rfl⟩
      · exact kept cell h
    | pop => exact kept cell h
    | setLine line =>
      rw [after, apply, cellFor_setLine] at h
      split at h
      · obtain ⟨old, hold, rfl⟩ := Option.map_eq_some_iff.mp h
        exact kept old hold
      · exact kept cell h
    | reset => exact kept cell h

/-- A cell belongs to a depth whose place in the ring it is. -/
theorem index_mod_of_cell {i : Nat} {cell : Cell} (h : (after past).cellFor i = some cell) :
    cell.index % capacity = i % capacity := by
  induction past generalizing i cell with
  | nil => simp [after, cellFor, empty, Vector.get] at h
  | cons op past ih =>
    cases op with
    | push f =>
      rw [after, apply, cellFor_push] at h
      split at h
      case isTrue heq =>
        obtain rfl := Option.some.inj h
        exact heq
      case isFalse => exact ih h
    | pop => exact ih h
    | setLine line =>
      rw [after, apply, cellFor_setLine] at h
      split at h
      case isTrue =>
        obtain ⟨old, hold, rfl⟩ := Option.map_eq_some_iff.mp h
        have hold' : old.index % capacity = i % capacity := ih hold
        exact hold'
      case isFalse => exact ih h
    | reset => exact ih h

/-- The frames of the stack are those that were entered at the times told by the entries. -/
theorem forall₂_entries (past : History) :
    List.Forall₂ (fun n f => EnteredAt past n f.code) (entries past) (stackAfter past).frames := by
  induction past with
  | nil => exact .nil
  | cons op past ih =>
    have hmono : List.Forall₂ (fun n f => EnteredAt (op :: past) n f.code) (entries past)
        (stackAfter past).frames := ih.imp fun _ _ h => h.mono op
    cases op with
    | push f =>
      exact List.rel_append hmono
        (.cons ⟨f, past, List.suffix_refl _, rfl, rfl⟩ .nil)
    | pop =>
      rw [List.forall₂_iff_get] at hmono ⊢
      refine ⟨by simp [entries, stackAfter, CutStack.leave, hmono.1], fun i h₁ h₂ => ?_⟩
      simpa [entries, stackAfter, CutStack.leave] using hmono.2 i
        (by simp [entries] at h₁; omega) (by simp [stackAfter, CutStack.leave] at h₂; omega)
    | setLine line =>
      rw [List.forall₂_iff_get] at hmono ⊢
      refine ⟨by simp [entries, stackAfter, CutStack.setLine, hmono.1], fun i h₁ h₂ => ?_⟩
      have h := hmono.2 i h₁ (by simpa [stackAfter, CutStack.setLine] using h₂)
      simp only [stackAfter, CutStack.setLine, List.get_eq_getElem, List.getElem_modify] at h ⊢
      split <;> exact h
    | reset => exact .nil

/-- The cell of the innermost frame, if it belongs to that frame, holds its code. -/
theorem enteredAt_of_innermost {cell : Cell}
    (hcell : (after past).cellFor ((after past).depth - 1) = some cell)
    (hindex : cell.index + 1 = (after past).depth) :
    ∃ n, (entries past).getLast? = some n ∧ EnteredAt past n cell.frame.code := by
  have hshow := shows_after past
  have hentries := List.forall₂_iff_get.mp (forall₂_entries past)
  have hdepth := hshow.depth_eq
  have hlen := hentries.1
  -- A cell outside the cut would belong to another frame.
  have hcut : (stackAfter past).cut ≤ (after past).depth - 1 := by
    by_contra hlost
    exact hshow.lost ((after past).depth - 1) (by omega) cell hcell (by omega)
  have htop := hshow.readable ((after past).depth - 1)
    (stackAfter past).frames[(after past).depth - 1] hcut (List.getElem?_eq_getElem (by omega))
  rw [hcell, Option.some.injEq] at htop
  have hn : (after past).depth - 1 < (entries past).length := by omega
  have hentered := hentries.2 ((after past).depth - 1) hn (by omega)
  refine ⟨(entries past)[(after past).depth - 1], ?_, ?_⟩
  · have hlast : (entries past).length - 1 = (after past).depth - 1 := by omega
    rw [List.getLast?_eq_getElem?, hlast, List.getElem?_eq_getElem hn]
  · simpa only [htop, List.get_eq_getElem] using hentered

end CrashTrace.Ring
