import CrashTrace.Registry.Handle

/-!
# Frames under other names

A frame carries the names of its function and its source, and nothing that reads a ring looks at
them. So with other names in its cells a registry has the same threads, and a walk meets the same
frames, each under its other name.

## Main definitions

- `Registry.rename` — the registry with each code location replaced
- `Registry.anonymous` — the registry without names

## Main results

- `Registry.threads_rename`, `Registry.snapshot_rename`
-/

namespace CrashTrace

open Registry (SlotIndex)

variable (f : CodeLocation → CodeLocation)

def Frame.rename (frame : Frame) : Frame := { frame with code := f frame.code }

def Ring.Cell.rename (cell : Ring.Cell) : Ring.Cell := { cell with frame := cell.frame.rename f }

/-- Every cell is renamed, also one that no walk over the ring would meet. -/
def Ring.rename (r : Ring) : Ring := { r with cells := r.cells.map (Option.map (Ring.Cell.rename f)) }

def Snapshot.rename (s : Snapshot) : Snapshot := { s with frames := s.frames.map (Frame.rename f) }

namespace Registry

def Slot.rename (s : Slot) : Slot := { s with ring := s.ring.map (Ring.rename f) }

def rename (r : Registry) : Registry := { r with slots := r.slots.map (Slot.rename f) }

/-- The registry with all names replaced by the empty one. -/
def anonymous (r : Registry) : Registry := r.rename fun _ => ⟨"", ""⟩

end Registry

-- ════════════════════════════════════════════════════════════════════════
-- Rings
-- ════════════════════════════════════════════════════════════════════════

theorem Ring.cellFor_rename (r : Ring) (i : Nat) :
    (r.rename f).cellFor i = (r.cellFor i).map (Ring.Cell.rename f) :=
  Vector.getElem_map _ (mod_capacity_lt i)

theorem Ring.rename_empty : Ring.empty.rename f = Ring.empty := by
  unfold Ring.rename Ring.empty
  rw [Vector.map_replicate]
  rfl

namespace Cursor

theorem next?_rename (r : Ring) (c : Cursor) :
    c.next? (r.rename f) = ((c.next? r).1.map (Frame.rename f), (c.next? r).2) := by
  unfold next?
  rw [Ring.cellFor_rename]
  split
  · rfl
  · cases r.cellFor (c.next - 1) with
    | none => rfl
    | some cell =>
      rw [Option.map_some]
      dsimp only [Ring.Cell.rename]
      split <;> rfl

theorem take_rename (r : Ring) (n : Nat) (c : Cursor) :
    c.take (r.rename f) n = ((c.take r n).1.map (Frame.rename f), (c.take r n).2) := by
  induction n generalizing c with
  | zero => rfl
  | succ n ih =>
    unfold take
    rw [next?_rename]
    obtain ⟨frame?, c'⟩ := c.next? r
    cases frame? with
    | none => rfl
    | some frame =>
      dsimp only [Option.map_some]
      rw [ih]
      rfl

end Cursor

-- ════════════════════════════════════════════════════════════════════════
-- Registries
-- ════════════════════════════════════════════════════════════════════════

namespace Registry

variable (r : Registry)

theorem slot_rename (i : SlotIndex) : (r.rename f).slot i = (r.slot i).rename f :=
  Vector.getElem_map _ i.isLt

theorem owner_rename (i : SlotIndex) : ((r.rename f).slot i).owner = (r.slot i).owner := by
  rw [slot_rename]
  rfl

theorem ringAt_rename (i : SlotIndex) : (r.rename f).ringAt i = (r.ringAt i).rename f := by
  unfold ringAt
  rw [slot_rename]
  change ((r.slot i).ring.map (Ring.rename f)).getD Ring.empty = _
  cases (r.slot i).ring with
  | none => exact (Ring.rename_empty f).symm
  | some ring => rfl

theorem threads_rename (caller : Option ThreadId) :
    (r.rename f).threads caller = r.threads caller := by
  have hhandle : (r.rename f).handleAt? caller = r.handleAt? caller := by
    funext i
    rw [handleAt?, owner_rename, handleAt?]
  rw [threads, hhandle, threads]

/-- A handle has the same walk, whatever the names. -/
theorem walk_rename (h : ThreadHandle) : (r.rename f).walk h = r.walk h := by
  unfold walk
  rw [owner_rename, ringAt_rename]
  rfl

theorem snapshot_rename (h : ThreadHandle) : (r.rename f).snapshot h = (r.snapshot h).rename f := by
  unfold snapshot Cursor.drain
  rw [walk_rename, ringAt_rename, Cursor.take_rename]
  rfl

end Registry

end CrashTrace
