import CrashTrace.Stack.Frame

/-!
# Rings of frames

The stack of a thread is kept in a ring: the frame at depth `d` lives in cell `d % capacity`, and
each cell remembers the depth it was written for. A stack deeper than the ring overwrites its
outermost frames. Cells are never cleared, neither when a frame is left nor when the ring is
emptied; the depth in a cell tells a reader whether the cell still holds the frame it looks for.

## Main definitions

- `Ring` — the cells and the current depth
- `Ring.push`, `Ring.pop`, `Ring.setLine`, `Ring.reset` — what the owner of a ring does

## Design notes

`setLine` writes to the cell of the innermost frame without looking at the depth in it. After a
deep stack has been unwound that cell may describe another frame.
-/

namespace CrashTrace

namespace Ring

/-- The number of frames that a ring holds. -/
def capacity : Nat := 100

/-- A frame and the depth at which it was entered, the outermost frame being at depth zero. -/
structure Cell where
  index : Nat
  frame : Frame
  deriving DecidableEq

end Ring

/-- The current depth of a stack and the cells of its ring. -/
structure Ring where
  depth : Nat
  cells : Vector (Option Ring.Cell) Ring.capacity
  deriving DecidableEq

namespace Ring

/-- A ring that no frame has been written to. -/
def empty : Ring := ⟨0, Vector.replicate capacity none⟩

theorem mod_capacity_lt (i : Nat) : i % capacity < capacity := Nat.mod_lt _ (by decide)

/-- The cell that belongs to depth `i`, whatever it holds. -/
def cellFor (r : Ring) (i : Nat) : Option Cell :=
  r.cells.get ⟨i % capacity, mod_capacity_lt i⟩

/-- Replaces the cell that belongs to depth `i`. -/
def putCell (r : Ring) (i : Nat) (cell : Option Cell) : Ring :=
  { r with cells := r.cells.set (i % capacity) cell (mod_capacity_lt i) }

def push (r : Ring) (f : Frame) : Ring :=
  { r.putCell r.depth (some ⟨r.depth, f⟩) with depth := r.depth + 1 }

/-- Leaves the innermost frame, if there is one. -/
def pop (r : Ring) : Ring := { r with depth := r.depth - 1 }

/-- Sets the line in the cell of the innermost frame, if there is one. -/
def setLine (r : Ring) (line : UInt32) : Ring :=
  if r.depth = 0 then r
  else
    r.putCell (r.depth - 1)
      ((r.cellFor (r.depth - 1)).map fun cell =>
        { cell with frame := { cell.frame with line := line } })

/-- Leaves all frames. -/
def reset (r : Ring) : Ring := { r with depth := 0 }

/-! ### What the operations change -/

theorem cellFor_putCell (r : Ring) (i j : Nat) (cell : Option Cell) :
    (r.putCell i cell).cellFor j =
      if i % capacity = j % capacity then cell else r.cellFor j := by
  simp only [putCell, cellFor]
  exact Vector.getElem_set (mod_capacity_lt i) (mod_capacity_lt j)

@[simp] theorem depth_empty : empty.depth = 0 := rfl

@[simp] theorem depth_putCell (r : Ring) (i : Nat) (cell : Option Cell) :
    (r.putCell i cell).depth = r.depth := rfl

@[simp] theorem depth_push (r : Ring) (f : Frame) : (r.push f).depth = r.depth + 1 := rfl

@[simp] theorem depth_pop (r : Ring) : r.pop.depth = r.depth - 1 := rfl

@[simp] theorem depth_setLine (r : Ring) (line : UInt32) : (r.setLine line).depth = r.depth := by
  unfold setLine
  split <;> rfl

@[simp] theorem depth_reset (r : Ring) : r.reset.depth = 0 := rfl

@[simp] theorem cellFor_pop (r : Ring) (i : Nat) : r.pop.cellFor i = r.cellFor i := rfl

@[simp] theorem cellFor_reset (r : Ring) (i : Nat) : r.reset.cellFor i = r.cellFor i := rfl

end Ring

end CrashTrace
