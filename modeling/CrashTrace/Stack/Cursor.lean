import CrashTrace.Stack.Ring

/-!
# Reading a ring

A cursor walks a ring from the innermost frame outwards. It fixes at the start which depths it
will look at; the owner of the ring may go on pushing and popping between two requests. A cell
that no longer describes the depth looked for ends the walk.

## Main definitions

- `Ring.cursor` — a walk over the frames that a ring holds now
- `Cursor.next?` — one request for a frame
- `Cursor.take` — the answers to a number of requests, up to the first refusal
- `Cursor.drain` — all frames that are left
- `Cursor.truncated` — whether outermost frames are missing
-/

namespace CrashTrace

/-- A walk over a ring. `next` is one more than the depth to look at next and `bottom` the lowest
depth that the ring can hold; `lost` tells that the walk met a cell of another frame. -/
structure Cursor where
  next : Nat
  bottom : Nat
  lost : Bool
  deriving DecidableEq

/-- A walk that starts at the innermost frame. -/
def Ring.cursor (r : Ring) : Cursor := ⟨r.depth, r.depth - Ring.capacity, false⟩

namespace Cursor

/-- A walk without frames. -/
def done : Cursor := ⟨0, 0, false⟩

/-- Whether outermost frames are missing: the stack was deeper than the ring when the walk began,
or the walk met a cell that had been overwritten. -/
def truncated (c : Cursor) : Bool := decide (0 < c.bottom) || c.lost

/-- Ends the walk at a cell that no longer holds the frame looked for. -/
def stop (c : Cursor) : Cursor := { c with next := c.bottom, lost := true }

/-- Asks for the next frame, further out by one. -/
def next? (r : Ring) (c : Cursor) : Option Frame × Cursor :=
  if c.next ≤ c.bottom then (none, c)
  else
    match r.cellFor (c.next - 1) with
    | some cell =>
      if cell.index = c.next - 1 then (some cell.frame, { c with next := c.next - 1 })
      else (none, c.stop)
    | none => (none, c.stop)

/-- Asks for up to `n` frames and stops at the first refusal. Once `n` frames are there, the cell
after them is not looked at. -/
def take (r : Ring) : Nat → Cursor → List Frame × Cursor
  | 0, c => ([], c)
  | n + 1, c =>
    match c.next? r with
    | (none, c') => ([], c')
    | (some f, c') =>
      let (fs, c'') := take r n c'
      (f :: fs, c'')

/-- All frames that are left. Each frame lowers `next`, so this many requests reach a refusal. -/
def drain (r : Ring) (c : Cursor) : List Frame × Cursor := c.take r (c.next + 1)

end Cursor

end CrashTrace
