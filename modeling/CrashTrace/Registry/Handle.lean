import CrashTrace.Registry.Basic

/-!
# Thread handles and snapshots

A handle names a slot and the thread that owned it when the handle was made. Reading a handle
gives that thread's frames as long as the slot is still its own.

## Main definitions

- `ThreadHandle`, `Registry.threads`, `Registry.current?`
- `Walk` — a cursor together with the slot that it reads
- `Registry.walk` — the walk over a handle's frames
- `Registry.snapshot`, `Registry.capture?` — all frames at once
-/

namespace CrashTrace

open Registry (SlotIndex)

/-- A slot, the thread that owned it, and whether that thread asked for the handle itself. -/
structure ThreadHandle where
  slot : SlotIndex
  thread : ThreadId
  isCurrent : Bool
  deriving DecidableEq

/-- A walk over the ring of a slot. -/
structure Walk where
  slot : SlotIndex
  cursor : Cursor
  deriving DecidableEq

/-- The frames of a thread at one moment, innermost first. -/
structure Snapshot where
  thread : ThreadId
  isCurrent : Bool
  frames : List Frame
  truncated : Bool
  deriving DecidableEq

namespace Registry

/-- The handle for the owner of a slot, as seen by `caller`. -/
def handleAt? (r : Registry) (caller : Option ThreadId) (i : SlotIndex) : Option ThreadHandle :=
  (r.slot i).owner.map fun t => ⟨i, t, decide (caller = some t)⟩

/-- All registered threads in the order of their slots. -/
def threads (r : Registry) (caller : Option ThreadId) : List ThreadHandle :=
  (List.finRange capacity).filterMap (r.handleAt? caller)

/-- The handle of the calling thread, if it is registered. -/
def current? (r : Registry) (caller : Option ThreadId) : Option ThreadHandle :=
  (r.threads caller).find? (·.isCurrent)

/-- The ring that a walk reads. -/
def ringAt (r : Registry) (i : SlotIndex) : Ring := (r.slot i).ring.getD Ring.empty

/-- The walk over the frames of a handle. A handle whose slot is no longer owned by its thread
shows no frames. -/
def walk (r : Registry) (h : ThreadHandle) : Walk :=
  if (r.slot h.slot).owner = some h.thread then ⟨h.slot, (r.ringAt h.slot).cursor⟩
  else ⟨h.slot, Cursor.done⟩

/-- Asks a walk for up to `n` frames. -/
def advance (r : Registry) (n : Nat) (w : Walk) : List Frame × Walk :=
  let (frames, cursor) := w.cursor.take (r.ringAt w.slot) n
  (frames, { w with cursor := cursor })

/-- The frames of a handle now. -/
def snapshot (r : Registry) (h : ThreadHandle) : Snapshot :=
  let (frames, cursor) := (r.walk h).cursor.drain (r.ringAt h.slot)
  ⟨h.thread, h.isCurrent, frames, cursor.truncated⟩

/-- The frames of the calling thread, if it is registered. -/
def capture? (r : Registry) (caller : Option ThreadId) : Option Snapshot :=
  (r.current? caller).map r.snapshot

end Registry

end CrashTrace
