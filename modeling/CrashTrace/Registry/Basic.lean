import CrashTrace.Stack.Cursor

/-!
# The thread registry

Threads of the observed program register to have their frames recorded. A registered thread owns
one of a fixed number of slots, the lowest free one when it registered. Ownership is recorded
twice: the slot names its owner, and the thread knows its slot.

## Main definitions

- `Registry` — the slots, and the slot of each thread
- `Registry.register`, `Registry.unregister`
- `FrameGuard`, `Registry.enter`, `Registry.leave`, `Registry.setLine` — recording frames

## Design notes

A frame guard remembers only whether entering recorded a frame. Leaving and setting the line act
on the innermost frame of the ring that the thread owns at that time, whichever frame that is.
-/

namespace CrashTrace

/-- The identity of a thread. -/
abbrev ThreadId := UInt64

/-- Why a thread could not register. -/
inductive RegistryFailure where
  | alreadyRegistered
  | full (capacity : Nat)
  deriving DecidableEq

namespace Registry

/-- The number of slots. -/
def capacity : Nat := 256

/-- A place in the table of slots. -/
abbrev SlotIndex := Fin capacity

/-- A place for one thread. The ring is set up when the slot is first claimed, and later owners
use it again. -/
structure Slot where
  owner : Option ThreadId
  ring : Option Ring

end Registry

open Registry in
/-- All slots, and for each thread the slot that it owns. -/
structure Registry where
  slots : Vector Slot capacity
  home : ThreadId → Option SlotIndex

/-- A promise to leave a frame. It tells whether entering recorded one. -/
structure FrameGuard where
  pushed : Bool
  deriving DecidableEq

namespace Registry

/-- The registry without threads. -/
def empty : Registry := ⟨Vector.replicate capacity ⟨none, none⟩, fun _ => none⟩

def slot (r : Registry) (i : SlotIndex) : Slot := r.slots.get i

/-- Replaces the slot at a place. -/
def putSlot (r : Registry) (i : SlotIndex) (s : Slot) : Registry :=
  { r with slots := r.slots.set i s i.isLt }

/-- Records which slot a thread owns. -/
def putHome (r : Registry) (t : ThreadId) (i : Option SlotIndex) : Registry :=
  { r with home := fun u => if u = t then i else r.home u }

@[simp] theorem slot_putSlot (r : Registry) (i j : SlotIndex) (s : Slot) :
    (r.putSlot i s).slot j = if i = j then s else r.slot j := by
  have h : (r.putSlot i s).slot j = if i.val = j.val then s else r.slot j :=
    Vector.getElem_set i.isLt j.isLt
  simpa only [Fin.val_inj] using h

@[simp] theorem home_putSlot (r : Registry) (i : SlotIndex) (s : Slot) :
    (r.putSlot i s).home = r.home := rfl

@[simp] theorem slot_putHome (r : Registry) (t : ThreadId) (i : Option SlotIndex) (j : SlotIndex) :
    (r.putHome t i).slot j = r.slot j := rfl

@[simp] theorem home_putHome (r : Registry) (t u : ThreadId) (i : Option SlotIndex) :
    (r.putHome t i).home u = if u = t then i else r.home u := rfl

/-- The lowest slot without an owner. -/
def freeSlot? (r : Registry) : Option SlotIndex :=
  (List.finRange capacity).find? fun i => (r.slot i).owner.isNone

def ringOf? (r : Registry) (t : ThreadId) : Option Ring :=
  (r.home t).bind fun i => (r.slot i).ring

/-- Changes the ring of the slot that a thread owns, if it owns one. -/
def changeRing (r : Registry) (t : ThreadId) (change : Ring → Ring) : Registry :=
  match r.home t with
  | none => r
  | some i => r.putSlot i { r.slot i with ring := (r.slot i).ring.map change }

/-- Claims the lowest free slot for a thread, with an empty stack. -/
def register (r : Registry) (t : ThreadId) : Except RegistryFailure Registry :=
  if (r.home t).isSome then .error .alreadyRegistered
  else
    match r.freeSlot? with
    | none => .error (.full capacity)
    | some i =>
      let ring := ((r.slot i).ring.getD Ring.empty).reset
      .ok ((r.putSlot i ⟨some t, some ring⟩).putHome t (some i))

/-- Frees the slot of a thread. Without a slot nothing happens. -/
def unregister (r : Registry) (t : ThreadId) : Registry :=
  match r.home t with
  | none => r
  | some i => (r.putSlot i ⟨none, (r.slot i).ring.map Ring.reset⟩).putHome t none

/-- Enters a frame on a thread. Only a registered thread records it. -/
def enter (r : Registry) (t : ThreadId) (f : Frame) : FrameGuard × Registry :=
  if (r.ringOf? t).isSome then (⟨true⟩, r.changeRing t (·.push f)) else (⟨false⟩, r)

/-- Sets the line through a guard, on the innermost frame that its thread has now. -/
def setLine (r : Registry) (t : ThreadId) (g : FrameGuard) (line : UInt32) : Registry :=
  if g.pushed then r.changeRing t (·.setLine line) else r

/-- Leaves a frame through its guard: the innermost frame that the thread has now. -/
def leave (r : Registry) (t : ThreadId) (g : FrameGuard) : Registry :=
  if g.pushed then r.changeRing t Ring.pop else r

end Registry

end CrashTrace
