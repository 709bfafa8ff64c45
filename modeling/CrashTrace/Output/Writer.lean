import CrashTrace.Failure
import CrashTrace.Text.Basic

/-!
# Writers

A writer takes bytes in its own way: it may have room for a limited number of bytes only, take a
request in several portions, and be interrupted before it takes a portion. `writeAll` offers the
rest of a request again until the writer has taken it or refuses.

## Main definitions

- `Pace` — how a writer divides requests, and how often it is interrupted before a portion
- `Writer` — pace, room, what it does when full, and the portions taken so far
- `Writer.taken` — the bytes of these portions
- `Writer.call` — one request
- `Writer.writeAll` — a request repeated until it is done
- `Writer.emit` — all pieces of a report, up to the first failure

## Design notes

`Pace.waits n` counts the interruptions that still come before the portion that call `n` leads
to. It sinks by one with each interruption, so a request always ends: after finitely many
interruptions the writer takes at least one byte, refuses, or takes none, which is a failure too.
-/

namespace CrashTrace

/-- How a writer divides requests. `portion n` is the most bytes that call `n` takes, no bound if
there is none, and `waits n` the number of calls, from `n` on, that are interrupted first. -/
structure Pace where
  portion : Nat → Option Nat
  waits : Nat → Nat
  waits_succ : ∀ n k, waits n = k + 1 → waits (n + 1) = k

namespace Pace

/-- Takes every request at once. -/
def even : Pace := ⟨fun _ => none, fun _ => 0, by intros; contradiction⟩

/-- Takes at most `portion?` bytes in a call. If `interrupted`, every other call is interrupted,
the first one included. -/
def regular (portion? : Option Nat) (interrupted : Bool) : Pace where
  portion _ := portion?
  waits n := if interrupted && n % 2 == 0 then 1 else 0
  waits_succ := by
    intro n k h
    cases interrupted with
    | false => simp at h
    | true =>
      simp only [Bool.true_and, beq_iff_eq] at h ⊢
      split at h
      · rw [if_neg (by omega)]; omega
      · omega

end Pace

/-- A writer and what it has taken. -/
structure Writer where
  pace : Pace
  /-- How many bytes it still takes; any number if there is no limit. -/
  room : Option Nat
  /-- Whether a full writer answers that it took nothing, instead of failing. -/
  silent : Bool
  /-- How many calls it has seen. -/
  calls : Nat
  /-- The portions that it has taken, the newest first. -/
  portions : List (List UInt8)

/-- What a writer answers to one call. -/
inductive Writer.Reply where
  | interrupted
  | took (count : Nat)
  | failed (failure : IoFailure)
  deriving DecidableEq

namespace Writer

/-- The bytes that a writer has taken, in order. -/
def taken (w : Writer) : List UInt8 := w.portions.reverse.flatten

/-- A writer without a limit that takes every request at once. -/
def unlimited : Writer := ⟨Pace.even, none, false, 0, []⟩

/-- A writer with room for so many bytes, if there is a limit, and so much in each call. -/
def limited (room? portion? : Option Nat) (silent interrupted : Bool) : Writer :=
  ⟨Pace.regular portion? interrupted, room?, silent, 0, []⟩

/-- The least of a count and a bound, if there is a bound. -/
def capped (count : Nat) (bound? : Option Nat) : Nat :=
  match bound? with
  | some bound => min count bound
  | none => count

/-- One request. -/
def call (w : Writer) (bytes : List UInt8) : Reply × Writer :=
  let counted := { w with calls := w.calls + 1 }
  if w.pace.waits w.calls ≠ 0 then (.interrupted, counted)
  else if w.room = some 0 then
    (if w.silent then .took 0 else .failed .limitReached, counted)
  else
    let count := capped (capped bytes.length w.room) (w.pace.portion w.calls)
    (.took count,
      { counted with room := w.room.map (· - count), portions := bytes.take count :: w.portions })

theorem call_calls (w : Writer) (bytes : List UInt8) :
    (w.call bytes).2.calls = w.calls + 1 := by
  unfold call
  dsimp only
  split
  · rfl
  · split
    · split <;> rfl
    · rfl

/-- A call adds what it takes at the end. -/
theorem taken_call_took (w : Writer) (bytes : List UInt8) (count : Nat)
    (h : (w.call bytes).1 = .took count) :
    (w.call bytes).2.taken = w.taken ++ bytes.take count := by
  unfold call at h ⊢
  dsimp only at h ⊢
  split at h <;> rename_i waiting
  · contradiction
  · rw [if_neg waiting]
    split at h <;> rename_i full
    · rw [if_pos full]
      split at h
      · obtain rfl : 0 = count := by simpa using h
        simp [taken]
      · contradiction
    · rw [if_neg full]
      obtain rfl := Reply.took.inj h
      simp [taken]

theorem call_pace (w : Writer) (bytes : List UInt8) : (w.call bytes).2.pace = w.pace := by
  unfold call
  dsimp only
  split
  · rfl
  · split
    · split <;> rfl
    · rfl

theorem waits_ne_zero_of_call (w : Writer) (bytes : List UInt8)
    (h : (w.call bytes).1 = .interrupted) : w.pace.waits w.calls ≠ 0 := by
  unfold call at h
  dsimp only at h
  split at h
  · assumption
  · split at h
    · split at h <;> contradiction
    · contradiction

/-- Offers the rest of a request until the writer has taken all of it, refuses, or takes none of
it. Interruptions are waited out. -/
def writeAll (w : Writer) (bytes : List UInt8) : Except IoFailure Unit × Writer :=
  if bytes = [] then (.ok (), w)
  else
    match _reply : w.call bytes with
    | (.interrupted, w') => writeAll w' bytes
    | (.failed failure, w') => (.error failure, w')
    | (.took count, w') =>
      if count = 0 then (.error .nothingTaken, w')
      else writeAll w' (bytes.drop count)
  termination_by (bytes.length, w.pace.waits w.calls)
  decreasing_by
    · have hw : w' = (w.call bytes).2 := by rw [_reply]
      have hi : (w.call bytes).1 = .interrupted := by rw [_reply]
      rw [hw, call_pace, call_calls]
      obtain ⟨k, hk⟩ := Nat.exists_eq_succ_of_ne_zero (waits_ne_zero_of_call w bytes hi)
      have := w.pace.waits_succ w.calls k hk
      right
      omega
    · left
      rename_i hne hcount
      have : 0 < bytes.length := List.length_pos_iff.mpr hne
      simp only [List.length_drop]
      omega

/-- Writes the pieces of a report one after the other, up to the first failure. -/
def emit (w : Writer) : Pieces → Except ReportFailure Unit × Writer
  | [] => (.ok (), w)
  | piece :: rest =>
    match w.writeAll piece.bytes with
    | (.ok (), w') => emit w' rest
    | (.error failure, w') => (.error ⟨failure⟩, w')

end Writer

end CrashTrace
