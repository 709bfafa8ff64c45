import CrashTrace.Proofs.Output.Accepting
import CrashTrace.Proofs.Registry.Ownership
import CrashTrace.Proofs.Text.Numeral
import CrashTrace.Report.Stack

/-!
# Reports and snapshots

Frames are shown in two ways: a report reads them one after the other while it writes, and a
snapshot collects them first. Both show the same. What a report on all threads writes is the
rendering of the snapshots of all threads.

## Main definitions

- `Snapshot.lines` — the lines for the frames of a snapshot
- `Report.block` — the part of a report for one snapshot
- `Report.rendering` — the report for a list of snapshots

## Main results

- `Report.reports_written`
-/

namespace CrashTrace

open Registry (SlotIndex)

/-- One line for each frame and a mark for missing ones, or a line for a stack without frames. -/
def Snapshot.lines (s : Snapshot) : Text :=
  if s.frames = [] then Report.noFrameLine
  else s.frames.flatMap (·.pieces.text) ++ if s.truncated then Report.moreFramesLine else []

namespace Report

/-- What a report that `caller` asks for shows of one thread. -/
def block (caller : Option ThreadId) (collecting : Bool) (s : Snapshot) : Text :=
  (if caller = some s.thread then "Current thread 0x" else "Thread 0x").toList
    ++ Numeral.hexPadded 16 s.thread.toNat ++ " (most recent call first):\n".toList
    ++ (if collecting ∧ caller = some s.thread then collectingLine else [])
    ++ s.lines

/-- The report for a list of snapshots: as many as a report shows, with a blank line between them,
and a mark after another blank line if there are more. -/
def rendering (caller : Option ThreadId) (collecting : Bool) (snapshots : List Snapshot) : Text :=
  ['\n'].intercalate ((snapshots.take maxThreads).map (block caller collecting))
    ++ if maxThreads < snapshots.length then '\n' :: moreThreadsLine else []

-- ════════════════════════════════════════════════════════════════════════
-- One thread
-- ════════════════════════════════════════════════════════════════════════

/-- The frames that a report reads are those that as many requests collect. -/
theorem framesFrom_eq (ring : Ring) (n written : Nat) (c : Cursor) :
    framesFrom ring n written c =
      (c.take ring n).1.flatMap Frame.pieces
        ++ closing (written + (c.take ring n).1.length) (c.take ring n).2 := by
  induction n generalizing written c with
  | zero => rfl
  | succ n ih =>
    unfold framesFrom Cursor.take
    split
    · next f c' hnext =>
      rw [hnext, ih]
      simp [Nat.add_assoc, Nat.add_comm 1]
    · next c' hnext =>
      rw [hnext]
      rfl

theorem text_flatMap (frames : List Frame) :
    Pieces.text (frames.flatMap Frame.pieces) = frames.flatMap (·.pieces.text) := by
  induction frames with
  | nil => rfl
  | cons f frames ih => simp [ih]

theorem text_closing (frames : List Frame) (c : Cursor) :
    frames.flatMap (·.pieces.text) ++ (closing frames.length c).text =
      if frames = [] then noFrameLine
      else frames.flatMap (·.pieces.text) ++ if c.truncated then moreFramesLine else [] := by
  cases frames with
  | nil => simp [closing]
  | cons f frames => cases htruncated : c.truncated <;> simp [closing, htruncated]

theorem slot_walk (r : Registry) (h : ThreadHandle) : (r.walk h).slot = h.slot := by
  unfold Registry.walk
  split <;> rfl

/-- Reading a handle for a report and taking its snapshot show the same. -/
theorem text_frames (r : Registry) (h : ThreadHandle) :
    (frames r (r.walk h)).text = (r.snapshot h).lines := by
  rw [frames, framesFrom_eq, Pieces.text_append, text_flatMap, Nat.zero_add, text_closing, slot_walk]
  rfl

theorem text_block (r : Registry) {caller : Option ThreadId} {h : ThreadHandle}
    (hcurrent : h.isCurrent = decide (caller = some h.thread)) (collecting : Bool) :
    (threadHeader h.thread h.isCurrent
        ++ (if collecting && h.isCurrent then [collectingLine] else [])
        ++ frames r (r.walk h)).text =
      block caller collecting (r.snapshot h) := by
  have hthread : (r.snapshot h).thread = h.thread := rfl
  unfold block threadHeader
  rw [hthread, Numeral.hexWord_eq, Pieces.text_append, Pieces.text_append, text_frames, hcurrent]
  by_cases hcaller : caller = some h.thread
  · cases collecting <;> simp [hcaller, Numeral.wordDigits]
  · simp [hcaller, Numeral.wordDigits]

-- ════════════════════════════════════════════════════════════════════════
-- All threads
-- ════════════════════════════════════════════════════════════════════════

theorem intercalate_cons (mark : Char) (part : Text) (parts : List Text) :
    [mark].intercalate (part :: parts) = part ++ parts.flatMap (mark :: ·) := by
  induction parts generalizing part with
  | nil => simp
  | cons next parts ih =>
    rw [List.intercalate_cons_cons, ih, List.flatMap_cons]
    simp

section Threads

variable (r : Registry) (caller : Option ThreadId) (collecting : Bool)

theorem isCurrent_of_handleAt? {i : SlotIndex} {h : ThreadHandle}
    (hi : r.handleAt? caller i = some h) : h.isCurrent = decide (caller = some h.thread) := by
  obtain ⟨t, -, rfl⟩ := Option.map_eq_some_iff.mp hi
  rfl

/-- After the first thread every other one comes behind a blank line. Once as many threads as a
report shows have been written, one more leaves its mark and nothing else is written. -/
theorem text_threadsFrom (slots : List SlotIndex) {count : Nat} (hcount : 0 < count) :
    (threadsFrom r caller collecting slots count).text =
      ((slots.filterMap (r.handleAt? caller)).take (maxThreads - count)).flatMap
          (fun h => '\n' :: block caller collecting (r.snapshot h))
        ++ if count ≤ maxThreads ∧
              maxThreads - count < (slots.filterMap (r.handleAt? caller)).length then
            '\n' :: moreThreadsLine
          else [] := by
  induction slots generalizing count with
  | nil => simp [threadsFrom]
  | cons i slots ih =>
    unfold threadsFrom
    cases hi : r.handleAt? caller i with
    | none =>
      rw [List.filterMap_cons_none hi]
      exact ih hcount
    | some h =>
      rw [List.filterMap_cons_some hi]
      dsimp only
      by_cases hmore : maxThreads < count
      · rw [if_pos hmore, if_neg (by omega), Nat.sub_eq_zero_of_le (Nat.le_of_lt hmore)]
        simp
      · rw [if_neg hmore, Pieces.text_append, ih (Nat.succ_pos count), nthThread,
          if_neg (Nat.ne_of_gt hcount)]
        by_cases hlast : maxThreads ≤ count
        · obtain rfl : count = maxThreads := by omega
          rw [if_pos hlast, if_neg (by omega), if_pos (by simp), Nat.sub_self,
            Nat.sub_eq_zero_of_le (Nat.le_succ maxThreads)]
          simp
        · have hroom : maxThreads - count = (maxThreads - (count + 1)) + 1 := by omega
          rw [if_neg hlast, Pieces.text_append,
            text_block r (isCurrent_of_handleAt? r caller hi) collecting, hroom,
            List.take_succ_cons, List.flatMap_cons]
          have hiff : (count + 1 ≤ maxThreads ∧ maxThreads - (count + 1) <
                (slots.filterMap (r.handleAt? caller)).length) ↔
              (count ≤ maxThreads ∧ maxThreads - (count + 1) + 1 <
                (h :: slots.filterMap (r.handleAt? caller)).length) := by
            rw [List.length_cons]
            omega
          simp only [hiff, Pieces.text_cons, Pieces.text_nil, List.append_nil, List.cons_append,
            List.nil_append, List.append_assoc]

/-- The first thread has no blank line before it. -/
theorem text_threadsFrom_zero (slots : List SlotIndex) :
    (threadsFrom r caller collecting slots 0).text =
      rendering caller collecting ((slots.filterMap (r.handleAt? caller)).map r.snapshot) := by
  induction slots with
  | nil => rfl
  | cons i slots ih =>
    unfold threadsFrom
    cases hi : r.handleAt? caller i with
    | none =>
      rw [List.filterMap_cons_none hi]
      exact ih
    | some h =>
      rw [List.filterMap_cons_some hi]
      dsimp only
      rw [if_neg (Nat.not_lt_zero _), Pieces.text_append, text_threadsFrom _ _ _ _ (Nat.succ_pos 0),
        nthThread, if_pos rfl, if_neg (by decide), List.nil_append,
        text_block r (isCurrent_of_handleAt? r caller hi) collecting, rendering, List.map_cons,
        List.length_cons, List.length_map]
      have hroom : maxThreads = (maxThreads - 1) + 1 := rfl
      have hiff : (0 + 1 ≤ maxThreads ∧ maxThreads - (0 + 1) <
            (slots.filterMap (r.handleAt? caller)).length) ↔
          maxThreads < (slots.filterMap (r.handleAt? caller)).length + 1 := by
        unfold maxThreads
        omega
      rw [hroom, List.take_succ_cons, List.map_cons, intercalate_cons, ← hroom]
      simp only [hiff, List.flatMap_map, ← List.map_take, List.append_assoc]

/-- The report on the calling thread shows what capturing that thread gives. -/
theorem text_traceback :
    (traceback r (r.current? caller) collecting).text =
      stackHeader ++ (if collecting then collectingLine else []) ++
        match r.capture? caller with
        | some s => s.lines
        | none => noFrameLine := by
  unfold traceback Registry.capture?
  cases r.current? caller with
  | none => cases collecting <;> simp
  | some h =>
    have hlines := text_frames r h
    cases collecting <;> simp [hlines]

end Threads

/-- On a writer that accepts everything, a report on all threads is the rendering of the snapshots
of all threads in the order of their slots, and a report on the calling thread that of its own
snapshot. -/
theorem reports_written {w : Writer} (hw : w.Accepts) (r : Registry) (caller : Option ThreadId)
    (collecting : Bool) :
    ((w.emit (allThreads r caller collecting)).1 = .ok () ∧
      (w.emit (allThreads r caller collecting)).2.taken =
        w.taken ++ (rendering caller collecting ((r.threads caller).map r.snapshot)).bytes) ∧
    (w.emit (traceback r (r.current? caller) collecting)).1 = .ok () ∧
      (w.emit (traceback r (r.current? caller) collecting)).2.taken =
        w.taken ++ (stackHeader ++ (if collecting then collectingLine else []) ++
          match r.capture? caller with
          | some s => s.lines
          | none => noFrameLine).bytes := by
  have hall : (allThreads r caller collecting).text =
      rendering caller collecting ((r.threads caller).map r.snapshot) :=
    text_threadsFrom_zero r caller collecting (List.finRange Registry.capacity)
  rw [← hall, ← text_traceback]
  exact ⟨Writer.emit_of_accepts hw _, Writer.emit_of_accepts hw _⟩

/-- A registry with one thread, which is in one frame. -/
def oneThread : Registry :=
  Registry.empty.putSlot ⟨0, by decide⟩ ⟨some 4096, some (Ring.empty.push ⟨⟨"main", "a.py"⟩, 3⟩)⟩

theorem reports_written_interrupted : ∃ w : Writer, w.Accepts ∧
    (w.emit (allThreads oneThread (some 4096) true)).2.taken =
      Text.bytes ("Current thread 0x0000000000001000 (most recent call first):\n".toList
        ++ "  Garbage-collecting\n  File \"a.py\", line 3 in main\n".toList) := by
  have hw : (Writer.limited none (some 3) false true).Accepts := ⟨rfl, fun _ => (by decide : some 3 ≠ some 0)⟩
  have hrendering : rendering (some 4096) true
      ((oneThread.threads (some 4096)).map oneThread.snapshot) =
        "Current thread 0x0000000000001000 (most recent call first):\n".toList
          ++ "  Garbage-collecting\n  File \"a.py\", line 3 in main\n".toList := by
    decide +kernel
  refine ⟨_, hw, ?_⟩
  rw [((reports_written hw oneThread (some 4096) true).1).2, hrendering]
  rfl

end Report

end CrashTrace
