import CrashTrace.Registry.Handle

/-!
# Stack reports

The part of a report that shows stacks: one thread, or all registered threads in the order of
their slots. The frames are read while the report is made, one after the other, so that nothing
has to be collected first.

## Main definitions

- `Report.frames` — the lines for a walk
- `Report.threadHeader`
- `Report.traceback` — the stack of one thread
- `Report.allThreads` — at most `Report.maxThreads` threads, then a mark
- `Report.dump` — one or the other
-/

namespace CrashTrace.Report

open Registry (SlotIndex)

/-- The most threads that a report shows. -/
def maxThreads : Nat := 100

/-- The first line of the stack of one thread. -/
def stackHeader : Text := "Stack (most recent call first):\n".toList

/-- The line that tells that the thread collects garbage. -/
def collectingLine : Text := "  Garbage-collecting\n".toList

/-- The line that stands for a stack without frames. -/
def noFrameLine : Text := "  <no Python frame>\n".toList

/-- The line that stands for missing outermost frames. -/
def moreFramesLine : Text := "  ...\n".toList

/-- The line that stands for the threads beyond the limit. -/
def moreThreadsLine : Text := "...\n".toList

/-- The line after the last frame: a mark for an empty stack, a mark for missing frames, or
nothing. An empty stack is marked as such even if frames are missing. -/
def closing (written : Nat) (c : Cursor) : Pieces :=
  if written = 0 then [noFrameLine]
  else if c.truncated then [moreFramesLine]
  else []

/-- Shows up to `n` more frames of a walk, after `written` of them. -/
def framesFrom (ring : Ring) : Nat → Nat → Cursor → Pieces
  | 0, written, c => closing written c
  | n + 1, written, c =>
    match c.next? ring with
    | (some f, c') => f.pieces ++ framesFrom ring n (written + 1) c'
    | (none, c') => closing written c'

/-- The frames of a walk, innermost first. -/
def frames (r : Registry) (w : Walk) : Pieces :=
  framesFrom (r.ringAt w.slot) (w.cursor.next + 1) 0 w.cursor

/-- The first line for a thread. -/
def threadHeader (thread : ThreadId) (isCurrent : Bool) : Pieces :=
  [(if isCurrent then "Current thread 0x" else "Thread 0x").toList,
    Numeral.hexWord Numeral.wordDigits thread,
    " (most recent call first):\n".toList]

/-- The stack of one thread, or of a thread that is not registered. -/
def traceback (r : Registry) (handle? : Option ThreadHandle) (collecting : Bool) : Pieces :=
  stackHeader :: (if collecting then [collectingLine] else [])
    ++ (match handle? with
      | some h => frames r (r.walk h)
      | none => [noFrameLine])

/-- The part of a report for the thread that comes after `index` others. -/
def nthThread (r : Registry) (h : ThreadHandle) (index : Nat) (collecting : Bool) : Pieces :=
  (if index = 0 then [] else [['\n']])
    ++ (if maxThreads ≤ index then [moreThreadsLine]
      else
        threadHeader h.thread h.isCurrent
          ++ (if collecting && h.isCurrent then [collectingLine] else [])
          ++ frames r (r.walk h))

/-- The parts for the threads in the slots given, after `count` others. Once the mark for more
threads stands, nothing follows it. -/
def threadsFrom (r : Registry) (caller : Option ThreadId) (collecting : Bool) :
    List SlotIndex → Nat → Pieces
  | [], _ => []
  | i :: rest, count =>
    match r.handleAt? caller i with
    | none => threadsFrom r caller collecting rest count
    | some h =>
      if maxThreads < count then []
      else nthThread r h count collecting ++ threadsFrom r caller collecting rest (count + 1)

def allThreads (r : Registry) (caller : Option ThreadId) (collecting : Bool) : Pieces :=
  threadsFrom r caller collecting (List.finRange Registry.capacity) 0

/-- The stacks of all threads, or that of the calling thread. -/
def dump (r : Registry) (caller : Option ThreadId) (all collecting : Bool) : Pieces :=
  if all then allThreads r caller collecting
  else traceback r (r.current? caller) collecting

end CrashTrace.Report
