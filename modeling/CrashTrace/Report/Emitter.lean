import CrashTrace.Output.Writer
import CrashTrace.Report.Header
import CrashTrace.Report.Stack

/-!
# Writing reports

Each part of a report goes to its writer by an emitter, which makes one request after the other and
passes on the first failure. For the threads of a report this is done by hand: they are visited
whatever happens, so the failure is kept and the threads after it are passed over.

## Main definitions

- `Report.Emit` — what an emitter does with a writer
- `Report.emitText` — one request
- `Report.emitName`, `Report.emitHex`, `Report.emitDecimal`, `Report.emitFrame`
- `Report.emitFrames`, `Report.emitThreadHeader`, `Report.emitTraceback`
- `Report.visitThreads`, `Report.emitThreads`, `Report.emitAllThreads`, `Report.emitDump`
- `Report.emitFatalHeader`, `Report.emitPhase`, `Report.emitModules`
-/

namespace CrashTrace.Report

open Registry (SlotIndex)

/-- What is done with a writer until something fails. -/
abbrev Emit (α : Type) := ExceptT ReportFailure (StateM Writer) α

/-- Hands a text to the writer in one request. -/
def emitText (text : Text) : Emit Unit := fun w =>
  match w.writeAll text.bytes with
  | (.ok (), w') => (.ok (), w')
  | (.error failure, w') => (.error ⟨failure⟩, w')

/-- Hands a text to the writer if there is a reason to. -/
def emitIf (reason : Bool) (text : Text) : Emit Unit := if reason then emitText text else pure ()

/-! ### Names, numbers and frames -/

/-- Writes the rest of a name, of which `count` characters have been written. -/
def emitNameFrom (count : Nat) : Text → Emit Unit
  | [] => pure ()
  | c :: rest =>
    if Escape.maxChars ≤ count then emitText Escape.ellipsis
    else do
      emitText (Escape.char c)
      emitNameFrom (count + 1) rest

def emitName (name : Text) : Emit Unit := emitNameFrom 0 name

def emitHex (digits : Nat) (n : UInt64) : Emit Unit := emitText (Numeral.hexWord digits n)

/-- Writes a decimal numeral, or nothing if the buffer for its digits is too small. -/
def emitDecimal (n : UInt64) : Emit Unit :=
  match Numeral.inBuffer? Numeral.decimalRoom n with
  | some digits => emitText digits
  | none => pure ()

def emitFrame (f : Frame) : Emit Unit := do
  emitText "  File \"".toList
  emitName f.code.source.toList
  emitText "\", line ".toList
  emitDecimal f.line.toUInt64
  emitText " in ".toList
  emitName f.code.function.toList
  emitText ['\n']

/-- Writes the line after the last frame, if there is one. -/
def emitClosing (written : Nat) (c : Cursor) : Emit Unit :=
  if written = 0 then emitText noFrameLine
  else if c.truncated then emitText moreFramesLine
  else pure ()

/-- Writes up to `n` more frames of a walk, after `written` of them. -/
def emitFramesFrom (ring : Ring) : Nat → Nat → Cursor → Emit Unit
  | 0, written, c => emitClosing written c
  | n + 1, written, c =>
    match c.next? ring with
    | (some f, c') => do
      emitFrame f
      emitFramesFrom ring n (written + 1) c'
    | (none, c') => emitClosing written c'

def emitFrames (r : Registry) (w : Walk) : Emit Unit :=
  emitFramesFrom (r.ringAt w.slot) (w.cursor.next + 1) 0 w.cursor

/-! ### Threads -/

def emitThreadHeader (thread : ThreadId) (isCurrent : Bool) : Emit Unit := do
  emitText (if isCurrent then "Current thread 0x" else "Thread 0x").toList
  emitHex Numeral.wordDigits thread
  emitText " (most recent call first):\n".toList

/-- Writes the stack of one thread, or of a thread that is not registered. -/
def emitTraceback (r : Registry) (handle? : Option ThreadHandle) (collecting : Bool) :
    Emit Unit := do
  emitText stackHeader
  emitIf collecting collectingLine
  match handle? with
  | some h => emitFrames r (r.walk h)
  | none => emitText noFrameLine

/-- Writes the thread that comes after `index` others, or the mark that stands for it and for those
after it. -/
def emitNthThread (r : Registry) (h : ThreadHandle) (index : Nat) (collecting : Bool) :
    Emit Unit := do
  emitIf (index ≠ 0) ['\n']
  if maxThreads ≤ index then emitText moreThreadsLine
  else do
    emitThreadHeader h.thread h.isCurrent
    emitIf (collecting && h.isCurrent) collectingLine
    emitFrames r (r.walk h)

/-- Visits the thread in a slot, if there is one. -/
def visitSlot {σ : Type} (r : Registry) (caller : Option ThreadId)
    (visit : σ → ThreadHandle → StateM Writer σ) (s : σ) (i : SlotIndex) : StateM Writer σ :=
  match r.handleAt? caller i with
  | some h => visit s h
  | none => pure s

/-- Visits the registered threads in the order of their slots. -/
def visitThreads {σ : Type} (r : Registry) (caller : Option ThreadId)
    (visit : σ → ThreadHandle → StateM Writer σ) (slots : List SlotIndex) (s : σ) :
    StateM Writer σ :=
  slots.foldlM (visitSlot r caller visit) s

/-- What writing threads has come to: the first failure, and how many have been visited. -/
abbrev Visited := Except ReportFailure Unit × Nat

/-- Writes one more thread, unless one has failed or the mark for more threads stands already. -/
def visitThread (r : Registry) (collecting : Bool) (visited : Visited) (h : ThreadHandle) :
    StateM Writer Visited :=
  match visited with
  | (.error failure, count) => pure (.error failure, count)
  | (.ok (), count) =>
    if maxThreads < count then pure (.ok (), count)
    else do
      let result ← (emitNthThread r h count collecting).run
      pure (result, count + 1)

/-- Writes the registered threads in some slots, and fails as the first of them did. -/
def emitThreads (r : Registry) (caller : Option ThreadId) (collecting : Bool)
    (slots : List SlotIndex) (visited : Visited) : Emit Unit :=
  ExceptT.mk do
    let visited ← visitThreads r caller (visitThread r collecting) slots visited
    pure visited.1

/-- Writes all registered threads. -/
def emitAllThreads (r : Registry) (caller : Option ThreadId) (collecting : Bool) : Emit Unit :=
  emitThreads r caller collecting (List.finRange Registry.capacity) (.ok (), 0)

/-- Writes the stacks of all threads, or that of the calling thread. -/
def emitDump (r : Registry) (caller : Option ThreadId) (all collecting : Bool) : Emit Unit :=
  if all then emitAllThreads r caller collecting
  else emitTraceback r (r.current? caller) collecting

/-! ### Headers and closing lines -/

/-- Writes the line for the phase, if one is given, and the blank line that ends a header. -/
def emitPhase (phase? : Option Phase) : Emit Unit := do
  match phase? with
  | some phase => do
    emitText "Python runtime state: ".toList
    emitText phase.word.toList
    emitText ['\n']
  | none => pure ()
  emitText ['\n']

def emitFatalHeader (function? : Option String) (message : String) (phase? : Option Phase) :
    Emit Unit := do
  emitText "Fatal Python error: ".toList
  match function? with
  | some function => do
    emitText function.toList
    emitText ": ".toList
  | none => pure ()
  emitText message.toList
  emitText ['\n']
  emitPhase phase?

def emitModules (i : Interpreter) : Emit Unit :=
  match i.modulesLine? with
  | some line => do
    emitText ['\n']
    emitText line
  | none => pure ()

end CrashTrace.Report
