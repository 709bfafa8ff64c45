import CrashTrace.Report.Emitter
import CrashTrace.Session.Basic

/-!
# Requests on threads and frames

Registering threads, entering and leaving frames, and reading them back through handles, walks
and reports.

## Main definitions

- `ThreadRequest` — the requests
- `Session.threads` — what they do and answer
-/

namespace CrashTrace

/-- What is to be reported. -/
inductive Subject where
  | allThreads
  | dump (allThreads : Bool)
  /-- One thread, by its place in a list of handles. -/
  | handle (name : String) (index : Nat)
  | current
  | modules
  /-- The frames that a walk has left. -/
  | walk

/-- A writer: its room, the most it takes in a call, whether it falls silent when it is full, and
whether it is interrupted. -/
structure WriterSpec where
  room : Option Nat
  portion : Option Nat
  silent : Bool
  interrupted : Bool

def WriterSpec.writer (spec : WriterSpec) : Writer :=
  Writer.limited spec.room spec.portion spec.silent spec.interrupted

/-- The bytes that a writer takes of a report, and how writing it failed. -/
def WriterSpec.answer (spec : WriterSpec) (emitter : Report.Emit Unit) : Answer :=
  match emitter spec.writer with
  | (.ok (), w) => .written w.taken none
  | (.error failure, w) => .written w.taken (some failure)

/-- Requests on threads and frames. -/
inductive ThreadRequest where
  | register
  | unregister
  /-- Enters a frame `count` times; the line grows by `by` each time. -/
  | enter (code : CodeLocation) (line : UInt32) (count : Nat) (step : UInt32)
  /-- Guards are counted from the oldest, or from the newest by negative numbers. -/
  | setLine (guard : Int) (line : UInt32)
  | leave (count : Nat)
  | drop (guard : Int)
  | forget (guard : Int)
  | registerRange (first last : Nat) (code? : Option CodeLocation)
  | snapshot
  | current
  | threads (name? : Option String)
  | read (name : String) (index : Nat)
  | sameHandles (a b : String)
  | walk (name : String) (handles : String) (index : Nat)
  | next (name : String) (count : Nat)
  | report (subject : Subject) (collecting : Bool) (walk : String) (writer : WriterSpec)

namespace Session

def withRegistry (s : Session) (r : Registry) : Session :=
  s.withProcess (s.process.withRegistry r)

def guardsOf (s : Session) (t : ThreadId) : Array FrameGuard := (s.guards.find? t).getD #[]

def putGuards (s : Session) (t : ThreadId) (guards : Array FrameGuard) : Session :=
  { s with guards := s.guards.put t guards }

/-- What the stack of a thread looks like. -/
def view (s : Session) (t : ThreadId) : StackView :=
  ⟨(s.guardsOf t).size, s.process.registry.capture? (some t)⟩

/-- The position that a number of either sign stands for. -/
def position? (size : Nat) (i : Int) : Option Nat :=
  let j := if i < 0 then i + size else i
  if 0 ≤ j ∧ j < size then some j.toNat else none

def registerThread (s : Session) (t : ThreadId) : Except RegistryFailure ThreadId × Session :=
  match s.process.registry.register t with
  | .ok r => (.ok t, s.withRegistry r)
  | .error failure => (.error failure, s)

/-- Enters a frame a number of times, after which a thread has more guards. -/
def pushGuards (r : Registry) (t : ThreadId) (code : CodeLocation) (step : UInt32) :
    Nat → UInt32 → Array FrameGuard → Array FrameGuard × Registry
  | 0, _, guards => (guards, r)
  | n + 1, line, guards =>
    let (guard, r) := r.enter t ⟨code, line⟩
    pushGuards r t code step n (line + step) (guards.push guard)

/-- Enters a frame a number of times and keeps the guards. -/
def enterFrames (s : Session) (t : ThreadId) (code : CodeLocation) (step : UInt32) (count : Nat)
    (line : UInt32) : Session :=
  let (guards, r) := pushGuards s.process.registry t code step count line (s.guardsOf t)
  (s.withRegistry r).putGuards t guards

/-- Drops the newest guard a number of times. -/
def popGuards (r : Registry) (t : ThreadId) : Nat → Array FrameGuard → Array FrameGuard × Registry
  | 0, guards => (guards, r)
  | n + 1, guards =>
    match guards.back? with
    | some guard => popGuards (r.leave t guard) t n guards.pop
    | none => (guards, r)

/-- Drops the newest guards of a thread. -/
def leaveFrames (s : Session) (t : ThreadId) (count : Nat) : Session :=
  let (guards, r) := popGuards s.process.registry t count (s.guardsOf t)
  (s.withRegistry r).putGuards t guards

def takeGuard? (s : Session) (t : ThreadId) (i : Int) : Option (FrameGuard × Session) := do
  let guards := s.guardsOf t
  let j ← position? guards.size i
  let guard ← guards[j]?
  some (guard, s.putGuards t (guards.eraseIdxIfInBounds j))

/-- Registers threads by their numbers, `n` of them, and has each enter a frame if one is given. -/
def registerFrom (s : Session) (code? : Option CodeLocation) :
    Nat → Nat → List (ThreadId × RegistryFailure) × Session
  | 0, _ => ([], s)
  | n + 1, number =>
    let t := ThreadId.ofNumber number
    let (result, s) := s.registerThread t
    let s := match code? with
      | some code => s.enterFrames t code 0 1 (UInt32.ofNat number)
      | none => s
    let (failures, s) := registerFrom s code? n (number + 1)
    match result with
    | .ok _ => (failures, s)
    | .error failure => ((t, failure) :: failures, s)

/-- A handle that has been put by. -/
def handle? (s : Session) (name : String) (index : Nat) : Option ThreadHandle :=
  (s.handles.find? name).bind fun handles => handles[index]?

/-- What writes the subject of a request. -/
def emitter (s : Session) (t : ThreadId) (subject : Subject) (collecting : Bool)
    (walk? : Option Walk) : Report.Emit Unit :=
  let r := s.process.registry
  match subject with
  | .allThreads => Report.emitAllThreads r (some t) collecting
  | .dump allThreads => Report.emitDump r (some t) allThreads collecting
  | .handle name index => Report.emitTraceback r (s.handle? name index) collecting
  | .current => Report.emitTraceback r (r.current? (some t)) collecting
  | .modules => Report.emitModules s.process.interpreter
  | .walk => match walk? with
    | some walk => Report.emitFrames r walk
    | none => pure ()

/-- Carries out a request on threads and frames. -/
def threads (s : Session) (t : ThreadId) : ThreadRequest → Answer × Session
  | .register =>
    let (result, s) := s.registerThread t
    (.registered result, s)
  | .unregister =>
    let r := s.process.registry
    let s := s.withRegistry (r.unregister t)
    (.unregistered (r.home t).isSome (s.view t), s)
  | .enter code line count step =>
    let s := s.enterFrames t code step count line
    (.stack (s.view t), s)
  | .setLine i line =>
    let s := match (position? (s.guardsOf t).size i).bind fun j => (s.guardsOf t)[j]? with
      | some guard => s.withRegistry (s.process.registry.setLine t guard line)
      | none => s
    (.stack (s.view t), s)
  | .leave count =>
    let s := s.leaveFrames t count
    (.stack (s.view t), s)
  | .drop i =>
    let s := match s.takeGuard? t i with
      | some (guard, s) => s.withRegistry (s.process.registry.leave t guard)
      | none => s
    (.stack (s.view t), s)
  | .forget i =>
    let s := match s.takeGuard? t i with
      | some (_, s) => s
      | none => s
    (.stack (s.view t), s)
  | .registerRange first last code? =>
    let (failures, s) := s.registerFrom code? (last + 1 - first) first
    (.range failures, s)
  | .snapshot =>
    match s.process.registry.capture? (some t) with
    | some snapshot => (.snapshot snapshot, s)
    | none => (.nothing, s)
  | .current =>
    match s.process.registry.current? (some t) with
    | some handle => (.handle handle, s)
    | none => (.nothing, s)
  | .threads name? =>
    let handles := s.process.registry.threads (some t)
    (.handles handles, match name? with
      | some name => { s with handles := s.handles.put name handles }
      | none => s)
  | .read name index =>
    match s.handle? name index with
    | some handle => (.snapshot (s.process.registry.snapshot handle), s)
    | none => (.nothing, s)
  | .sameHandles a b => (.truth (decide (s.handles.find? a = s.handles.find? b)), s)
  | .walk name handles index =>
    match s.handle? handles index <|> s.process.registry.current? (some t) with
    | some handle =>
      let walk := s.process.registry.walk handle
      (.walk walk.cursor.truncated, { s with walks := s.walks.put name walk })
    | none => (.nothing, s)
  | .next name count =>
    match s.walks.find? name with
    | some walk =>
      let (frames, walk) := s.process.registry.advance count walk
      (.frames frames walk.cursor.truncated, { s with walks := s.walks.put name walk })
    | none => (.nothing, s)
  | .report subject collecting walk writer =>
    (writer.answer (s.emitter t subject collecting (s.walks.find? walk)),
      { s with walks := s.walks.erase walk })

end Session

end CrashTrace
