import CrashTrace.Failure

/-!
# Signals and their actions

Signals interrupt a thread. For each signal a process has an action: the default, nothing, or a
handler with flags. Some actions cannot be read or changed.

## Main definitions

- `Signal`, `SignalTable`
- `Disposition`, `Action` — what happens when a signal arrives
- `Signal.faults` — the fatal signals with their names, in the order in which they are handled
- `Signal.registrable` — the signals for which dumps can be registered
- `SavedAction` — the action that was there before, kept to be put back
-/

namespace CrashTrace

/-- The number of entries in a table by signal. Signal numbers begin at one. -/
abbrev Signal.count : Nat := 65

/-- A signal. -/
abbrev Signal := Fin Signal.count

namespace Signal

/-- A signal by its number; no signal has number zero. -/
def ofInt? (n : Int) : Option Signal :=
  if h : 1 ≤ n ∧ n < count then some ⟨n.toNat, by have := h.1; have := h.2; omega⟩ else none

def number (s : Signal) : Nat := s.val

def illegal : Signal := 4
/-- An abort of the process by itself. -/
def abort : Signal := 6
def bus : Signal := 7
def arithmetic : Signal := 8
/-- The first signal for free use. -/
def user1 : Signal := 10
/-- An access to memory that is not there. -/
def segmentation : Signal := 11
/-- A write to a pipe that nobody reads. -/
def pipe : Signal := 13

/-- The fatal signals with their names, in the order in which they are handled. -/
def faults : List (Signal × String) :=
  [(bus, "Bus error"), (illegal, "Illegal instruction"),
    (arithmetic, "Floating-point exception"), (abort, "Aborted"),
    (segmentation, "Segmentation fault")]

def faultName? (s : Signal) : Option String := (faults.find? fun fault => fault.1 = s).map (·.2)

/-- The signal of a number if dumps can be registered for it. Fatal signals have fault reports
instead. -/
def registrable (signum : Int) : Except Failure Signal :=
  match Signal.ofInt? signum with
  | none => .error (.signalOutOfRange signum)
  | some s => if s.faultName?.isSome then .error (.fatalSignal signum) else .ok s

/-- Whether the default action of a signal is to do nothing: a child ended, a stopped process goes
on, urgent data came, a window changed its size. -/
def ignoredByDefault (s : Signal) : Bool :=
  s.number = 17 || s.number = 18 || s.number = 23 || s.number = 28

/-- Whether several arrivals of a blocked signal are kept. -/
def queues (s : Signal) : Bool := 32 ≤ s.number

/-- Whether the thread library keeps a signal to itself. Nobody else can send it, read its action
or change it. -/
def reserved (s : Signal) : Bool := s.number = 32 || s.number = 33

/-- Whether the action can be read. -/
def actionReadable (s : Signal) : Bool := s.number ≠ 0 && !s.reserved

/-- Whether the action can be changed: killing and stopping a process cannot be handled. -/
def actionChangeable (s : Signal) : Bool :=
  s.actionReadable && s.number ≠ 9 && s.number ≠ 19

end Signal

/-- One entry for each signal. -/
structure SignalTable (α : Type) where
  entries : Vector α Signal.count
  deriving DecidableEq

namespace SignalTable

variable {α : Type}

/-- The same entry for every signal. -/
def constant (value : α) : SignalTable α := ⟨Vector.replicate Signal.count value⟩

def get (t : SignalTable α) (s : Signal) : α := t.entries[s.val]

/-- Replaces the entry for a signal. -/
def put (t : SignalTable α) (s : Signal) (value : α) : SignalTable α :=
  ⟨t.entries.set s.val value s.isLt⟩

@[simp] theorem get_constant (value : α) (s : Signal) : (constant value).get s = value := by
  simp [constant, get]

theorem get_put (t : SignalTable α) (s u : Signal) (value : α) :
    (t.put s value).get u = if s = u then value else t.get u := by
  simp only [put, get, Vector.getElem_set, Fin.val_inj]

end SignalTable

/-- The handlers that the observed program itself installs. Each one counts its calls. -/
inductive OwnHandler where
  /-- Returns. -/
  | counts
  /-- Ends the process with an exit code. -/
  | exits
  /-- Raises the abort signal. -/
  | aborts
  /-- Unregisters the signal that it handles. -/
  | unregisters
  /-- Raises the first signal for free use. -/
  | raisesUser1
  deriving DecidableEq

/-- What handles a signal. -/
inductive Handler where
  | own (handler : OwnHandler)
  /-- The handler for fatal signals, which reports. -/
  | report
  /-- The handler for ordinary signals, which dumps. -/
  | dump
  deriving DecidableEq

/-- What happens when a signal arrives. -/
inductive Disposition where
  | byDefault
  | ignored
  | handled (handler : Handler)
  deriving DecidableEq

/-- The flags of an action. -/
structure ActionFlags where
  /-- The signal is not blocked while its handler runs. -/
  noDefer : Bool
  /-- The handler runs on the alternate stack. -/
  onStack : Bool
  /-- Interrupted calls go on after the handler. -/
  restart : Bool
  /-- The handler is told where the signal came from. -/
  info : Bool
  deriving DecidableEq

def ActionFlags.none : ActionFlags := ⟨false, false, false, false⟩

/-- What happens when a signal arrives, and how. -/
structure Action where
  disposition : Disposition
  flags : ActionFlags
  deriving DecidableEq

namespace Action

def initial : Action := ⟨.byDefault, ActionFlags.none⟩

/-- Whether a signal with this action is thrown away when it arrives. -/
def discards (a : Action) (s : Signal) : Bool :=
  match a.disposition with
  | .byDefault => s.ignoredByDefault
  | .ignored => true
  | .handled _ => false

end Action

/-- The action that was there before a handler was installed, and whether the handler is still
considered to be installed. -/
structure SavedAction where
  installed : Bool
  previous : Action
  deriving DecidableEq

def SavedAction.initial : SavedAction := ⟨false, Action.initial⟩

end CrashTrace
