import CrashTrace.Process.Basic

/-!
# Reading and changing signal actions

The system calls on signal actions, and the life of a saved action: it is recorded before a
handler is installed and put back afterwards.

## Main definitions

- `Process.action?`, `Process.setAction?`
- `Process.capture`, `Process.restore`, `Process.reinstate`

## Design notes

Setting an action that discards a signal throws away the arrivals of that signal that are still
pending. A saved action is put back at most once for each time it is marked as installed.
-/

namespace CrashTrace

namespace Process

def action? (p : Process) (s : Signal) : Option Action :=
  if s.actionReadable then some (p.actions.get s) else none

def setAction (p : Process) (s : Signal) (a : Action) : Process :=
  { p with
    actions := p.actions.put s a
    pending := if a.discards s then p.pending.filter (· ≠ s) else p.pending }

/-- Sets the action of a signal, if it can be changed. -/
def setAction? (p : Process) (s : Signal) (a : Action) : Option Process :=
  if s.actionChangeable then some (p.setAction s a) else none

/-- Sets the action of a signal; nothing happens if it cannot be changed. -/
def trySetAction (p : Process) (s : Signal) (a : Action) : Process :=
  (p.setAction? s a).getD p

def capture (p : Process) (saved : SavedAction) (s : Signal) : Except Failure SavedAction :=
  match p.action? s with
  | some a => .ok { saved with previous := a }
  | none => .error (.system Errno.invalidArgument)

/-- Puts a recorded action back if it is marked as installed, and removes the mark. -/
def restore (p : Process) (saved : SavedAction) (s : Signal) : Bool × SavedAction × Process :=
  if saved.installed then (true, { saved with installed := false }, p.trySetAction s saved.previous)
  else (false, saved, p)

/-- Puts a recorded action back if it is marked as installed, and keeps the mark. -/
def reinstate (p : Process) (saved : SavedAction) (s : Signal) : Process :=
  if saved.installed then p.trySetAction s saved.previous else p

end Process

end CrashTrace
