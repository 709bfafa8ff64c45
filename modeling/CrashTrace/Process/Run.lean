import CrashTrace.Process.Basic

/-!
# Runs

What a process does may end it, and the handlers that one signal sets off need not come to an
end. A run takes a state to one of three outcomes.

## Main definitions

- `ExitStatus` — how a process ended
- `Outcome` — a run has returned, has ended the process, or has used up its budget
- `Run` — runs that follow one another
-/

namespace CrashTrace

/-- How a process ended. -/
inductive ExitStatus where
  | signal (s : Signal)
  | code (n : Nat)
  deriving DecidableEq

/-- What a run comes to. -/
inductive Outcome (α : Type) where
  | returned (value : α) (p : Process)
  | ended (status : ExitStatus) (p : Process)
  /-- More handlers would have to run inside one another than the budget allows. -/
  | unfinished

/-- What a process does from a state. -/
def Run (α : Type) : Type := Process → Outcome α

namespace Run

instance : Monad Run where
  pure value := fun p => .returned value p
  bind run next := fun p =>
    match run p with
    | .returned value p' => next value p'
    | .ended status p' => .ended status p'
    | .unfinished => .unfinished

def state : Run Process := fun p => .returned p p

/-- Goes on from another state. -/
def change (f : Process → Process) : Run Unit := fun p => .returned () (f p)

/-- Ends the process. -/
def finish (status : ExitStatus) : Run Unit := fun p => .ended status p

/-- The budget is used up. -/
def exhausted : Run Unit := fun _ => .unfinished

/-- An operation that gives an answer and a state. -/
def answer {α : Type} (operation : Process → α × Process) : Run α := fun p =>
  let (value, p') := operation p
  .returned value p'

@[simp] theorem pure_apply {α : Type} (value : α) (p : Process) :
    (pure value : Run α) p = .returned value p := rfl

theorem bind_apply {α β : Type} (run : Run α) (next : α → Run β) (p : Process) :
    (run >>= next) p =
      match run p with
      | .returned value p' => next value p'
      | .ended status p' => .ended status p'
      | .unfinished => .unfinished := rfl

@[simp] theorem state_apply (p : Process) : state p = .returned p p := rfl

@[simp] theorem change_apply (f : Process → Process) (p : Process) :
    change f p = .returned () (f p) := rfl

@[simp] theorem finish_apply (status : ExitStatus) (p : Process) :
    finish status p = .ended status p := rfl

end Run

end CrashTrace
