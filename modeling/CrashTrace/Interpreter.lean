import CrashTrace.Numeral
import CrashTrace.Text.Basic

/-!
# The state of the observed interpreter

What the program under observation tells about itself besides its threads: its phase of life,
whether it collects garbage, and the native modules that it has loaded.

## Main definitions

- `Phase` — before, during and after normal running
- `Interpreter` — phase, garbage collection, native modules
- `Interpreter.unusualPhase?` — a phase worth a line in a fault report
- `Interpreter.modulesLine?` — the line that lists the native modules
-/

namespace CrashTrace

/-- The phase of life of the observed interpreter. -/
inductive Phase where
  | initializing
  | initialized
  | finalizing
  deriving DecidableEq

def Phase.word : Phase → String
  | .initializing => "initializing"
  | .initialized => "initialized"
  | .finalizing => "finalizing"

/-- The phase that a word stands for; any other word means normal running. -/
def Phase.ofWord (word : String) : Phase :=
  if word = Phase.initializing.word then .initializing
  else if word = Phase.finalizing.word then .finalizing
  else .initialized

/-- What the observed interpreter tells about itself. -/
structure Interpreter where
  phase : Phase
  collecting : Bool
  modules : List String
  deriving DecidableEq

namespace Interpreter

/-- An interpreter that runs normally. -/
def initial : Interpreter := ⟨.initialized, false, []⟩

/-- The phase, unless it is the usual one. -/
def unusualPhase? (i : Interpreter) : Option Phase :=
  if i.phase = .initialized then none else some i.phase

/-- The line that lists the native modules and their number. Without modules there is no line. -/
def modulesLine? (i : Interpreter) : Option Text :=
  if i.modules.isEmpty then none
  else
    some ("Extension modules: ".toList ++ (", ".intercalate i.modules).toList
      ++ " (total: ".toList ++ Numeral.decimal i.modules.length ++ ")\n".toList)

end Interpreter

end CrashTrace
