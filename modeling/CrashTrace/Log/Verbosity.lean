import CrashTrace.Text.Basic

/-!
# Levels of detail

How much a log shows. A level is written by its name or by its rank.

## Main definitions

- `Verbosity` — the levels, `Verbosity.rank` and `Verbosity.name`
- `Verbosity.ofText?` — the level that a word stands for
-/

namespace CrashTrace

/-- How much a log shows. Each level includes those before it. -/
inductive Verbosity where
  | off
  | error
  | warn
  | info
  | debug
  | trace
  deriving DecidableEq

namespace Verbosity

/-- The place of a level among all levels. -/
def rank : Verbosity → Nat
  | .off => 0
  | .error => 1
  | .warn => 2
  | .info => 3
  | .debug => 4
  | .trace => 5

/-- All levels. -/
def all : List Verbosity := [.off, .error, .warn, .info, .debug, .trace]

def name : Verbosity → String
  | .off => "off"
  | .error => "error"
  | .warn => "warn"
  | .info => "info"
  | .debug => "debug"
  | .trace => "trace"

/-- The digits of a whole number, which may have a plus sign. -/
def digits? (s : Text) : Option Text :=
  let digits := match s with
    | '+' :: rest => rest
    | _ => s
  if !digits.isEmpty && digits.all Char.isDigit then some digits else none

/-- The level that a word stands for: its name in letters of either case, or its rank. -/
def ofText? (s : Text) : Option Verbosity :=
  match digits? s with
  | some digits => all.find? fun level => level.rank = Nat.ofDigitChars 10 digits 0
  | none => all.find? fun level => level.name.toList = s.map Char.toLower

/-- A level's own name stands for it. -/
theorem ofText?_name (level : Verbosity) : ofText? level.name.toList = some level := by
  cases level <;> decide

end Verbosity

end CrashTrace
