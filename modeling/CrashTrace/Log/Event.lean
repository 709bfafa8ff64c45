import CrashTrace.Settings.Basic

/-!
# Log events

The public operations tell a log what they have done. All events have one level and one origin.

## Main definitions

- `LogEvent` — what was done, with its particulars
- `LogEvent.text` — message and fields
- `LogEvent.line` — level, message and fields
-/

namespace CrashTrace

/-- What a public operation has done. -/
inductive LogEvent where
  | enabled (descriptor : Int) (allThreads : Bool)
  | sinkReplaced (descriptor : Int)
  | disabled
  | timerArmed (descriptor : Int) (settings : TimerSettings)
  | timerCancelled (fired : Bool)
  | registered (signum descriptor : Int) (chain : Bool)
  | unregistered (signum : Int) (registered : Bool)
  deriving DecidableEq

namespace LogEvent

/-- The word for a truth value in a log. -/
def word (b : Bool) : String := if b then "true" else "false"

def number (n : Int) : String := String.ofList (Numeral.int n)

def message : LogEvent → String
  | .enabled _ _ => "Fault handler enabled"
  | .sinkReplaced _ => "Fault handler already enabled, replaced its sink"
  | .disabled => "Fault handler disabled"
  | .timerArmed _ _ => "Watchdog armed"
  | .timerCancelled _ => "Watchdog cancelled"
  | .registered _ _ _ => "Registered user signal"
  | .unregistered _ _ => "Unregistered user signal"

/-- The fields of an event, names and values in order. -/
def fields : LogEvent → List (String × String)
  | .enabled fd all => [("fd", number fd), ("all_threads", word all)]
  | .sinkReplaced fd => [("fd", number fd)]
  | .disabled => []
  | .timerArmed fd s =>
    [("fd", number fd), ("timeout", String.ofList s.timeout.short), ("repeat", word s.repeats),
      ("exit", word s.exits)]
  | .timerCancelled fired => [("fired", word fired)]
  | .registered signum fd chain =>
    [("signum", number signum), ("fd", number fd), ("chain", word chain)]
  | .unregistered signum wasRegistered =>
    [("signum", number signum), ("registered", word wasRegistered)]

/-- Message and fields. -/
def text (e : LogEvent) : String :=
  " ".intercalate (e.message :: e.fields.map fun field => field.1 ++ "=" ++ field.2)

/-- Level, message and fields. -/
def line (e : LogEvent) : String := "DEBUG " ++ e.text

end LogEvent

end CrashTrace
