import CrashTrace.Log.Directive
import CrashTrace.Log.Event
import CrashTrace.Text.Split

/-!
# Log filters

A filter says which events a log shows. It is written as directives with commas between them. Of
the directives that are for an event the most specific one decides.

## Main definitions

- `LogFilter.ofText`, `LogFilter.complaints` — a whole filter, and what is wrong with it
- `LogFilter.shows` — whether a filter shows an event
-/

namespace CrashTrace

/-- A filter: the directives that it was made of, each with what it says. -/
structure LogFilter where
  directives : List (Text × Except DirectiveFault LogDirective)

namespace LogFilter

/-- The filter that a text says. Nothing between two commas is no directive. -/
def ofText (s : Text) : LogFilter :=
  ⟨((s.split ',').filter (!·.isEmpty)).map fun part => (part, LogDirective.ofText part)⟩

/-- One line for each directive that says nothing. -/
def complaints (f : LogFilter) : List String :=
  f.directives.filterMap fun (part, said) =>
    match said with
    | .ok _ => none
    | .error fault => some ("ignoring `" ++ String.ofList part ++ "`: " ++ fault.message)

/-- The most specific directive that is for an event; of two that are equally specific, the later
one. -/
def decisive? (f : LogFilter) (origin : Text) (fields : List Text) : Option LogDirective :=
  f.directives.foldl (fun best? entry =>
    match entry.2 with
    | .error _ => best?
    | .ok d =>
      if d.isFor origin fields then
        match best? with
        | some best => if d.atLeast best then some d else best?
        | none => some d
      else best?) none

end LogFilter

namespace LogEvent

def level : Verbosity := .debug

def origin : String := "libdd_faulthandler::collector::api"

/-- The names of the fields by which a directive may ask for an event; the message is one. -/
def fieldNames (e : LogEvent) : List Text := "message".toList :: e.fields.map (·.1.toList)

/-- Level, origin, message and fields. -/
def originLine (e : LogEvent) : String := "DEBUG " ++ origin ++ ": " ++ e.text

end LogEvent

def LogFilter.shows (f : LogFilter) (e : LogEvent) : Bool :=
  match f.decisive? LogEvent.origin.toList e.fieldNames with
  | some d => decide (LogEvent.level.rank ≤ d.level.rank)
  | none => false

end CrashTrace
