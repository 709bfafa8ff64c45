import CrashTrace.Interpreter
import CrashTrace.Json.Value
import CrashTrace.Settings.Basic

/-!
# Settings as JSON

The compact text of each kind of settings, and its reading. A text is written in one way and may
be read in several: fields in any order, further fields, fields without names, blanks.

## Main definitions

- `FaultSettings.toJson`, `FaultSettings.ofJson?` and the same for the other kinds

## Design notes

Reading takes the fields as they stand and does not apply the checks of the constructors.
-/

namespace CrashTrace

def quoted (name : String) : Text := '"' :: name.toList ++ ['"']

/-- The word for a truth value. -/
def boolWord (b : Bool) : Text := (if b then "true" else "false").toList

/-- A record in compact form. -/
def recordText (fields : List (String × Text)) : Text :=
  '\x7b' :: [','].intercalate (fields.map fun field => quoted field.1 ++ ':' :: field.2)
    ++ ['\x7d']

namespace FaultSettings

/-- The compact form. -/
def toJson (s : FaultSettings) : Text :=
  recordText [("all_threads", boolWord s.allThreads),
    ("create_alt_stack", boolWord s.createAltStack),
    ("use_alt_stack", boolWord s.useAltStack)]

def fieldNames : List Text :=
  ["all_threads".toList, "create_alt_stack".toList, "use_alt_stack".toList]

def ofValue? (v : Json) : Option FaultSettings :=
  match v.record? fieldNames false with
  | some [allThreads, create, use] => do
    some ⟨← allThreads.bool?, ← create.bool?, ← use.bool?⟩
  | _ => none

def ofJson? (s : Text) : Option FaultSettings := (Json.ofText? s).bind ofValue?

end FaultSettings

namespace UserSignalSettings

/-- The compact form. -/
def toJson (s : UserSignalSettings) : Text :=
  recordText [("all_threads", boolWord s.allThreads), ("chain", boolWord s.chain)]

def fieldNames : List Text := ["all_threads".toList, "chain".toList]

def ofValue? (v : Json) : Option UserSignalSettings :=
  match v.record? fieldNames false with
  | some [allThreads, chain] => do some ⟨← allThreads.bool?, ← chain.bool?⟩
  | _ => none

def ofJson? (s : Text) : Option UserSignalSettings := (Json.ofText? s).bind ofValue?

end UserSignalSettings

namespace Duration

/-- The compact form. -/
def toJson (d : Duration) : Text :=
  recordText [("secs", Numeral.decimal d.secs.toNat), ("nanos", Numeral.decimal d.nanos)]

def fieldNames : List Text := ["secs".toList, "nanos".toList]

/-- The duration that a value describes. Nanoseconds may reach beyond a second as long as they
fit into half a word; the seconds they make are carried. -/
def ofValue? (v : Json) : Option Duration :=
  match v.record? fieldNames true with
  | some [secs, nanos] => do ofParts? (← secs.nat? UInt64.size) (← nanos.nat? UInt32.size)
  | _ => none

end Duration

namespace TimerSettings

/-- The compact form. -/
def toJson (s : TimerSettings) : Text :=
  recordText [("timeout", s.timeout.toJson), ("repeat", boolWord s.repeats),
    ("exit", boolWord s.exits)]

def fieldNames : List Text := ["timeout".toList, "repeat".toList, "exit".toList]

def ofValue? (v : Json) : Option TimerSettings :=
  match v.record? fieldNames false with
  | some [timeout, repeats, exits] => do
    some ⟨← Duration.ofValue? timeout, ← repeats.bool?, ← exits.bool?⟩
  | _ => none

def ofJson? (s : Text) : Option TimerSettings := (Json.ofText? s).bind ofValue?

end TimerSettings

namespace Phase

def name : Phase → String
  | .initializing => "Initializing"
  | .initialized => "Initialized"
  | .finalizing => "Finalizing"

def ofName? (s : Text) : Option Phase :=
  [Phase.initializing, .initialized, .finalizing].find? fun phase => phase.name.toList = s

/-- The compact form. -/
def toJson (p : Phase) : Text := quoted p.name

/-- The phase that a value describes: its name, or an object whose only key is the name and whose
only member is null. -/
def ofValue? : Json → Option Phase
  | .string (some s) => ofName? s
  | .object [(some s, .null)] => ofName? s
  | _ => none

def ofJson? (s : Text) : Option Phase := (Json.ofText? s).bind ofValue?

end Phase

end CrashTrace
