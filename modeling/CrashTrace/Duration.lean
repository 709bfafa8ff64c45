import CrashTrace.Numeral
import CrashTrace.Text.Basic

/-!
# Durations

Lengths of time in seconds and nanoseconds, with the two texts that show them: a clock text to
the microsecond for timeout headers, and a short text in the largest fitting unit for logs.

## Main definitions

- `Duration` — whole seconds and a fraction below a second
- `Duration.ofParts?` — carries nanoseconds of a second and more into the seconds
- `Duration.clock` — hours, minutes, seconds and, if any, microseconds
- `Duration.short` — a number with a unit
-/

namespace CrashTrace

/-- A length of time: whole seconds, and nanoseconds below one second. -/
structure Duration where
  secs : UInt64
  nanos : Nat
  nanos_lt : nanos < 1000000000
  deriving DecidableEq

namespace Duration

/-- The nanoseconds in a second. -/
def nanosPerSec : Nat := 1000000000

/-- The number of seconds that no longer fits. -/
def secsBound : Nat := UInt64.size

/-- The duration of `secs` seconds and `nanos` nanoseconds, if its seconds fit. -/
def ofParts? (secs nanos : Nat) : Option Duration :=
  let total := secs + nanos / nanosPerSec
  if total < secsBound then
    some ⟨UInt64.ofNat total, nanos % nanosPerSec, Nat.mod_lt _ (by decide)⟩
  else none

/-- No time at all. -/
def zero : Duration := ⟨0, 0, by decide⟩

/-- Whole microseconds below one second. -/
def subsecMicros (d : Duration) : Nat := d.nanos / 1000

/-- Whole microseconds. -/
def micros (d : Duration) : Nat := d.secs.toNat * 1000000 + d.subsecMicros

/-- Hours, then two digits of minutes and of seconds; six digits of microseconds only if there
are any. -/
def clock (d : Duration) : Text :=
  let secs := d.secs.toNat
  Numeral.decimal (secs / 3600) ++ ':' :: Numeral.decimalPadded 2 (secs / 60 % 60)
    ++ ':' :: Numeral.decimalPadded 2 (secs % 60)
    ++ (if d.subsecMicros = 0 then [] else '.' :: Numeral.decimalPadded 6 d.subsecMicros)

/-- The digits of a fraction without the zeros at its end. -/
def trimZeros (digits : Text) : Text := (digits.reverse.dropWhile (· = '0')).reverse

/-- A number with a fraction of `digits` digits, trimmed, and a unit. -/
def withUnit (whole fraction digits : Nat) (unit : String) : Text :=
  Numeral.decimal whole
    ++ (if fraction = 0 then [] else '.' :: trimZeros (Numeral.decimalPadded digits fraction))
    ++ unit.toList

/-- The duration in the largest unit of which there is at least one. -/
def short (d : Duration) : Text :=
  if 0 < d.secs.toNat then withUnit d.secs.toNat d.nanos 9 "s"
  else if 1000000 ≤ d.nanos then withUnit (d.nanos / 1000000) (d.nanos % 1000000) 6 "ms"
  else if 1000 ≤ d.nanos then withUnit (d.nanos / 1000) (d.nanos % 1000) 3 "µs"
  else withUnit d.nanos 0 0 "ns"

end Duration

end CrashTrace
