/-!
# Exclusion

A counter that at most one holder can take at a time, used to keep a dump from starting another
dump. Taking succeeds only on zero.

## Main definitions

- `Exclusion.take?`, `Exclusion.release`
- `Exclusion.trial` — a run of attempts and releases on one counter
-/

namespace CrashTrace

/-- The number of holders. -/
structure Exclusion where
  holders : UInt64
  deriving DecidableEq

namespace Exclusion

/-- Nobody holds it. -/
def free : Exclusion := ⟨0⟩

/-- Takes it, if nobody holds it. -/
def take? (e : Exclusion) : Option Exclusion := if e.holders = 0 then some ⟨1⟩ else none

/-- One holder less. -/
def release (e : Exclusion) : Exclusion := ⟨e.holders - 1⟩

def refusal : String := "Reentrancy guard error: a dump is already in progress"

/-- What a trial does. -/
inductive Attempt where
  | take
  /-- Gives back the newest holding. -/
  | drop
  deriving DecidableEq

/-- What a trial finds. -/
inductive Finding where
  | taken
  | refused
  | dropped (held : Bool)
  deriving DecidableEq

/-- Attempts in a row, each with what came of it and the counter after it. `held` is the number of
holdings of the trial itself. -/
def trial : Exclusion → Nat → List Attempt → List (Finding × UInt64)
  | _, _, [] => []
  | e, held, .take :: rest =>
    match e.take? with
    | some e' => (.taken, e'.holders) :: trial e' (held + 1) rest
    | none => (.refused, e.holders) :: trial e held rest
  | e, 0, .drop :: rest => (.dropped false, e.holders) :: trial e 0 rest
  | e, held + 1, .drop :: rest =>
    let e' := e.release
    (.dropped true, e'.holders) :: trial e' held rest

end Exclusion

end CrashTrace
