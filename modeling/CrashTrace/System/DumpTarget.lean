/-!
# Dump targets

Where a signal handler writes and what it shows. Clearing a target takes the descriptor away and
leaves the choice of threads.

## Main definitions

- `DumpTarget.set`, `DumpTarget.clear`, `DumpTarget.load?`
-/

namespace CrashTrace

/-- The descriptor that receives dumps, if any, and whether they show all threads. -/
structure DumpTarget where
  descriptor : Option Int
  allThreads : Bool
  deriving DecidableEq

namespace DumpTarget

/-- No descriptor yet. -/
def initial : DumpTarget := ⟨none, true⟩

/-- Sets both parts. -/
def set (_ : DumpTarget) (descriptor : Int) (allThreads : Bool) : DumpTarget :=
  ⟨some descriptor, allThreads⟩

/-- Takes the descriptor away. -/
def clear (t : DumpTarget) : DumpTarget := { t with descriptor := none }

/-- Both parts, if there is a descriptor. -/
def load? (t : DumpTarget) : Option (Int × Bool) :=
  t.descriptor.map fun descriptor => (descriptor, t.allThreads)

end DumpTarget

end CrashTrace
