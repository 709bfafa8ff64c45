/-!
# Ranges of code points

A property of characters is kept as a table of closed ranges of code points.

## Main definitions

- `CodeRanges`, `CodeRanges.contains` — a table, and looking a code point up in it
-/

namespace CrashTrace

/-- Closed ranges of code points. -/
abbrev CodeRanges := List (Nat × Nat)

namespace CodeRanges

def contains (ranges : CodeRanges) (code : Nat) : Bool :=
  ranges.any fun range => range.1 ≤ code && code ≤ range.2

end CodeRanges

end CrashTrace
