/-!
# How deep a pattern goes

A pattern whose parts lie too deep inside one another is not used. Groups, repetitions and sets
count, and so does each place where several parts stand side by side.

## Main definitions

- `PatternDepth.side` — parts side by side
- `PatternDepth.limit` — the greatest depth
-/

namespace CrashTrace.PatternDepth

/-- The greatest depth of a pattern. -/
def limit : Nat := 250

/-- The depth of parts that stand side by side, from their own depths. One part alone is no deeper
than by itself. -/
def side : List Nat → Nat
  | [] => 0
  | [depth] => depth
  | depths => depths.foldl max 0 + 1

@[simp] theorem side_nil : side [] = 0 := rfl

@[simp] theorem side_singleton (depth : Nat) : side [depth] = depth := rfl

end CrashTrace.PatternDepth
