import CrashTrace.Text.Escape

/-!
# Frames

A frame is a place in the code of the observed program together with the line it executes.

## Main definitions

- `CodeLocation` — a function and the source it comes from
- `Frame` — a location and its current line
- `Frame.pieces` — the line that a report shows for a frame
-/

namespace CrashTrace

/-- A function of the observed program and the source that defines it. -/
structure CodeLocation where
  function : String
  source : String
  deriving DecidableEq, Inhabited

/-- One entry of a stack: the code being executed and its current line. -/
structure Frame where
  code : CodeLocation
  line : UInt32
  deriving DecidableEq, Inhabited

/-- The line of a report that shows a frame. -/
def Frame.pieces (f : Frame) : Pieces :=
  "  File \"".toList :: Escape.name f.code.source.toList
    ++ "\", line ".toList :: Numeral.decimalWord f.line.toUInt64
    ++ " in ".toList :: Escape.name f.code.function.toList ++ [['\n']]

end CrashTrace
