import CrashTrace.Text.Basic
import CrashTrace.Text.CodeRanges

/-!
# Blanks

The characters that only keep other characters apart: spaces of all widths, tabs and line ends.

## Main definitions

- `Character.isBlank` — the property White_Space of Unicode 17
- `Text.trim` — a text without the blanks around it
-/

namespace CrashTrace

namespace Character

def blankRanges : CodeRanges :=
  [(0x09, 0x0D), (0x20, 0x20), (0x85, 0x85), (0xA0, 0xA0), (0x1680, 0x1680), (0x2000, 0x200A),
    (0x2028, 0x2029), (0x202F, 0x202F), (0x205F, 0x205F), (0x3000, 0x3000)]

def isBlank (c : Char) : Bool := blankRanges.contains c.toNat

/-- Spaces, tabs and line ends of ASCII are blanks. -/
theorem isBlank_of_isWhitespace (c : Char) (h : c.isWhitespace = true) : isBlank c = true := by
  simp only [Char.isWhitespace, Bool.or_eq_true, decide_eq_true_eq] at h
  rcases h with ((h | h) | h) | h <;> subst h <;> decide

end Character

namespace Text

def trim (text : Text) : Text :=
  ((text.dropWhile Character.isBlank).reverse.dropWhile Character.isBlank).reverse

end Text

end CrashTrace
