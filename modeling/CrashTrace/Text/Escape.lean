import CrashTrace.Numeral
import CrashTrace.Text.Basic

/-!
# Names in a report

Names of functions and sources come from the program under observation and may hold any
character. A report shows printable ASCII as it is and every other character by its code point,
so that a name never breaks a line. Long names are cut.

## Main definitions

- `Escape.char` — the written form of one character
- `Escape.name` — the written form of a name, at most `Escape.maxChars` characters of it
-/

namespace CrashTrace.Escape

/-- The most characters of a name that a report shows. -/
def maxChars : Nat := 500

/-- What stands for the rest of a name that was cut. -/
def ellipsis : Text := "...".toList

/-- Printable ASCII stands for itself; other characters are written as their code point in the
shortest of the widths two, four and eight. -/
def char (c : Char) : Text :=
  let code := c.toNat
  if 0x20 ≤ code ∧ code < 0x7f then [c]
  else if code ≤ 0xff then '\\' :: 'x' :: Numeral.hexPadded 2 code
  else if code ≤ 0xffff then '\\' :: 'u' :: Numeral.hexPadded 4 code
  else '\\' :: 'U' :: Numeral.hexPadded 8 code

/-- The written form of a name, one piece for each character shown. -/
def name (s : Text) : Pieces :=
  (s.take maxChars).map char ++ (if (s.drop maxChars).isEmpty then [] else [ellipsis])

end CrashTrace.Escape
