import CrashTrace.Text.Blank

/-!
# How a pattern is read

A pattern may say of its own parts how they are read: letters in either case, blanks left out,
bytes in place of characters.

## Main definitions

- `PatternMode` — how a part of a pattern is read
- `PatternMode.blanks` — the length of what is left out at some place
- `PatternMode.peek?` — the character that follows a dash
- `PatternMode.switch?` — a mode after some switches
-/

namespace CrashTrace

/-- How a part of a pattern is read. -/
structure PatternMode where
  /-- Letters stand for both their cases. -/
  ignoresCase : Bool
  /-- Blanks and comments are no part of the pattern. -/
  spaced : Bool
  /-- It is bytes that are matched, not characters. -/
  bytewise : Bool
  deriving DecidableEq

namespace PatternMode

/-- How a pattern is read that says nothing about it. -/
def initial : PatternMode := ⟨false, false, false⟩

/-- The length of the blanks and comments in front of a text, or of the rest of a comment and
what comes after it. A comment ends with its line. -/
def blankRun : Bool → Text → Nat
  | _, [] => 0
  | true, c :: rest => blankRun (c ≠ '\n') rest + 1
  | false, c :: rest =>
    if Character.isBlank c then blankRun false rest + 1
    else if c = '#' then blankRun true rest + 1
    else 0

/-- The length of what is left out in front of a text. -/
def blanks (m : PatternMode) (s : Text) : Nat := if m.spaced then blankRun false s else 0

/-- The character by which it is decided whether a dash in a set makes a range, from the text after
the dash. Blanks are passed over, and the mark of one comment among them, but not the words of
that comment. -/
def peek? (m : PatternMode) (s : Text) : Option Char :=
  if m.spaced then
    let solid := s.dropWhile Character.isBlank
    if solid.take 1 = ['#'] then ((solid.drop 1).dropWhile Character.isBlank).head?
    else solid.head?
  else s.head?

/-- The switches: letters in either case, line ends in three ways, shortest matches, characters in
place of bytes, blanks left out. -/
def switches : Text := "imsRUux".toList

/-- Whether a text is a list of switches: no switch stands in it twice, and a dash stands in it at
most once, in front of those that are turned off. -/
def isSwitchList (s : Text) : Bool :=
  s.all (fun c => c = '-' || switches.contains c) && s.all (fun c => s.count c = 1)
    && s.getLast? ≠ some '-'

/-- What a list of switches makes of one of them. -/
def setting (s : Text) (letter : Char) (before : Bool) : Bool :=
  if (s.takeWhile (· ≠ '-')).contains letter then true
  else if s.contains letter then false
  else before

def switch? (m : PatternMode) (s : Text) : Option PatternMode :=
  if isSwitchList s then
    some ⟨setting s 'i' m.ignoresCase, setting s 'x' m.spaced, !setting s 'u' (!m.bytewise)⟩
  else none

end PatternMode

end CrashTrace
