import CrashTrace.Numeral
import CrashTrace.Pattern.Mode

/-!
# The smallest parts of a pattern

A part that has no parts of its own stands for one character, or for a place between characters.
Those that are not spelled by themselves begin with a backslash.

## Main definitions

- `PatternItem` — a smallest part
- `PatternItem.ofEscape?` — what is spelled with a backslash
- `PatternItem.fits`, `PatternItem.fitsSet` — whether it has a meaning in some mode

## Design notes

The shorthands for all digits, blanks and letters need tables of characters as soon as they are
not about bytes, and so do properties of characters and the other case of a letter. Patterns are
read without such tables. What is about bytes must not match a part of a character.
-/

namespace CrashTrace

/-- A smallest part of a pattern. -/
inductive PatternItem where
  /-- One character by its code, or one byte. -/
  | letter (code : Nat) (isByte : Bool)
  /-- Any character. -/
  | dot
  /-- A shorthand for some characters, or for all but those. -/
  | shorthand (negated : Bool)
  /-- The begin or end of a line or of the text. -/
  | edge
  /-- The begin or end of a word. -/
  | wordEdge
  deriving DecidableEq

namespace PatternItem

/-- The code that is spelled with this many hexadecimal digits more, and the length of the
spelling. -/
def hexCode? (m : PatternMode) : Nat → Nat → Text → Option (Nat × Nat)
  | 0, code, _ => some (code, 0)
  | digits + 1, code, s =>
    match s.drop (m.blanks s) with
    | [] => none
    | c :: rest => do
      let value ← Numeral.hexValue? c
      let (code, used) ← hexCode? m digits (16 * code + value) rest
      some (code, m.blanks s + 1 + used)

/-- A character by its code in hexadecimal. Two digits may be meant for a byte. -/
def ofHex? (m : PatternMode) (digits : Nat) (s : Text) : Option (PatternItem × Nat) := do
  let (code, used) ← hexCode? m digits 0 s
  if code.isValidChar then some (.letter code (digits = 2), used + 1) else none

/-- What is spelled by a backslash and the text after it, and how much of that text belongs to
it. Letters and digits of ASCII have meanings of their own or none; any other character of ASCII
stands for itself. -/
def ofEscape? (m : PatternMode) : Text → Option (PatternItem × Nat)
  | [] => none
  | c :: rest =>
    match c with
    | 'x' => ofHex? m 2 rest
    | 'u' => ofHex? m 4 rest
    | 'U' => ofHex? m 8 rest
    | 'd' | 's' | 'w' => some (.shorthand false, 1)
    | 'D' | 'S' | 'W' => some (.shorthand true, 1)
    | 'A' | 'z' => some (.edge, 1)
    | 'b' | 'B' | '<' | '>' => some (.wordEdge, 1)
    | 'a' => some (.letter 0x07 false, 1)
    | 't' => some (.letter 0x09 false, 1)
    | 'n' => some (.letter 0x0A false, 1)
    | 'v' => some (.letter 0x0B false, 1)
    | 'f' => some (.letter 0x0C false, 1)
    | 'r' => some (.letter 0x0D false, 1)
    | _ => if c.toNat < 0x80 && !c.isAlphanum then some (.letter c.toNat false, 1) else none

def fits (m : PatternMode) : PatternItem → Bool
  | .letter code isByte => if m.bytewise then !isByte || code < 0x80 else !m.ignoresCase
  | .dot => !m.bytewise
  | .shorthand negated => m.bytewise && !negated
  | .edge | .wordEdge => true

/-- Whether an item has a meaning inside a set of characters. -/
def fitsSet (m : PatternMode) : PatternItem → Bool
  | .letter code _ => if m.bytewise then code < 0x80 else !m.ignoresCase
  | .shorthand negated => m.bytewise && !negated
  | .dot | .edge | .wordEdge => false

/-- Whether a set can hold all characters from one to another. -/
def fitsRange (m : PatternMode) : PatternItem → PatternItem → Bool
  | .letter first isByte, .letter last isByte' =>
    fitsSet m (.letter first isByte) && fitsSet m (.letter last isByte') && first ≤ last
  | _, _ => false

end PatternItem

end CrashTrace
