import CrashTrace.Pattern.Depth
import CrashTrace.Pattern.Item

/-!
# Sets of characters in a pattern

A set stands between brackets. It holds characters, ranges of them, sets by name and other sets;
two sets can be combined.

## Main definitions

- `PatternSet` — what has been read of a set that is not closed yet
- `PatternSet.step?` — the next character of a set
-/

namespace CrashTrace

/-- The place in a set. -/
inductive PatternSetPlace where
  /-- Nothing has been read. -/
  | first
  /-- Only a caret or dashes have been read. -/
  | start
  | inside
  deriving DecidableEq

/-- What has been read of a set: the depths of its members, and the depth of what they are to be
combined with. -/
structure PatternSet where
  place : PatternSetPlace
  members : List Nat
  left? : Option Nat
  deriving DecidableEq

/-- What has been read once the next character of a set is. -/
inductive PatternSetProgress where
  | within (set : PatternSet) (outer : List PatternSet)
  | closed (depth : Nat)
  deriving DecidableEq

namespace PatternSet

/-- A set of which only the bracket has been read. -/
def initial : PatternSet := ⟨.first, [], none⟩

/-- A character that stands for itself. -/
def plain (c : Char) : PatternItem := .letter c.toNat false

/-- Whether a set by its name has a meaning in some mode. All bytes but some would match parts of
characters. -/
def namedFits (m : PatternMode) (negated : Bool) : Bool :=
  if m.bytewise then !negated else !m.ignoresCase

/-- How deep a set goes, its brackets apart. -/
def depth (s : PatternSet) : Nat :=
  match s.left? with
  | none => PatternDepth.side s.members
  | some left => max left (PatternDepth.side s.members) + 1

def add (s : PatternSet) (depth : Nat) : PatternSet :=
  { s with place := .inside, members := depth :: s.members }

/-- Begins the set that this one is combined with. -/
def combine (s : PatternSet) : PatternSet := ⟨.inside, [], some s.depth⟩

def close (s : PatternSet) : List PatternSet → PatternSetProgress
  | [] => .closed (s.depth + 1)
  | around :: outer => .within (around.add (s.depth + 1)) outer

def names : List String :=
  ["alnum", "alpha", "ascii", "blank", "cntrl", "digit", "graph", "lower", "print", "punct",
    "space", "upper", "word", "xdigit"]

/-- A set by its name between colons and brackets, whether it is negated, and the length of its
spelling after the first bracket. -/
def named? : Text → Option (Bool × Nat)
  | ':' :: rest =>
    let caret : Bool := rest.take 1 = ['^']
    let spelled := rest.drop caret.toNat
    let name := spelled.takeWhile (· ≠ ':')
    if names.contains (String.ofList name) && (spelled.drop name.length).take 2 = [':', ']'] then
      some (caret, 1 + caret.toNat + name.length + 2)
    else none
  | _ => none

/-- The item that begins with a character of a set, and how much of the text after this character
belongs to it. -/
def item? (m : PatternMode) (c : Char) (rest : Text) : Option (PatternItem × Nat) :=
  if c = '\\' then PatternItem.ofEscape? m rest else some (plain c, 0)

/-- How much of a text after a character of a set belongs to the same member: an item, or a range
from one item to another. A dash before the closing bracket or another dash makes no range. -/
def member? (m : PatternMode) (c : Char) (rest : Text) : Option Nat := do
  let (item, used) ← item? m c rest
  let alone := if item.fitsSet m then some used else none
  let gap := m.blanks (rest.drop used)
  match rest.drop (used + gap) with
  | '-' :: after =>
    if m.peek? after = some ']' || m.peek? after = some '-' then alone
    else
      let gap' := m.blanks after
      match after.drop gap' with
      | [] => none
      | c' :: rest' => do
        let (item', used') ← item? m c' rest'
        if item.fitsRange m item' then some (used + gap + 1 + gap' + 1 + used') else none
  | _ => alone

/-- Whether a character, written twice, combines two sets. -/
def combines (c : Char) : Bool := c = '&' || c = '-' || c = '~'

/-- Reads the next character of a set, and tells how much of the text after it has been read
too. All bytes but some would match parts of characters, so no set of bytes is negated. Dashes in
front of a set, and a closing bracket there, stand for themselves. -/
def step? (m : PatternMode) (s : PatternSet) (outer : List PatternSet) (c : Char) (rest : Text) :
    Option (PatternSetProgress × Nat) :=
  if s.place = .first && c = '^' then
    if m.bytewise then none else some (.within { s with place := .start } outer, 0)
  else if s.place ≠ .inside && c = '-' then
    if (plain c).fitsSet m then some (.within { s.add 0 with place := .start } outer, 0) else none
  else if s.place ≠ .inside && c = ']' && s.members.isEmpty then
    if (plain c).fitsSet m then some (.within (s.add 0) outer, 0) else none
  else if c = ']' then some (s.close outer, 0)
  else if c = '[' then
    match named? rest with
    | some (negated, used) =>
      if namedFits m negated then some (.within (s.add 0) outer, used) else none
    | none => some (.within initial (s :: outer), 0)
  else if combines c && rest.take 1 = [c] then some (.within s.combine outer, 1)
  else (member? m c rest).map fun used => (.within (s.add 0) outer, used)

end PatternSet

end CrashTrace
