import CrashTrace.Pattern.Set
import CrashTrace.Text.Alphanumeric

/-!
# Reading patterns

A pattern describes values: characters and sets of them, one after the other, repeated, in groups,
or as alternatives. Nothing is matched here, so all that is asked of a pattern is whether it could
be used.

## Main definitions

- `PatternFault` — why a pattern cannot be used
- `PatternReader`, `PatternReader.step?` — what has been read, and the next character
- `Pattern.fault?` — whether a pattern can be used

## Design notes

A step sees the text after its character and may use some of it up; those characters are passed
over. So the reader goes through the text once, by recursion on it.
-/

namespace CrashTrace

/-- Why a pattern cannot be used. -/
inductive PatternFault where
  | malformed
  /-- It asks for the edges of words in all scripts, which a machine without look-around cannot
  find. -/
  | wordEdge
  deriving DecidableEq

def PatternFault.message : PatternFault → String
  | .malformed => "error building NFA"
  | .wordEdge =>
    "unsupported regex feature for DFAs: cannot build DFAs for regexes with Unicode word "
      ++ "boundaries; switch to ASCII word boundaries, or heuristically enable Unicode word "
      ++ "boundaries or use a different regex engine"

/-- A part of a pattern that has been read: how deep it goes, and whether it can be repeated. A
switch cannot. -/
structure PatternPart where
  depth : Nat
  repeatable : Bool
  deriving DecidableEq

/-- What has been read of a group: the depths of its finished alternatives, and the parts of the
last one, the newest first. -/
structure PatternGroup where
  mode : PatternMode
  alternatives : List Nat
  parts : List PatternPart
  deriving DecidableEq

namespace PatternGroup

/-- A group of which nothing has been read. -/
def initial (mode : PatternMode) : PatternGroup := ⟨mode, [], []⟩

/-- How deep the last alternative goes. -/
def lastDepth (g : PatternGroup) : Nat := PatternDepth.side (g.parts.map (·.depth))

/-- How deep a group goes, its parentheses apart. -/
def depth (g : PatternGroup) : Nat := PatternDepth.side (g.lastDepth :: g.alternatives)

/-- Adds a part that can be repeated. -/
def add (g : PatternGroup) (depth : Nat) : PatternGroup :=
  { g with parts := ⟨depth, true⟩ :: g.parts }

/-- Begins another alternative. -/
def alternative (g : PatternGroup) : PatternGroup :=
  { g with alternatives := g.lastDepth :: g.alternatives, parts := [] }

/-- Repeats the last part. -/
def repeat? (g : PatternGroup) : Option PatternGroup :=
  match g.parts with
  | part :: others =>
    if part.repeatable then some { g with parts := ⟨part.depth + 1, true⟩ :: others } else none
  | [] => none

end PatternGroup

/-- What has been read of a pattern: the innermost group and set that are not closed yet, and
those around them. -/
structure PatternReader where
  group : PatternGroup
  outer : List PatternGroup
  sets : List PatternSet
  names : List Text
  /-- Whether the edges of words in all scripts are asked for. -/
  wordEdges : Bool
  deriving DecidableEq

namespace PatternReader

/-- Nothing has been read. -/
def initial : PatternReader := ⟨PatternGroup.initial PatternMode.initial, [], [], [], false⟩

/-- Adds a smallest part. -/
def addItem? (r : PatternReader) (item : PatternItem) : Option PatternReader :=
  if item.fits r.group.mode then
    some { r with
      group := r.group.add 0
      wordEdges := r.wordEdges || (item = .wordEdge && !r.group.mode.bytewise) }
  else none

def openGroup (r : PatternReader) (mode : PatternMode) : PatternReader :=
  { r with group := PatternGroup.initial mode, outer := r.group :: r.outer }

/-- Ends a group. The mode is again what it was before the group. -/
def closeGroup? (r : PatternReader) : Option PatternReader :=
  match r.outer with
  | around :: outer => some { r with group := around.add (r.group.depth + 1), outer := outer }
  | [] => none

/-- Whether a group can have a name. -/
def isName : Text → Bool
  | [] => false
  | first :: others =>
    (first = '_' || Character.isAlphabetic first)
      && others.all fun c =>
        c = '_' || c = '.' || c = '[' || c = ']' || Character.isAlphanumeric c

/-- Begins a group with a name, which no other group has, and tells how long the name is with the
mark after it. -/
def openNamed? (r : PatternReader) (rest : Text) : Option (PatternReader × Nat) :=
  let name := rest.takeWhile (· ≠ '>')
  if isName name && !r.names.contains name && name.length < rest.length then
    some ({ r.openGroup r.group.mode with names := name :: r.names }, name.length + 1)
  else none

/-- Changes the mode up to the end of the group, or begins a group with another mode. -/
def switch? (r : PatternReader) (rest : Text) : Option (PatternReader × Nat) := do
  let switches := rest.takeWhile fun c => c ≠ ':' && c ≠ ')'
  let mode ← r.group.mode.switch? switches
  match rest.drop switches.length with
  | ':' :: _ => some (r.openGroup mode, switches.length + 1)
  | ')' :: _ =>
    if switches.isEmpty then none
    else
      let parts := ⟨0, false⟩ :: r.group.parts
      some ({ r with group := { r.group with mode := mode, parts := parts } }, switches.length + 1)
  | _ => none

/-- What an opening parenthesis begins, and how much of the text after it has been read too. -/
def parenthesis? (r : PatternReader) (rest : Text) : Option (PatternReader × Nat) :=
  let gap := r.group.mode.blanks rest
  match rest.drop gap with
  | '?' :: 'P' :: '<' :: named => (r.openNamed? named).map fun (r, used) => (r, gap + 3 + used)
  | '?' :: '<' :: named => (r.openNamed? named).map fun (r, used) => (r, gap + 2 + used)
  | '?' :: switches => (r.switch? switches).map fun (r, used) => (r, gap + 1 + used)
  | _ => some (r.openGroup r.group.mode, gap)

def openSet (r : PatternReader) : PatternReader := { r with sets := [PatternSet.initial] }

/-- Repeats the last part. A question mark after it asks for the shortest match. -/
def repeat? (r : PatternReader) (rest : Text) : Option (PatternReader × Nat) :=
  r.group.repeat?.map fun g => ({ r with group := g }, (decide (rest.take 1 = ['?'])).toNat)

/-- Reads a character outside of sets, and tells how much of the text after it has been read
too. A repetition by numbers stands in braces, one of which ends the pattern. -/
def stepOutside? (r : PatternReader) (c : Char) (rest : Text) : Option (PatternReader × Nat) :=
  match c with
  | '(' => r.parenthesis? rest
  | ')' => r.closeGroup?.map fun r => (r, 0)
  | '|' => some ({ r with group := r.group.alternative }, 0)
  | '[' => some (r.openSet, 0)
  | '*' | '+' | '?' => r.repeat? rest
  | '\x7b' => none
  | '\\' => do
    let (item, used) ← PatternItem.ofEscape? r.group.mode rest
    let r ← r.addItem? item
    some (r, used)
  | '.' => (r.addItem? .dot).map fun r => (r, 0)
  | '^' | '$' => (r.addItem? .edge).map fun r => (r, 0)
  | _ => (r.addItem? (.letter c.toNat false)).map fun r => (r, 0)

def afterSet (r : PatternReader) : PatternSetProgress → PatternReader
  | .within set outer => { r with sets := set :: outer }
  | .closed depth => { r with group := r.group.add depth, sets := [] }

/-- Reads the next character, and tells how much of the text after it has been read too. -/
def step? (r : PatternReader) (c : Char) (rest : Text) : Option (PatternReader × Nat) :=
  match r.group.mode.blanks (c :: rest) with
  | more + 1 => some (r, more)
  | 0 =>
    match r.sets with
    | set :: outer =>
      (set.step? r.group.mode outer c rest).map fun (progress, used) => (r.afterSet progress, used)
    | [] => r.stepOutside? c rest

/-- Reads a text. The first `skip` characters have been read already. -/
def read? : Nat → PatternReader → Text → Option PatternReader
  | _, r, [] => some r
  | skip + 1, r, _ :: rest => read? skip r rest
  | 0, r, c :: rest => do
    let (r, used) ← r.step? c rest
    read? used r rest

/-- Whether a pattern can end here: all groups and sets have been closed, and it does not go too
deep. -/
def complete (r : PatternReader) : Bool :=
  r.outer.isEmpty && r.sets.isEmpty && r.group.depth ≤ PatternDepth.limit

end PatternReader

/-- Why a pattern cannot be used, if so. -/
def Pattern.fault? (s : Text) : Option PatternFault :=
  match PatternReader.read? 0 PatternReader.initial s with
  | none => some .malformed
  | some r =>
    if !r.complete then some .malformed
    else if r.wordEdges then some .wordEdge
    else none

end CrashTrace
