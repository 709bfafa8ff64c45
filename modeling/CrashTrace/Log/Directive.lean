import CrashTrace.Log.Verbosity
import CrashTrace.Pattern.Reader
import CrashTrace.Text.Cut

/-!
# Directives of a log filter

A directive names a level of detail, an origin whose events it is for, or both. It may also be for
events with a certain field, for what happens inside a span of time, or for a value of a field.

## Main definitions

- `DirectiveFault` — why a directive says nothing, with its wording
- `LogDirective.ofText` — what a directive says
- `LogDirective.isFor`, `LogDirective.atLeast` — the events it is for, and how specific it is

## Design notes

A directive is taken apart without the blanks around it, and its parts are then cut out of the
whole text, blanks included, at the same places. So blanks in front of a directive shift all of
its parts, and blanks after it belong to the level. Places are counted in bytes; a part that would
begin or end inside a character is no part.

A directive is read from left to right, and the first fault counts. Nothing is logged inside a
span here, and a directive for a span or for a value shows nothing.
-/

namespace CrashTrace

/-- Why a directive says nothing. -/
inductive DirectiveFault where
  | malformed
  | unknownLevel
  /-- The value of a field is a pattern that cannot be used. -/
  | value (fault : PatternFault)
  deriving DecidableEq

def DirectiveFault.message : DirectiveFault → String
  | .malformed => "invalid filter directive"
  | .unknownLevel =>
    "error parsing level filter: expected one of \"off\", \"error\", \"warn\", \"info\", "
      ++ "\"debug\", \"trace\", or a number 0-5"
  | .value fault => "invalid field filter: " ++ fault.message

/-- What a directive is for besides an origin. -/
inductive DirectiveScope where
  | everything
  | field (name : Text)
  /-- What happens inside a span, or with a certain value. -/
  | elsewhere
  deriving DecidableEq

/-- One directive. Without an origin it is for all of them. -/
structure LogDirective where
  origin : Text
  scope : DirectiveScope
  level : Verbosity
  deriving DecidableEq

namespace LogDirective

/-! ### Values of fields -/

/-- Whether a text is an exponent, or nothing. -/
def isExponent : Text → Bool
  | [] => true
  | c :: rest =>
    let digits := if rest.take 1 = ['+'] || rest.take 1 = ['-'] then rest.drop 1 else rest
    (c = 'e' || c = 'E') && !digits.isEmpty && digits.all Char.isDigit

/-- Whether a text is a number without a sign: digits with or without a point among them, and
perhaps an exponent. -/
def isUnsigned (s : Text) : Bool :=
  let whole := s.takeWhile Char.isDigit
  let rest := s.drop whole.length
  let point : Bool := rest.take 1 = ['.']
  let fraction := if point then (rest.drop 1).takeWhile Char.isDigit else []
  !(whole.isEmpty && fraction.isEmpty) && isExponent (rest.drop (point.toNat + fraction.length))

def numberWords : List String := ["inf", "infinity", "nan"]

/-- Whether a text is a number, which may have a sign. -/
def isNumber (s : Text) : Bool :=
  let unsigned := if s.take 1 = ['+'] || s.take 1 = ['-'] then s.drop 1 else s
  numberWords.contains (String.ofList (unsigned.map Char.toLower)) || isUnsigned unsigned

/-- Why a field cannot have a value, if so. A number is a value, and anything else is a pattern of
values. -/
def valueFault? (s : Text) : Option PatternFault :=
  if isNumber s then none else Pattern.fault? s

/-! ### Reading a directive -/

/-- Whether a directive can begin with a character: a letter, a digit, or one of three marks. -/
def startsName (c : Char) : Bool :=
  c = '-' || c = ':' || c = '_' || Character.isAlphanumeric c

/-- The part of a directive that begins at byte `start` and has `width` bytes. -/
def part (s : Text) (start width : Nat) : Except DirectiveFault Text :=
  match s.cut? start width with
  | some text => .ok text
  | none => .error .malformed

/-- The part of a directive from byte `start` on. -/
def partFrom (s : Text) (start : Nat) : Except DirectiveFault Text :=
  match s.dropBytes? start with
  | some text => .ok text
  | none => .error .malformed

/-- The level from byte `start` on. Without a word it is the highest. -/
def levelAt (s : Text) (start : Nat) : Except DirectiveFault Verbosity := do
  let word ← partFrom s start
  if word.isEmpty then .ok .trace
  else
    match Verbosity.ofText? word with
    | some level => .ok level
    | none => .error .unknownLevel

/-- What a field between braces asks for: its name alone, or a value too, which follows an equals
sign and ends before the next one. -/
def fieldScope (s : Text) : Except DirectiveFault DirectiveScope :=
  let name := s.takeWhile (· ≠ '=')
  match s.drop name.length with
  | [] => .ok (.field name)
  | _ :: rest =>
    match valueFault? (rest.takeWhile (· ≠ '=')) with
    | none => .ok .elsewhere
    | some fault => .error (.value fault)

/-- The directive with an origin and a scope, of which `rest` is left from byte `start` on. -/
def finish (s : Text) (origin : Text) (scope : DirectiveScope) (start : Nat) :
    Text → Except DirectiveFault LogDirective
  | [] => .ok ⟨origin, scope, .trace⟩
  | '=' :: _ => do .ok ⟨origin, scope, ← levelAt s (start + 1)⟩
  | _ => .error .malformed

/-- The directive with an origin, of which `rest` is left from byte `start` on, after the bracket
that opens a scope. A scope is the name of a span, a field in braces, or both. -/
def ofScope (s : Text) (origin : Text) (start : Nat) (rest : Text) :
    Except DirectiveFault LogDirective :=
  let span : Text := rest.takeWhile fun c => c ≠ ']' && c ≠ '\x7b'
  match rest.drop span.length with
  | [] => .error .malformed
  | ']' :: rest => finish s origin .elsewhere (start + span.width + 1) rest
  | _ :: inside => do
    let field : Text := inside.takeWhile (· ≠ '\x7d')
    match inside.drop field.length with
    | [] => .error .malformed
    | _ :: rest =>
      let text ← part s (start + span.width + 1) field.width
      if text.isEmpty then .error .malformed
      else do
        let scope ← fieldScope text
        match rest with
        | ']' :: rest =>
          finish s origin (if span.isEmpty then scope else .elsewhere)
            (start + span.width + field.width + 3) rest
        | _ => .error .malformed

/-- The directive that a text says. A word alone is a level if there is one of that name, and an
origin otherwise. -/
def ofText (s : Text) : Except DirectiveFault LogDirective :=
  let trimmed : Text := s.trim
  match trimmed with
  | [] => .error .malformed
  | '[' :: rest => ofScope s [] 1 rest
  | first :: _ =>
    if startsName first then do
      let name : Text := trimmed.takeWhile fun c => c ≠ '=' && c ≠ '['
      match trimmed.drop name.length with
      | [] =>
        match Verbosity.ofText? s with
        | some level => .ok ⟨[], .everything, level⟩
        | none => .ok ⟨s, .everything, .trace⟩
      | mark :: rest => do
        let origin ← part s 0 name.width
        if mark = '=' then .ok ⟨origin, .everything, ← levelAt s (name.width + 1)⟩
        else ofScope s origin (name.width + 1) rest
    else .error .malformed

/-! ### Events and specificity -/

/-- Whether a directive is for an event of some origin with some fields. -/
def isFor (d : LogDirective) (origin : Text) (fields : List Text) : Bool :=
  d.origin.isPrefixOf origin
    && match d.scope with
      | .everything => true
      | .field name => fields.contains name
      | .elsewhere => false

/-- Whether a name comes before another in the order of its characters, or is the same. -/
def notAfter : Text → Text → Bool
  | [], _ => true
  | _ :: _, [] => false
  | a :: s, b :: t => if a = b then notAfter s t else decide (a.toNat < b.toNat)

/-- Whether a directive is at least as specific as another: by the length of its origin, then by
whether it asks for a field, then by the order of the field names. -/
def atLeast (d other : LogDirective) : Bool :=
  if d.origin.length = other.origin.length then
    match d.scope, other.scope with
    | .field name, .field otherName => notAfter otherName name
    | _, .field _ => false
    | _, _ => true
  else decide (other.origin.length < d.origin.length)

end LogDirective

end CrashTrace
