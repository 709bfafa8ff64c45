import CrashTrace.Numeral
import CrashTrace.Text.Basic

/-!
# Tokens of JSON

The first pass over a JSON text: one state machine that takes the characters one by one and cuts
them into tokens.

## Main definitions

- `Json.Token` — punctuation, words, numbers and strings
- `Json.Token.ofText?` — the tokens of a text, or nothing if it cannot be cut

## Design notes

A string may spell half of a surrogate pair. Such a string is a token all the same, since a reader
may skip it, but it stands for no text. A number keeps its spelling, since a reader may accept
some spellings only.
-/

namespace CrashTrace.Json

/-- A token of JSON. -/
inductive Token where
  | openArray
  | closeArray
  | openObject
  | closeObject
  | colon
  | comma
  | null
  | bool (value : Bool)
  | number (spelling : Text)
  /-- A string and the text that it stands for, if there is one. -/
  | string (text? : Option Text)
  deriving DecidableEq

namespace Token

/-- What a string is made of: characters as they are, and code units spelled by their number. -/
inductive Unit where
  | plain (c : Char)
  | code (n : Nat)
  deriving DecidableEq

/-- The text that units stand for. Two surrogates in a row make one character; a surrogate on its
own makes none. -/
def textOfUnits : List Unit → Option Text
  | [] => some []
  | .plain c :: rest => (textOfUnits rest).map (c :: ·)
  | .code n :: rest =>
    if n < 0xd800 ∨ 0xe000 ≤ n then (textOfUnits rest).map (Char.ofNat n :: ·)
    else if 0xdc00 ≤ n then none
    else
      match rest with
      | .code m :: rest' =>
        if 0xdc00 ≤ m ∧ m < 0xe000 then
          (textOfUnits rest').map
            (Char.ofNat (0x10000 + (n - 0xd800) * 0x400 + (m - 0xdc00)) :: ·)
        else none
      | _ => none

/-- The character that an escape of one letter stands for. -/
def escaped? : Char → Option Char
  | '"' => some '"'
  | '\\' => some '\\'
  | '/' => some '/'
  | 'b' => some (Char.ofNat 8)
  | 'f' => some (Char.ofNat 12)
  | 'n' => some '\n'
  | 'r' => some '\r'
  | 't' => some '\t'
  | _ => none

/-- Whether a text begins with a digit and holds digits only. -/
def isDigits (s : Text) : Bool := !s.isEmpty && s.all Char.isDigit

/-- The exponent of a number: nothing, or a letter, a sign if wanted, and digits. -/
def isExponent : Text → Bool
  | [] => true
  | c :: rest =>
    (c = 'e' || c = 'E') &&
      match rest with
      | '+' :: digits => isDigits digits
      | '-' :: digits => isDigits digits
      | digits => isDigits digits

/-- What may follow the whole part of a number: a fraction if wanted, then an exponent. -/
def isFraction : Text → Bool
  | '.' :: rest => isDigits (rest.takeWhile Char.isDigit) && isExponent (rest.dropWhile Char.isDigit)
  | rest => isExponent rest

/-- A number without its sign. The whole part has no leading zero. -/
def isUnsigned : Text → Bool
  | '0' :: rest => isFraction rest
  | c :: rest => c.isDigit && isFraction (rest.dropWhile Char.isDigit)
  | [] => false

def isNumber : Text → Bool
  | '-' :: rest => isUnsigned rest
  | rest => isUnsigned rest

/-- The token for a run of letters. -/
def ofWord? (s : Text) : Option Token :=
  if s = "null".toList then some .null
  else if s = "true".toList then some (.bool true)
  else if s = "false".toList then some (.bool false)
  else none

/-- Where the state machine stands. Runs and units are kept last first. -/
inductive Mode where
  | between
  | word (run : Text)
  | number (run : Text)
  | string (units : List Unit)
  | escape (units : List Unit)
  | code (units : List Unit) (left value : Nat)
  deriving DecidableEq

/-- A mode and the tokens found so far, last first. -/
structure State where
  mode : Mode
  found : List Token
  deriving DecidableEq

def punctuation? : Char → Option Token
  | '[' => some .openArray
  | ']' => some .closeArray
  | '\x7b' => some .openObject
  | '\x7d' => some .closeObject
  | ':' => some .colon
  | ',' => some .comma
  | _ => none

/-- The white space of JSON. -/
def isBlank (c : Char) : Bool := c = ' ' || c = '\n' || c = '\t' || c = '\r'

/-- The characters that numbers are made of. -/
def isNumeric (c : Char) : Bool :=
  c.isDigit || c = '-' || c = '+' || c = '.' || c = 'e' || c = 'E'

/-- A character that is not part of a token yet. -/
def start (found : List Token) (c : Char) : Option State :=
  if isBlank c then some ⟨.between, found⟩
  else if c = '"' then some ⟨.string [], found⟩
  else if c = '-' ∨ c.isDigit then some ⟨.number [c], found⟩
  else if c.isAlpha then some ⟨.word [c], found⟩
  else (punctuation? c).map fun token => ⟨.between, token :: found⟩

/-- Ends a word or a number. -/
def finish : State → Option State
  | ⟨.word run, found⟩ => (ofWord? run.reverse).map fun token => ⟨.between, token :: found⟩
  | ⟨.number run, found⟩ =>
    if isNumber run.reverse then some ⟨.between, .number run.reverse :: found⟩ else none
  | s => some s

/-- Takes one character. -/
def step (s : State) (c : Char) : Option State :=
  match s.mode with
  | .between => start s.found c
  | .word run =>
    if c.isAlpha then some ⟨.word (c :: run), s.found⟩
    else (finish s).bind fun s' => start s'.found c
  | .number run =>
    if isNumeric c then some ⟨.number (c :: run), s.found⟩
    else (finish s).bind fun s' => start s'.found c
  | .string units =>
    if c = '"' then some ⟨.between, .string (textOfUnits units.reverse) :: s.found⟩
    else if c = '\\' then some ⟨.escape units, s.found⟩
    else if c.toNat < 0x20 then none
    else some ⟨.string (.plain c :: units), s.found⟩
  | .escape units =>
    if c = 'u' then some ⟨.code units 4 0, s.found⟩
    else (escaped? c).map fun e => ⟨.string (.plain e :: units), s.found⟩
  | .code units left value =>
    (Numeral.hexValue? c).map fun digit =>
      let value := value * 16 + digit
      if left ≤ 1 then ⟨.string (.code value :: units), s.found⟩
      else ⟨.code units (left - 1) value, s.found⟩

def ofText? (s : Text) : Option (List Token) := do
  let last ← (← s.foldlM step ⟨.between, []⟩) |> finish
  if last.mode = .between then some last.found.reverse else none

end Token

end CrashTrace.Json
