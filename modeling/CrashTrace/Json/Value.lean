import CrashTrace.Json.Token

/-!
# Values of JSON

The second pass over a JSON text: tokens are put together to one value. Nothing is interpreted
yet: members of objects keep their order and may repeat a key, and numbers keep their spelling.

## Main definitions

- `Json` — values
- `Json.ofTokens?`, `Json.ofText?` — the value of a text, if the text is one value and nothing else
- `Json.record?` — the members of a record by the names of its fields
- `Json.nat?` — whole numbers below a bound
-/

namespace CrashTrace

/-- A value of JSON. A key or string that stands for no text is `none`. -/
inductive Json where
  | null
  | bool (value : Bool)
  | number (spelling : Text)
  | string (text? : Option Text)
  | array (items : List Json)
  | object (members : List (Option Text × Json))

namespace Json

mutual

/-- A value at the front of the tokens, and the tokens after it. -/
def value? : Nat → List Token → Option (Json × List Token)
  | 0, _ => none
  | fuel + 1, tokens =>
    match tokens with
    | .null :: rest => some (.null, rest)
    | .bool b :: rest => some (.bool b, rest)
    | .number spelling :: rest => some (.number spelling, rest)
    | .string text? :: rest => some (.string text?, rest)
    | .openArray :: .closeArray :: rest => some (.array [], rest)
    | .openArray :: rest => (items? fuel rest).map fun (items, rest) => (.array items, rest)
    | .openObject :: .closeObject :: rest => some (.object [], rest)
    | .openObject :: rest =>
      (members? fuel rest).map fun (members, rest) => (.object members, rest)
    | _ => none

/-- The items of an array up to its end. -/
def items? : Nat → List Token → Option (List Json × List Token)
  | 0, _ => none
  | fuel + 1, tokens =>
    match value? fuel tokens with
    | some (item, .closeArray :: rest) => some ([item], rest)
    | some (item, .comma :: rest) =>
      (items? fuel rest).map fun (items, rest) => (item :: items, rest)
    | _ => none

/-- The members of an object up to its end. -/
def members? : Nat → List Token → Option (List (Option Text × Json) × List Token)
  | 0, _ => none
  | fuel + 1, tokens =>
    match tokens with
    | .string key :: .colon :: rest =>
      match value? fuel rest with
      | some (member, .closeObject :: rest) => some ([(key, member)], rest)
      | some (member, .comma :: rest) =>
        (members? fuel rest).map fun (members, rest) => ((key, member) :: members, rest)
      | _ => none
    | _ => none

end

/-- The value that tokens make. Reading takes two rounds at most for each token. -/
def ofTokens? (tokens : List Token) : Option Json :=
  match value? (2 * tokens.length + 1) tokens with
  | some (value, []) => some value
  | _ => none

def ofText? (s : Text) : Option Json := (Token.ofText? s).bind ofTokens?

/-- The one member of a list of members with a given key. -/
def field? (members : List (Option Text × Json)) (name : Text) : Option Json :=
  match members.filter fun member => member.1 = some name with
  | [(_, value)] => some value
  | _ => none

/-- The members of a record in the order of its field names. A record is an object that has each
field once, or an array of exactly the fields in order. In an object every key must stand for a
text; other keys are skipped, or refused if the record is `closed`. -/
def record? (names : List Text) (closed : Bool) : Json → Option (List Json)
  | .array items => if items.length = names.length then some items else none
  | .object members =>
    if members.all fun member =>
        match member.1 with
        | some key => !closed || names.contains key
        | none => false
    then names.mapM (field? members)
    else none
  | _ => none

def bool? : Json → Option Bool
  | .bool b => some b
  | _ => none

/-- A whole number below a bound, in plain digits. -/
def nat? (bound : Nat) : Json → Option Nat
  | .number spelling =>
    if spelling.all Char.isDigit then
      let n := Nat.ofDigitChars 10 spelling 0
      if n < bound then some n else none
    else none
  | _ => none

end Json

end CrashTrace
