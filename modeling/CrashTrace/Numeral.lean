/-!
# Numerals

The two ways in which a report writes numbers: canonical decimal numerals, and numerals of a
fixed number of digits; and the value of a digit that is read.

## Main definitions

- `Numeral.decimal` — the decimal numeral without leading zeros
- `Numeral.decimalPadded`, `Numeral.hexPadded` — exactly `d` digits, the least significant ones
- `Numeral.int` — a decimal numeral with a sign where one is needed
- `Numeral.decimalWord`, `Numeral.hexWord` — what is handed to a writer for a word of 64 bits
- `Numeral.hexValue?` — the value of one hexadecimal digit

## Design notes

While a report is made nothing may be allocated, so the digits of a word are put into a buffer of
fixed size. A decimal numeral for which the buffer is too small is not written at all.
-/

namespace CrashTrace.Numeral

/-- The decimal numeral of `n`: no leading zero, and one digit for zero. -/
def decimal (n : Nat) : List Char := Nat.toDigits 10 n

/-- The decimal numeral of an integer, with a minus sign below zero. -/
def int : Int → List Char
  | .ofNat n => decimal n
  | .negSucc n => '-' :: decimal (n + 1)

/-- The `d` least significant digits of `n` in base `base`, most significant first. -/
def padded (base : Nat) : Nat → Nat → List Char
  | 0, _ => []
  | d + 1, n => padded base d (n / base) ++ [Nat.digitChar (n % base)]

/-- The `d` least significant decimal digits of `n`. -/
def decimalPadded (d n : Nat) : List Char := padded 10 d n

/-- The `d` least significant lowercase hexadecimal digits of `n`. -/
def hexPadded (d n : Nat) : List Char := padded 16 d n

/-- The room of the buffer for the decimal digits of a word of 64 bits. -/
def decimalRoom : Nat := 20

/-- The decimal digits of a word, least significant first, as they are put into a buffer with so
much room: one digit, and then more until nothing is left of the word. -/
def collect? : Nat → UInt64 → Option (List Char)
  | 0, _ => none
  | room + 1, n =>
    let digit := Nat.digitChar (n % 10).toNat
    if n / 10 = 0 then some [digit] else (collect? room (n / 10)).map (digit :: ·)

/-- The decimal numeral of a word, if the buffer has room for it. -/
def inBuffer? (room : Nat) (n : UInt64) : Option (List Char) := (collect? room n).map List.reverse

/-- The requests for a word in decimal: its numeral in one, or none at all. -/
def decimalWord (n : UInt64) : List (List Char) := (inBuffer? decimalRoom n).toList

/-- The most hexadecimal digits that one word of 64 bits has. -/
def wordDigits : Nat := 16

/-- So many hexadecimal digits of a word, filled in from the end: the last four bits give a digit,
and the word is shifted by them. -/
def fill : Nat → UInt64 → List Char
  | 0, _ => []
  | d + 1, n => fill d (n >>> 4) ++ [Nat.digitChar (n &&& 0xf).toNat]

/-- A word in hexadecimal with the digits asked for, but never more than a word has. -/
def hexWord (digits : Nat) (n : UInt64) : List Char := fill (min digits wordDigits) n

/-- The value of a hexadecimal digit of either case. -/
def hexValue? (c : Char) : Option Nat :=
  if '0' ≤ c ∧ c ≤ '9' then some (c.toNat - '0'.toNat)
  else if 'a' ≤ c ∧ c ≤ 'f' then some (c.toNat - 'a'.toNat + 10)
  else if 'A' ≤ c ∧ c ≤ 'F' then some (c.toNat - 'A'.toNat + 10)
  else none

@[simp] theorem length_padded (base d n : Nat) : (padded base d n).length = d := by
  induction d generalizing n with
  | zero => rfl
  | succ d ih => simp [padded, ih]

end CrashTrace.Numeral
