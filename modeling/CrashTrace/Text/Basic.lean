/-!
# Texts and pieces

A report is a list of pieces. Each piece is handed to a writer as one request, so a writer that
stops half way stops inside a piece; on a writer that takes everything only the joined text shows.

## Main definitions

- `Text` — a list of characters
- `Pieces` — what a report hands to a writer, in order
- `Pieces.text` — the joined text
- `Text.bytes` — the UTF-8 bytes of a text
-/

namespace CrashTrace

/-- A text, character by character. -/
abbrev Text := List Char

/-- The requests that a report makes of a writer, in order. -/
abbrev Pieces := List Text

/-- The text that a writer has received once it has taken every piece. -/
def Pieces.text (pieces : Pieces) : Text := pieces.flatten

def Text.bytes (text : Text) : List UInt8 := text.flatMap String.utf8EncodeChar

@[simp] theorem Pieces.text_nil : Pieces.text [] = [] := rfl

@[simp] theorem Pieces.text_cons (piece : Text) (rest : Pieces) :
    Pieces.text (piece :: rest) = piece ++ rest.text := by
  simp [Pieces.text]

@[simp] theorem Pieces.text_append (a b : Pieces) :
    Pieces.text (a ++ b) = a.text ++ b.text := by
  simp [Pieces.text]

@[simp] theorem Text.bytes_nil : Text.bytes [] = [] := rfl

@[simp] theorem Text.bytes_append (a b : Text) : Text.bytes (a ++ b) = a.bytes ++ b.bytes := by
  simp [Text.bytes]

end CrashTrace
