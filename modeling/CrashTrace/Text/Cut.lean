import CrashTrace.Text.Basic

/-!
# Parts of a text by bytes

Where a part of a text is told by counting UTF-8 bytes, the part may begin or end inside a
character; then there is no such part.

## Main definitions

- `Text.width` — the number of bytes of a text
- `Text.dropBytes?`, `Text.takeBytes?`, `Text.cut?` — parts of a text by bytes

`Text.cut?_append` says that counting bytes finds every part that lies between characters.
-/

namespace CrashTrace.Text

/-- The number of UTF-8 bytes of a text. -/
def width : Text → Nat
  | [] => 0
  | c :: rest => c.utf8Size + width rest

/-- What follows the first `count` bytes. -/
def dropBytes? : Nat → Text → Option Text
  | 0, text => some text
  | _ + 1, [] => none
  | count + 1, c :: rest =>
    if c.utf8Size ≤ count + 1 then dropBytes? (count + 1 - c.utf8Size) rest else none

/-- The first `count` bytes. -/
def takeBytes? : Nat → Text → Option Text
  | 0, _ => some []
  | _ + 1, [] => none
  | count + 1, c :: rest =>
    if c.utf8Size ≤ count + 1 then
      (takeBytes? (count + 1 - c.utf8Size) rest).map (c :: ·)
    else none

/-- The part of a text that begins at byte `start` and has `count` bytes. -/
def cut? (text : Text) (start count : Nat) : Option Text :=
  (dropBytes? start text).bind (takeBytes? count)

@[simp] theorem width_nil : width [] = 0 := rfl

@[simp] theorem width_cons (c : Char) (text : Text) :
    width (c :: text) = c.utf8Size + width text := rfl

@[simp] theorem width_append (a b : Text) : width (a ++ b) = width a + width b := by
  induction a with
  | nil => simp
  | cons c a ih => simp [ih, Nat.add_assoc]

/-- The width of a text is the number of its bytes. -/
theorem length_bytes (text : Text) : (bytes text).length = width text := by
  induction text with
  | nil => rfl
  | cons c text ih =>
    have split : bytes (c :: text) = String.utf8EncodeChar c ++ bytes text := by simp [bytes]
    simp [split, ih]

@[simp] theorem dropBytes?_width (a b : Text) : dropBytes? (width a) (a ++ b) = some b := by
  induction a with
  | nil => simp [dropBytes?]
  | cons c a ih =>
    have size := c.utf8Size_pos
    rw [width_cons, show c.utf8Size + width a = (c.utf8Size + width a - 1) + 1 by omega,
      List.cons_append, dropBytes?, if_pos (by omega),
      show c.utf8Size + width a - 1 + 1 - c.utf8Size = width a by omega, ih]

@[simp] theorem takeBytes?_width (a b : Text) : takeBytes? (width a) (a ++ b) = some a := by
  induction a with
  | nil => simp [takeBytes?]
  | cons c a ih =>
    have size := c.utf8Size_pos
    rw [width_cons, show c.utf8Size + width a = (c.utf8Size + width a - 1) + 1 by omega,
      List.cons_append, takeBytes?, if_pos (by omega),
      show c.utf8Size + width a - 1 + 1 - c.utf8Size = width a by omega, ih]
    rfl

/-- A part that lies between characters is found by its place and its width. -/
theorem cut?_append (a part b : Text) : cut? (a ++ part ++ b) (width a) (width part) = some part := by
  simp [cut?, List.append_assoc]

end CrashTrace.Text
