import CrashTrace.Text.Basic

/-!
# Splitting texts

A text is split at every occurrence of one character.

## Main definitions

- `Text.split`
-/

namespace CrashTrace.Text

/-- The parts of a text between the occurrences of a character. -/
def split (mark : Char) : Text → List Text
  | [] => [[]]
  | c :: rest =>
    if c = mark then [] :: split mark rest
    else
      match split mark rest with
      | part :: parts => (c :: part) :: parts
      | [] => [[c]]

/-- A part ends at the first occurrence of the mark. -/
theorem split_append_cons {mark : Char} {part : Text} (h : mark ∉ part) (rest : Text) :
    split mark (part ++ mark :: rest) = part :: split mark rest := by
  induction part with
  | nil => simp [split]
  | cons c part ih =>
    rw [List.mem_cons, not_or] at h
    rw [List.cons_append, split, if_neg (Ne.symm h.1), ih h.2]

/-- A text falls into the parts that the mark ends, also if something follows them. -/
theorem split_flatMap_append {mark : Char} {parts : List Text} (h : ∀ part ∈ parts, mark ∉ part)
    (rest : Text) :
    split mark (parts.flatMap (· ++ [mark]) ++ rest) = parts ++ split mark rest := by
  induction parts with
  | nil => rfl
  | cons part parts ih =>
    obtain ⟨hpart, hparts⟩ := List.forall_mem_cons.mp h
    rw [List.flatMap_cons, List.append_assoc, List.append_assoc, List.singleton_append,
      split_append_cons hpart, ih hparts]
    rfl

end CrashTrace.Text
