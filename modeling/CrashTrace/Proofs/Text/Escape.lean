import CrashTrace.Proofs.Text.Numeral
import CrashTrace.Text.Escape

/-!
# Reading names

The written form of a name consists of printable characters, and it can be read back if the name
has not been cut and has no backslash of its own. The three widths do not interfere, since the
letter behind the backslash tells the width.

## Main definitions

- `Printable` — a character that stands for itself
- `Escape.read?` — the name with a written form

## Main results

- `Escape.read?_name`
- `Escape.printable_of_mem_name`, `Escape.quote_not_mem_name`
- `Escape.length_bytes_name_le` — the room that a name takes
-/

namespace CrashTrace

/-- A printable character of ASCII. -/
def Printable (c : Char) : Prop := 0x20 ≤ c.toNat ∧ c.toNat < 0x7f

instance : DecidablePred Printable := fun c =>
  inferInstanceAs (Decidable (0x20 ≤ c.toNat ∧ c.toNat < 0x7f))

/-- A fixed text is checked character by character. -/
theorem printable_of_mem_of_all {text : Text} (h : text.all (fun c => decide (Printable c)) = true)
    {c : Char} (hc : c ∈ text) : Printable c :=
  of_decide_eq_true (List.all_eq_true.mp h c hc)

namespace Escape

/-- The number of digits of a code point, by the letter before them. -/
def width? (kind : Char) : Option Nat :=
  if kind = 'x' then some 2 else if kind = 'u' then some 4 else if kind = 'U' then some 8 else none

/-- The name with a written form that has not been cut. -/
def read? : Text → Option Text
  | [] => some []
  | c :: rest =>
    if c = '\\' then
      match rest with
      | [] => none
      | kind :: rest =>
        match width? kind with
        | none => none
        | some width =>
          match Numeral.read? 16 (rest.take width) with
          | none => none
          | some code => (read? (rest.drop width)).map (Char.ofNat code :: ·)
    else (read? rest).map (c :: ·)
  termination_by text => text.length
  decreasing_by
    all_goals simp only [List.length_cons, List.length_drop]
    all_goals omega

theorem read?_cons {c : Char} (hc : c ≠ '\\') (rest : Text) :
    read? (c :: rest) = (read? rest).map (c :: ·) := by
  rw [read?.eq_def]
  exact if_neg hc

/-- A backslash, the letter of a width, and as many digits. -/
theorem read?_escape {kind : Char} {width code : Nat} (hkind : width? kind = some width)
    (hcode : code < 16 ^ width) (rest : Text) :
    read? ('\\' :: kind :: Numeral.hexPadded width code ++ rest) =
      (read? rest).map (Char.ofNat code :: ·) := by
  have hlength : (Numeral.hexPadded width code).length = width := Numeral.length_padded 16 width code
  rw [read?.eq_def]
  simp only [List.cons_append, if_true, hkind]
  rw [List.take_left' hlength, Numeral.read?_hexPadded hcode, List.drop_left' hlength]

theorem read?_char {c : Char} (hc : c ≠ '\\') (rest : Text) :
    read? (char c ++ rest) = (read? rest).map (c :: ·) := by
  have hcode := Char.ofNat_toNat c
  have hbound : c.toNat < 16 ^ 8 := c.val.toNat_lt
  unfold char
  dsimp only
  split
  · exact read?_cons hc rest
  · split
    · rw [read?_escape rfl (by omega), hcode]
    · split
      · rw [read?_escape rfl (by omega), hcode]
      · rw [read?_escape rfl hbound, hcode]

theorem text_name {s : Text} (hlength : s.length ≤ maxChars) :
    (name s).text = s.flatMap char := by
  unfold name
  rw [List.take_of_length_le hlength, List.drop_of_length_le hlength]
  simp [Pieces.text, List.flatMap_def]

/-- A name without backslashes that has not been cut can be read back. -/
theorem read?_name {s : Text} (hlength : s.length ≤ maxChars) (hs : '\\' ∉ s) :
    read? (name s).text = some s := by
  rw [text_name hlength]
  clear hlength
  induction s with
  | nil => rw [List.flatMap_nil, read?]
  | cons c s ih =>
    rw [List.mem_cons, not_or] at hs
    rw [List.flatMap_cons, read?_char (Ne.symm hs.1), ih hs.2]
    rfl

/-- What stands for a character is the character itself or consists of marks and digits. -/
theorem mem_char {c d : Char} (h : d ∈ char c) :
    d = c ∧ Printable c ∨
      d ∈ ['\\', 'x', 'u', 'U'] ∨ ∃ k, k < 16 ∧ d = Nat.digitChar k := by
  unfold char at h
  dsimp only at h
  split at h
  · next hprintable => exact .inl ⟨List.mem_singleton.mp h, hprintable⟩
  · have hmark : ∀ (kind : Char) (width code : Nat), kind ∈ ['\\', 'x', 'u', 'U'] →
        d ∈ '\\' :: kind :: Numeral.hexPadded width code →
        d ∈ ['\\', 'x', 'u', 'U'] ∨ ∃ k, k < 16 ∧ d = Nat.digitChar k := by
      intro kind width code hkind hd
      obtain rfl | hd := List.mem_cons.mp hd
      · exact .inl (by decide)
      · obtain rfl | hd := List.mem_cons.mp hd
        · exact .inl hkind
        · exact .inr (Numeral.mem_hexPadded hd)
    split at h
    · exact .inr (hmark _ _ _ (by decide) h)
    · split at h
      · exact .inr (hmark _ _ _ (by decide) h)
      · exact .inr (hmark _ _ _ (by decide) h)

theorem printable_of_digit : ∀ k, k < 16 → Printable (Nat.digitChar k) := by decide

theorem printable_of_mem_decimal {n : Nat} {c : Char} (h : c ∈ Numeral.decimal n) :
    Printable c := by
  have hdigit : c.isDigit = true := Nat.isDigit_of_mem_toDigits (by decide) (by decide) h
  simp only [Char.isDigit, Bool.and_eq_true, decide_eq_true_eq, ge_iff_le,
    UInt32.le_iff_toNat_le] at hdigit
  have hlow : 0x30 ≤ c.toNat := hdigit.1
  have hhigh : c.toNat ≤ 0x39 := hdigit.2
  exact ⟨by omega, by omega⟩

theorem quote_ne_digit : ∀ k, k < 16 → '"' ≠ Nat.digitChar k := by decide

/-- Names never leave the line: every character shown is printable. -/
theorem printable_of_mem_char {c d : Char} (h : d ∈ char c) : Printable d := by
  obtain ⟨rfl, hprintable⟩ | hmark | ⟨k, hk, rfl⟩ := mem_char h
  · exact hprintable
  · simp only [List.mem_cons, List.not_mem_nil, or_false] at hmark
    obtain rfl | rfl | rfl | rfl := hmark <;> decide
  · exact printable_of_digit k hk

/-- A quote is only shown for a quote. -/
theorem quote_not_mem_char {c : Char} (hc : c ≠ '"') : '"' ∉ char c := by
  intro h
  obtain ⟨rfl, -⟩ | hmark | ⟨k, hk, hdigit⟩ := mem_char h
  · exact hc rfl
  · exact absurd hmark (by decide)
  · exact quote_ne_digit k hk hdigit

theorem printable_of_mem_name {s : Text} {d : Char} (h : d ∈ (name s).text) : Printable d := by
  unfold name at h
  rw [Pieces.text_append, List.mem_append] at h
  obtain h | h := h
  · obtain ⟨shown, hshown, hd⟩ := List.mem_flatten.mp h
    obtain ⟨c, -, rfl⟩ := List.mem_map.mp hshown
    exact printable_of_mem_char hd
  · split at h
    · cases h
    · obtain rfl : d = '.' := by simpa [ellipsis] using h
      decide

theorem quote_not_mem_name {s : Text} (hs : '"' ∉ s) : '"' ∉ (name s).text := by
  intro h
  unfold name at h
  rw [Pieces.text_append, List.mem_append] at h
  obtain h | h := h
  · obtain ⟨shown, hshown, hd⟩ := List.mem_flatten.mp h
    obtain ⟨c, hc, rfl⟩ := List.mem_map.mp hshown
    refine quote_not_mem_char ?_ hd
    rintro rfl
    exact hs (List.mem_of_mem_take hc)
  · split at h
    · cases h
    · exact absurd h (by decide)

-- ════════════════════════════════════════════════════════════════════════
-- The room that a name takes
-- ════════════════════════════════════════════════════════════════════════

/-- The widest written form has a backslash, a letter and eight digits. -/
theorem length_char_le (c : Char) : (char c).length ≤ 10 := by
  have hmark : ∀ (kind : Char) (width code : Nat),
      ('\\' :: kind :: Numeral.hexPadded width code).length = width + 2 := fun _ width code =>
    congrArg (· + 2) (Numeral.length_padded 16 width code)
  unfold char
  dsimp only
  split
  · exact Nat.le_add_left 1 9
  · split
    · exact Nat.le_trans (Nat.le_of_eq (hmark _ 2 _)) (by decide)
    · split
      · exact Nat.le_trans (Nat.le_of_eq (hmark _ 4 _)) (by decide)
      · exact Nat.le_of_eq (hmark _ 8 _)

theorem length_flatten_map_char_le (s : Text) : (s.map char).flatten.length ≤ 10 * s.length := by
  induction s with
  | nil => exact Nat.le_refl 0
  | cons c s ih =>
    have hchar := length_char_le c
    rw [List.map_cons, List.flatten_cons, List.length_append, List.length_cons]
    omega

theorem length_name_le (s : Text) : (name s).text.length ≤ 10 * maxChars + ellipsis.length := by
  have hshown : ((s.take maxChars).map char).flatten.length ≤ 10 * maxChars :=
    Nat.le_trans (length_flatten_map_char_le _)
      (Nat.mul_le_mul_left 10 (List.length_take_le maxChars s))
  have hrest : (Pieces.text (if (s.drop maxChars).isEmpty then [] else [ellipsis])).length ≤
      ellipsis.length := by
    split
    · exact Nat.zero_le _
    · exact Nat.le_of_eq (congrArg List.length (List.append_nil ellipsis))
  rw [name, Pieces.text_append, List.length_append]
  exact Nat.add_le_add hshown hrest

end Escape

/-- A text of ASCII characters has one byte for each of them. -/
theorem Text.bytes_of_ascii {text : Text} (h : ∀ c ∈ text, c.toNat < 0x80) :
    text.bytes = text.map fun c => UInt8.ofNat c.toNat := by
  induction text with
  | nil => rfl
  | cons c text ih =>
    obtain ⟨hc, hrest⟩ := List.forall_mem_cons.mp h
    have hlow : c.val ≤ 127 := UInt32.le_iff_toNat_le.mpr (Nat.le_of_lt_succ hc)
    have hbyte : String.utf8EncodeChar c = [UInt8.ofNat c.toNat] :=
      String.utf8EncodeChar_eq_singleton (Char.utf8Size_eq_one_iff.mpr hlow)
    rw [Text.bytes, List.flatMap_cons, hbyte, List.map_cons, ← ih hrest]
    rfl

/-- A name takes at most ten bytes for each character that is shown, and three for the rest. -/
theorem Escape.length_bytes_name_le (s : Text) : (name s).text.bytes.length ≤ 5003 := by
  have hascii : ∀ c ∈ (name s).text, c.toNat < 0x80 := fun c hc =>
    Nat.lt_trans (printable_of_mem_name hc).2 (by decide)
  rw [Text.bytes_of_ascii hascii, List.length_map]
  exact length_name_le s

end CrashTrace
