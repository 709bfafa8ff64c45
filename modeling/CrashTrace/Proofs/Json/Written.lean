import CrashTrace.Proofs.Text.Numeral
import CrashTrace.Settings.Json
import Mathlib.Data.List.Forall2
import Mathlib.Data.List.TakeWhile

/-!
# Reading what was written

The compact text of a record is cut into the tokens that one expects, and they make the object that
the record stands for. Both passes over a text are followed from its parts to the whole: a part may
be followed by a mark or by the end of the text, since nothing else follows a part in a text that
was written.

## Main definitions

- `Json.Token.Cuts` — a text makes some tokens, before a mark and at the end
- `Json.Spells` — a text that is read as a value wherever it stands

## Main results

- `Json.spells_bool`, `Json.spells_decimal`, `Json.spells_quoted`, `Json.spells_record`
- `Json.ofText?_of_spells`
- `Json.nat?_decimal` — a number that was written is read back
- `Json.ofText?_padded` — blanks around a text do not matter
-/

namespace CrashTrace.Json

namespace Token

variable {text text' : Text} {tokens tokens' : List Token} {c : Char} {token : Token}
  {found : List Token} {run : Text} {units : List Unit}

/-- Cut from between two tokens on, a text makes these tokens, whether it ends there or a mark
follows. -/
def Cuts (text : Text) (tokens : List Token) : Prop :=
  ∀ found, ∃ s, text.foldlM step ⟨.between, found⟩ = some s ∧
    finish s = some ⟨.between, tokens.reverse ++ found⟩ ∧
    ∀ c token, punctuation? c = some token →
      step s c = some ⟨.between, token :: (tokens.reverse ++ found)⟩

-- ════════════════════════════════════════════════════════════════════════
-- One character
-- ════════════════════════════════════════════════════════════════════════

/-- A character that stands for itself in a string. -/
def isPlain (c : Char) : Bool := c ≠ '"' && c ≠ '\\' && 0x20 ≤ c.toNat

theorem isPlain_iff : isPlain c = true ↔ c ≠ '"' ∧ c ≠ '\\' ∧ 0x20 ≤ c.toNat := by
  simp [isPlain, and_assoc]

theorem isBlank_iff : isBlank c = true ↔ c = ' ' ∨ c = '\n' ∨ c = '\t' ∨ c = '\r' := by
  simp only [isBlank, Bool.or_eq_true, decide_eq_true_eq, or_assoc]

theorem start_blank (hc : isBlank c = true) : start found c = some ⟨.between, found⟩ := if_pos hc

theorem step_between : step ⟨.between, found⟩ c = start found c := rfl

theorem step_number (hc : isNumeric c = true) :
    step ⟨.number run, found⟩ c = some ⟨.number (c :: run), found⟩ := if_pos hc

theorem step_string (hc : isPlain c = true) :
    step ⟨.string units, found⟩ c = some ⟨.string (.plain c :: units), found⟩ := by
  obtain ⟨hquote, hescape, hlow⟩ := isPlain_iff.mp hc
  rw [step]
  dsimp only
  rw [if_neg hquote, if_neg hescape, if_neg (Nat.not_lt.mpr hlow)]

/-- What is no letter ends a word, and it is taken as if it stood alone. -/
theorem step_word_end (hc : c.isAlpha = false) :
    step ⟨.word run, found⟩ c = (finish ⟨.word run, found⟩).bind fun s => start s.found c :=
  if_neg (Bool.eq_false_iff.mp hc)

theorem step_number_end (hc : isNumeric c = false) :
    step ⟨.number run, found⟩ c = (finish ⟨.number run, found⟩).bind fun s => start s.found c :=
  if_neg (Bool.eq_false_iff.mp hc)

-- ════════════════════════════════════════════════════════════════════════
-- Marks
-- ════════════════════════════════════════════════════════════════════════

/-- A mark is no part of a blank, a string, a number or a word. -/
theorem mark_cases (h : punctuation? c = some token) :
    isBlank c = false ∧ c ≠ '"' ∧ isNumeric c = false ∧ c.isAlpha = false := by
  unfold punctuation? at h
  split at h
  case h_7 => cases h
  all_goals decide

theorem start_mark (h : punctuation? c = some token) (found : List Token) :
    start found c = some ⟨.between, token :: found⟩ := by
  obtain ⟨hblank, hquote, hnumeric, halpha⟩ := mark_cases h
  have hnumber : ¬ (c = '-' ∨ c.isDigit = true) := by
    rintro (rfl | hdigit)
    · cases hnumeric
    · simp [isNumeric, hdigit] at hnumeric
  rw [start, hblank, if_neg Bool.false_ne_true, if_neg hquote, if_neg hnumber, halpha,
    if_neg Bool.false_ne_true, h]
  rfl

/-- A mark ends a word or a number. -/
theorem step_mark {mode : Mode} (hmode : mode = .word run ∨ mode = .number run)
    {before : List Token} (hend : finish ⟨mode, before⟩ = some ⟨.between, found⟩)
    (h : punctuation? c = some token) :
    step ⟨mode, before⟩ c = some ⟨.between, token :: found⟩ := by
  obtain ⟨-, -, hnumeric, halpha⟩ := mark_cases h
  rcases hmode with rfl | rfl
  · rw [step_word_end halpha, hend, Option.bind_some, start_mark h]
  · rw [step_number_end hnumeric, hend, Option.bind_some, start_mark h]

theorem cuts_nil : Cuts [] [] := fun found =>
  ⟨⟨.between, found⟩, rfl, rfl, fun _ _ h => start_mark h found⟩

/-- Two texts with a mark between them. -/
theorem Cuts.append (h : Cuts text tokens) (hc : punctuation? c = some token)
    (h' : Cuts text' tokens') : Cuts (text ++ c :: text') (tokens ++ token :: tokens') := by
  intro found
  obtain ⟨s, hrun, -, hmark⟩ := h found
  obtain ⟨s', hrun', hend', hmark'⟩ := h' (token :: (tokens.reverse ++ found))
  have hfound : (tokens ++ token :: tokens').reverse ++ found =
      tokens'.reverse ++ token :: (tokens.reverse ++ found) := by simp
  rw [hfound]
  refine ⟨s', ?_, hend', hmark'⟩
  rw [List.foldlM_append, hrun, Option.bind_eq_bind, Option.bind_some, List.foldlM_cons,
    hmark c token hc]
  exact hrun'

theorem Cuts.ofText? (h : Cuts text tokens) : ofText? text = some tokens := by
  obtain ⟨s, hrun, hend, -⟩ := h []
  rw [Token.ofText?, hrun]
  simp [hend]

-- ════════════════════════════════════════════════════════════════════════
-- Blanks
-- ════════════════════════════════════════════════════════════════════════

/-- The tokens that are found if the text ends here. -/
def ended (s : State) : Option (List Token) :=
  (finish s).bind fun last => if last.mode = .between then some last.found.reverse else none

theorem ofText?_eq (text : Text) :
    Token.ofText? text = (text.foldlM step ⟨.between, []⟩).bind ended := rfl

/-- At the end of a text a blank makes no difference. It ends a word or a number as the end of the
text does, and it does not end a string. -/
theorem ended_step_blank (s : State) (hc : isBlank c = true) : (step s c).bind ended = ended s := by
  obtain ⟨mode, found⟩ := s
  have halpha : c.isAlpha = false := by
    rcases isBlank_iff.mp hc with rfl | rfl | rfl | rfl <;> rfl
  have hnumeric : isNumeric c = false := by
    rcases isBlank_iff.mp hc with rfl | rfl | rfl | rfl <;> rfl
  cases mode with
  | between => rw [step_between, start_blank hc, Option.bind_some]
  | word run =>
    rw [step_word_end halpha, ended, finish]
    cases ofWord? run.reverse with
    | none => rfl
    | some token =>
      rw [Option.map_some, Option.bind_some, start_blank hc]
      rfl
  | number run =>
    rw [step_number_end hnumeric, ended, finish]
    split
    · rw [Option.bind_some, start_blank hc]
      rfl
    · rfl
  | string units => rcases isBlank_iff.mp hc with rfl | rfl | rfl | rfl <;> rfl
  | escape units => rcases isBlank_iff.mp hc with rfl | rfl | rfl | rfl <;> rfl
  | code units left value => rcases isBlank_iff.mp hc with rfl | rfl | rfl | rfl <;> rfl

theorem foldlM_blanks_before (hblank : ∀ c ∈ text, isBlank c = true) (found : List Token) :
    text.foldlM step ⟨.between, found⟩ = some ⟨.between, found⟩ := by
  induction text with
  | nil => rfl
  | cons c text ih =>
    obtain ⟨hc, hrest⟩ := List.forall_mem_cons.mp hblank
    rw [List.foldlM_cons, step_between, start_blank hc, Option.bind_eq_bind, Option.bind_some,
      ih hrest]

theorem foldlM_blanks_after (hblank : ∀ c ∈ text, isBlank c = true) (s : State) :
    (text.foldlM step s).bind ended = ended s := by
  induction text generalizing s with
  | nil => rfl
  | cons c text ih =>
    obtain ⟨hc, hrest⟩ := List.forall_mem_cons.mp hblank
    rw [List.foldlM_cons, ← ended_step_blank s hc, Option.bind_eq_bind, Option.bind_assoc]
    exact Option.bind_congr fun s' _ => ih hrest s'

theorem ofText?_padded {before after : Text} (hbefore : ∀ c ∈ before, isBlank c = true)
    (hafter : ∀ c ∈ after, isBlank c = true) (text : Text) :
    Token.ofText? (before ++ text ++ after) = Token.ofText? text := by
  rw [ofText?_eq, ofText?_eq, List.foldlM_append, List.foldlM_append,
    foldlM_blanks_before hbefore, Option.bind_eq_bind, Option.bind_some, Option.bind_assoc]
  exact Option.bind_congr fun s _ => foldlM_blanks_after hafter s

-- ════════════════════════════════════════════════════════════════════════
-- Words, numbers and strings
-- ════════════════════════════════════════════════════════════════════════

theorem foldlM_number (hdigits : ∀ c ∈ text, c.isDigit = true) (run : Text)
    (found : List Token) :
    text.foldlM step ⟨.number run, found⟩ = some ⟨.number (text.reverse ++ run), found⟩ := by
  induction text generalizing run with
  | nil => rfl
  | cons c text ih =>
    obtain ⟨hc, hrest⟩ := List.forall_mem_cons.mp hdigits
    have hnumeric : isNumeric c = true := by simp [isNumeric, hc]
    rw [List.foldlM_cons, step_number hnumeric, Option.bind_eq_bind, Option.bind_some, ih hrest]
    simp

theorem foldlM_string (hplain : ∀ c ∈ text, isPlain c = true) (units : List Unit)
    (found : List Token) :
    text.foldlM step ⟨.string units, found⟩ =
      some ⟨.string ((text.map .plain).reverse ++ units), found⟩ := by
  induction text generalizing units with
  | nil => rfl
  | cons c text ih =>
    obtain ⟨hc, hrest⟩ := List.forall_mem_cons.mp hplain
    rw [List.foldlM_cons, step_string hc, Option.bind_eq_bind, Option.bind_some, ih hrest]
    simp

theorem textOfUnits_plain (text : Text) : textOfUnits (text.map .plain) = some text := by
  induction text with
  | nil => rfl
  | cons c text ih => rw [List.map_cons, textOfUnits, ih, Option.map_some]

theorem cuts_bool (b : Bool) : Cuts (boolWord b) [.bool b] := by
  intro found
  have hend : finish ⟨.word (boolWord b).reverse, found⟩ = some ⟨.between, .bool b :: found⟩ := by
    cases b <;> rfl
  refine ⟨_, ?_, hend, fun c token h => step_mark (.inl rfl) hend h⟩
  cases b <;> rfl

/-- A digit begins a number. -/
theorem start_digit (hc : c.isDigit = true) (found : List Token) :
    start found c = some ⟨.number [c], found⟩ := by
  have hblank : isBlank c = false := by
    rw [Bool.eq_false_iff]
    intro hblank
    rcases isBlank_iff.mp hblank with rfl | rfl | rfl | rfl <;> cases hc
  have hquote : c ≠ '"' := by
    rintro rfl
    cases hc
  rw [start, hblank, if_neg Bool.false_ne_true, if_neg hquote, if_pos (.inr hc)]

theorem isNumber_of_canonical (h : Numeral.Canonical text) : isNumber text = true := by
  have hdigits := h.isDigit
  have hzero := h.eq_zero
  obtain ⟨c, rest, rfl⟩ := List.exists_cons_of_ne_nil h.ne_nil
  obtain ⟨hc, hrest⟩ := List.forall_mem_cons.mp hdigits
  have hsign : c ≠ '-' := by
    rintro rfl
    cases hc
  have hunsigned : isNumber (c :: rest) = isUnsigned (c :: rest) := by
    rw [isNumber]
    rintro rest' heq
    exact hsign (List.cons.inj heq).1
  rw [hunsigned]
  by_cases hlead : c = '0'
  · subst hlead
    obtain rfl : rest = [] := (List.cons.inj (hzero rfl)).2
    rfl
  · rw [isUnsigned, hc, List.dropWhile_eq_nil_iff.mpr hrest]
    · rfl
    · exact hlead

theorem cuts_decimal (n : Nat) : Cuts (Numeral.decimal n) [.number (Numeral.decimal n)] := by
  intro found
  have hcanonical := Numeral.canonical_decimal n
  have hend : finish ⟨.number (Numeral.decimal n).reverse, found⟩ =
      some ⟨.between, .number (Numeral.decimal n) :: found⟩ := by
    rw [finish, List.reverse_reverse, if_pos (isNumber_of_canonical hcanonical)]
  refine ⟨_, ?_, hend, fun c token h => step_mark (.inr rfl) hend h⟩
  obtain ⟨c, rest, hdecimal⟩ := List.exists_cons_of_ne_nil hcanonical.ne_nil
  obtain ⟨hc, hrest⟩ := List.forall_mem_cons.mp (hdecimal ▸ hcanonical.isDigit)
  rw [hdecimal, List.foldlM_cons, step_between, start_digit hc, Option.bind_eq_bind,
    Option.bind_some, foldlM_number hrest, List.reverse_cons]

theorem cuts_quoted {name : String} (hplain : name.toList.all isPlain = true) :
    Cuts (quoted name) [.string (some name.toList)] := by
  intro found
  refine ⟨⟨.between, .string (some name.toList) :: found⟩, ?_, rfl,
    fun c token h => start_mark h _⟩
  have hopen : step ⟨.between, found⟩ '"' = some ⟨.string [], found⟩ := rfl
  have hclose (units : List Unit) : step ⟨.string units, found⟩ '"' =
      some ⟨.between, .string (textOfUnits units.reverse) :: found⟩ := rfl
  rw [quoted, List.cons_append, List.foldlM_cons, hopen, Option.bind_eq_bind, Option.bind_some,
    List.foldlM_append, foldlM_string (List.all_eq_true.mp hplain), List.append_nil,
    Option.bind_eq_bind, Option.bind_some, List.foldlM_cons, hclose, List.reverse_reverse,
    textOfUnits_plain]
  rfl

end Token

-- ════════════════════════════════════════════════════════════════════════
-- Values
-- ════════════════════════════════════════════════════════════════════════

open Token (Cuts isPlain)

/-- A text that is read as a value wherever it stands: its tokens are taken for the value, whatever
follows them, as long as the reader may take a round for each of them. -/
def Spells (text : Text) (v : Json) : Prop :=
  ∃ tokens, Cuts text tokens ∧
    ∀ rest fuel, tokens.length ≤ fuel → value? fuel (tokens ++ rest) = some (v, rest)

theorem ofText?_of_spells {text : Text} {v : Json} (h : Spells text v) :
    ofText? text = some v := by
  obtain ⟨tokens, hcuts, hvalue⟩ := h
  have hread := hvalue [] (2 * tokens.length + 1) (by omega)
  rw [List.append_nil] at hread
  rw [ofText?, hcuts.ofText?, Option.bind_some, ofTokens?, hread]

/-- Blanks around a text do not change its value. -/
theorem ofText?_padded {before after : Text} (hbefore : ∀ c ∈ before, Token.isBlank c = true)
    (hafter : ∀ c ∈ after, Token.isBlank c = true) (text : Text) :
    ofText? (before ++ text ++ after) = ofText? text := by
  rw [ofText?, ofText?, Token.ofText?_padded hbefore hafter]

/-- A token that is a value by itself. -/
theorem spells_of_token {text : Text} {token : Token} {v : Json} (hcuts : Cuts text [token])
    (hvalue : ∀ rest fuel, value? (fuel + 1) (token :: rest) = some (v, rest)) : Spells text v := by
  refine ⟨[token], hcuts, fun rest fuel hfuel => ?_⟩
  obtain ⟨fuel, rfl⟩ := Nat.exists_eq_succ_of_ne_zero (Nat.ne_of_gt hfuel)
  exact hvalue rest fuel

theorem spells_bool (b : Bool) : Spells (boolWord b) (.bool b) :=
  spells_of_token (Token.cuts_bool b) fun _ _ => by rw [value?]

theorem spells_decimal (n : Nat) : Spells (Numeral.decimal n) (.number (Numeral.decimal n)) :=
  spells_of_token (Token.cuts_decimal n) fun _ _ => by rw [value?]

/-- The numeral of a number below the bound is read back. -/
theorem nat?_decimal {n bound : Nat} (h : n < bound) :
    nat? bound (.number (Numeral.decimal n)) = some n := by
  have hdigits : (Numeral.decimal n).all Char.isDigit = true :=
    List.all_eq_true.mpr fun _ hc => Numeral.isDigit_of_mem_decimal hc
  have hvalue : Nat.ofDigitChars 10 (Numeral.decimal n) 0 = n := Nat.ofDigitChars_ten_toDigits
  rw [nat?, if_pos hdigits]
  dsimp only
  rw [hvalue, if_pos h]

theorem spells_quoted {name : String} (hplain : name.toList.all isPlain = true) :
    Spells (quoted name) (.string (some name.toList)) :=
  spells_of_token (Token.cuts_quoted hplain) fun _ _ => by rw [value?]

/-- A field with a plain name and a text that is read as the value of a member with this key. -/
inductive SpellsMember : String × Text → Option Text × Json → Prop
  | mk {name : String} {text : Text} {v : Json} (hplain : name.toList.all isPlain = true)
    (hvalue : Spells text v) : SpellsMember (name, text) (some name.toList, v)

/-- The text between the braces is read as the members. It begins with a key, so that the object is
not taken for one without members. -/
def SpellsMembers (text : Text) (members : List (Option Text × Json)) : Prop :=
  ∃ key tokens, Cuts text (.string key :: tokens) ∧
    ∀ rest fuel, tokens.length < fuel →
      members? fuel (.string key :: tokens ++ .closeObject :: rest) = some (members, rest)

theorem spellsMembers_of_forall₂ {fields : List (String × Text)}
    {members : List (Option Text × Json)} (hfields : fields ≠ [])
    (h : List.Forall₂ SpellsMember fields members) :
    SpellsMembers ([','].intercalate (fields.map fun field => quoted field.1 ++ ':' :: field.2))
      members := by
  -- The reader takes a round for each member, and the others are left to the next round.
  induction h with
  | nil => exact absurd rfl hfields
  | @cons field member fields members hmember htail ih =>
    obtain @⟨name, text, value, hplain, tokens, hcuts, hvalue⟩ := hmember
    have hpair : Cuts (quoted name ++ ':' :: text)
        (.string (some name.toList) :: .colon :: tokens) :=
      (Token.cuts_quoted hplain).append rfl hcuts
    cases htail with
    | nil =>
      refine ⟨some name.toList, .colon :: tokens, ?_, fun rest fuel hfuel => ?_⟩
      · simpa using hpair
      · rw [List.length_cons] at hfuel
        obtain ⟨fuel, rfl⟩ := Nat.exists_eq_succ_of_ne_zero (Nat.ne_of_gt (Nat.zero_lt_of_lt hfuel))
        rw [List.cons_append, List.cons_append, members?, hvalue _ fuel (by omega)]
    | cons hnext hmore =>
      obtain ⟨key', tokens', hcuts', hmembers'⟩ := ih (List.cons_ne_nil _ _)
      refine ⟨some name.toList, .colon :: (tokens ++ .comma :: .string key' :: tokens'), ?_,
        fun rest fuel hfuel => ?_⟩
      · rw [List.map_cons, List.map_cons, List.intercalate_cons_cons, List.append_assoc]
        exact hpair.append rfl hcuts'
      · simp only [List.length_cons, List.length_append] at hfuel
        obtain ⟨fuel, rfl⟩ := Nat.exists_eq_succ_of_ne_zero (Nat.ne_of_gt (Nat.zero_lt_of_lt hfuel))
        have hrest := hmembers' rest fuel (by omega)
        simp only [List.cons_append, List.append_assoc] at hrest ⊢
        rw [members?, hvalue _ fuel (by omega)]
        dsimp only
        rw [hrest, Option.map_some]

/-- A record that was written is read as an object. -/
theorem spells_record {fields : List (String × Text)} {members : List (Option Text × Json)}
    (hfields : fields ≠ []) (h : List.Forall₂ SpellsMember fields members) :
    Spells (recordText fields) (.object members) := by
  obtain ⟨key, tokens, hcuts, hmembers⟩ := spellsMembers_of_forall₂ hfields h
  refine ⟨.openObject :: (.string key :: tokens ++ [.closeObject]), ?_, fun rest fuel hfuel => ?_⟩
  · exact Token.cuts_nil.append rfl (hcuts.append rfl Token.cuts_nil)
  · simp only [List.length_cons, List.length_append, List.length_nil] at hfuel
    obtain ⟨fuel, rfl⟩ := Nat.exists_eq_succ_of_ne_zero (Nat.ne_of_gt (Nat.zero_lt_of_lt hfuel))
    have hread := hmembers rest fuel (by omega)
    simp only [List.cons_append, List.append_assoc, List.nil_append] at hread ⊢
    rw [value?, hread, Option.map_some]
    nofun

end CrashTrace.Json
