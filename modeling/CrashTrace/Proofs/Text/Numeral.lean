import CrashTrace.Numeral
import Mathlib.Algebra.Group.Nat.Defs
import Mathlib.Data.List.Basic
import Mathlib.Data.List.Induction

/-!
# Reading numerals

The numerals of a report can be read back: a decimal numeral gives the number, and a numeral with a
fixed number of digits gives what these digits can hold of it. Of all decimal numerals of a number
one is canonical, and that one is written, also when it is made in a buffer.

## Main definitions

- `Numeral.read?` — the value of a numeral in a base of at most sixteen
- `Numeral.Canonical` — a decimal numeral without needless zeros

## Main results

- `Numeral.read?_padded`, `Numeral.read?_decimal`
- `Numeral.canonical_iff` — a number has one canonical numeral
- `Numeral.inBuffer?_eq` — which words a buffer has room for
- `Numeral.fill_eq` — digits taken from the bits of a word
-/

namespace CrashTrace.Numeral

/-- The value of a digit that the base has. -/
def digit? (base : Nat) (c : Char) : Option Nat := (hexValue? c).filter (· < base)

/-- The value of a numeral, most significant digit first. -/
def read? (base : Nat) (digits : List Char) : Option Nat :=
  digits.foldlM (fun value c => (digit? base c).map (base * value + ·)) 0

variable {base : Nat}

theorem hexValue?_digitChar : ∀ d, d < 16 → hexValue? (Nat.digitChar d) = some d := by decide

theorem digit?_digitChar (hbase : base ≤ 16) {d : Nat} (hd : d < base) :
    digit? base (Nat.digitChar d) = some d := by
  simp [digit?, hexValue?_digitChar d (Nat.lt_of_lt_of_le hd hbase), hd]

/-- The last digit is the least significant one. -/
theorem read?_append_digit (hbase : base ≤ 16) {digits : List Char} {n d : Nat}
    (hn : read? base digits = some n) (hd : d < base) :
    read? base (digits ++ [Nat.digitChar d]) = some (base * n + d) := by
  have hn : digits.foldlM (fun value c => (digit? base c).map (base * value + ·)) 0 = some n := hn
  simp [read?, List.foldlM_append, hn, digit?_digitChar hbase hd]

/-- The value of a numeral comes from its last digit and those before it. -/
theorem exists_of_read?_append {digits : List Char} {c : Char} {n : Nat}
    (h : read? base (digits ++ [c]) = some n) :
    ∃ value d, read? base digits = some value ∧ digit? base c = some d ∧ n = base * value + d := by
  simp only [read?, List.foldlM_append, List.foldlM_cons, List.foldlM_nil, Option.bind_eq_bind,
    Option.pure_def, Option.bind_eq_some_iff, Option.map_eq_some_iff] at h
  obtain ⟨value, hvalue, _, ⟨d, hd, rfl⟩, hn⟩ := h
  exact ⟨value, d, hvalue, hd, (Option.some.inj hn).symm⟩

theorem read?_padded (hpos : 0 < base) (hbase : base ≤ 16) (d n : Nat) :
    read? base (padded base d n) = some (n % base ^ d) := by
  induction d generalizing n with
  | zero => simp [padded, read?, Nat.mod_one]
  | succ d ih =>
    rw [padded, read?_append_digit hbase (ih (n / base)) (Nat.mod_lt n hpos), Nat.pow_succ',
      Nat.mod_mul, Nat.add_comm]

theorem read?_hexPadded {d n : Nat} (h : n < 16 ^ d) : read? 16 (hexPadded d n) = some n := by
  rw [hexPadded, read?_padded (by decide) (by decide), Nat.mod_eq_of_lt h]

theorem read?_decimalPadded {d n : Nat} (h : n < 10 ^ d) :
    read? 10 (decimalPadded d n) = some n := by
  rw [decimalPadded, read?_padded (by decide) (by decide), Nat.mod_eq_of_lt h]

theorem read?_decimal (n : Nat) : read? 10 (decimal n) = some n := by
  unfold decimal
  induction n using Nat.strongRecOn with
  | _ n ih =>
    rw [Nat.toDigits_eq_if (by decide)]
    split
    · next hn =>
      have hone : read? 10 ([] ++ [Nat.digitChar n]) = some (10 * 0 + n) :=
        read?_append_digit (by decide) rfl hn
      simpa using hone
    · next hn =>
      rw [read?_append_digit (by decide) (ih (n / 10) (by omega)) (Nat.mod_lt n (by decide)),
        Nat.div_add_mod]

/-- A numeral consists of the digits of its base. -/
theorem mem_padded (hpos : 0 < base) {d n : Nat} {c : Char} (h : c ∈ padded base d n) :
    ∃ k, k < base ∧ c = Nat.digitChar k := by
  induction d generalizing n with
  | zero => cases h
  | succ d ih =>
    obtain h | h := List.mem_append.mp h
    · exact ih h
    · exact ⟨n % base, Nat.mod_lt n hpos, List.mem_singleton.mp h⟩

theorem mem_hexPadded {d n : Nat} {c : Char} (h : c ∈ hexPadded d n) :
    ∃ k, k < 16 ∧ c = Nat.digitChar k := mem_padded (by decide) h

theorem isDigit_of_mem_decimal {n : Nat} {c : Char} (h : c ∈ decimal n) : c.isDigit = true :=
  Nat.isDigit_of_mem_toDigits (by decide) (by decide) h

theorem not_mem_decimal {c : Char} (hc : c.isDigit = false) (n : Nat) : c ∉ decimal n := by
  intro h
  have hdigit := isDigit_of_mem_decimal h
  rw [hc] at hdigit
  cases hdigit

-- ════════════════════════════════════════════════════════════════════════
-- Canonical numerals
-- ════════════════════════════════════════════════════════════════════════

/-- A decimal numeral in its canonical form: one digit at least, and no zero in front of others. -/
structure Canonical (digits : List Char) : Prop where
  isDigit : ∀ c ∈ digits, c.isDigit = true
  ne_nil : digits ≠ []
  eq_zero : digits.head? = some '0' → digits = ['0']

theorem decimal_of_lt {n : Nat} (h : n < 10) : decimal n = [Nat.digitChar n] :=
  Nat.toDigits_of_lt_base h

/-- The last digit of a number is its rest by ten, and the others are the numeral of the tens. -/
theorem decimal_of_le {n : Nat} (h : 10 ≤ n) :
    decimal n = decimal (n / 10) ++ [Nat.digitChar (n % 10)] :=
  Nat.toDigits_of_base_le (by decide) h

theorem decimal_ne_nil (n : Nat) : decimal n ≠ [] := Nat.toDigits_ne_nil

theorem digitChar_ne_zero : ∀ d, d < 10 → 0 < d → Nat.digitChar d ≠ '0' := by decide

theorem head?_decimal_ne_zero {n : Nat} (h : 0 < n) : (decimal n).head? ≠ some '0' := by
  induction n using Nat.strongRecOn with
  | _ n ih =>
    rcases Nat.lt_or_ge n 10 with hlow | hhigh
    · simpa [decimal_of_lt hlow] using digitChar_ne_zero n hlow h
    · rw [decimal_of_le hhigh, List.head?_append_of_ne_nil _ (decimal_ne_nil _)]
      exact ih (n / 10) (by omega) (by omega)

theorem canonical_decimal (n : Nat) : Canonical (decimal n) where
  isDigit _ := isDigit_of_mem_decimal
  ne_nil := decimal_ne_nil n
  eq_zero hhead := by
    rcases Nat.eq_zero_or_pos n with rfl | hpos
    · rfl
    · exact absurd hhead (head?_decimal_ne_zero hpos)

/-- A decimal digit is the digit of its value. -/
theorem exists_digitChar {c : Char} (h : c.isDigit = true) : ∃ d, d < 10 ∧ c = Nat.digitChar d := by
  simp only [Char.isDigit, Bool.and_eq_true, decide_eq_true_eq, ge_iff_le,
    UInt32.le_iff_toNat_le] at h
  have hlow : 48 ≤ c.toNat := h.1
  have hhigh : c.toNat ≤ 57 := h.2
  have hd : c.toNat - 48 < 10 := by omega
  refine ⟨c.toNat - 48, hd, Char.toNat_inj.mp ?_⟩
  rw [Nat.toNat_digitChar_of_lt_ten hd]
  omega

/-- A text of digits has a value. -/
theorem exists_read? {digits : List Char} (h : ∀ c ∈ digits, c.isDigit = true) :
    ∃ n, read? 10 digits = some n := by
  induction digits using List.reverseRecOn with
  | nil => exact ⟨0, rfl⟩
  | append_singleton front c ih =>
    obtain ⟨n, hn⟩ := ih fun c hc => h c (List.mem_append_left _ hc)
    obtain ⟨d, hd, rfl⟩ := exists_digitChar (h c (by simp))
    exact ⟨10 * n + d, read?_append_digit (by decide) hn hd⟩

/-- The numeral of a positive number is continued by one more digit. -/
theorem decimal_append_digit {n d : Nat} (hn : 0 < n) (hd : d < 10) :
    decimal n ++ [Nat.digitChar d] = decimal (10 * n + d) := by
  rw [← decimal_of_lt hd]
  exact Nat.toDigits_append_toDigits (by decide) hn hd

/-- A canonical numeral is the one that its value is written with. -/
theorem Canonical.eq_decimal {digits : List Char} {n : Nat} (h : Canonical digits)
    (hread : read? 10 digits = some n) : digits = decimal n := by
  -- The last digit is taken off; what is before it is canonical, or the digit stands alone.
  induction digits using List.reverseRecOn generalizing n with
  | nil => exact absurd rfl h.ne_nil
  | append_singleton front c ih =>
    obtain ⟨d, hd, rfl⟩ := exists_digitChar (h.isDigit c (by simp))
    by_cases hfront : front = []
    · subst hfront
      have hempty : read? 10 [] = some 0 := rfl
      obtain rfl : 10 * 0 + d = n :=
        Option.some.inj ((read?_append_digit (by decide) hempty hd).symm.trans hread)
      rw [Nat.mul_zero, Nat.zero_add, decimal_of_lt hd, List.nil_append]
    · have hhead : front.head? ≠ some '0' := by
        intro hzero
        have hall := congrArg List.length
          (h.eq_zero (by rw [List.head?_append_of_ne_nil _ hfront, hzero]))
        simp [hfront] at hall
      have hcanonical : Canonical front :=
        ⟨fun c hc => h.isDigit c (List.mem_append_left _ hc), hfront,
          fun hzero => absurd hzero hhead⟩
      obtain ⟨value, hvalue⟩ := exists_read? hcanonical.isDigit
      obtain rfl : 10 * value + d = n :=
        Option.some.inj ((read?_append_digit (by decide) hvalue hd).symm.trans hread)
      have hpos : 0 < value := by
        by_contra hzero
        rw [ih hcanonical hvalue, Nat.eq_zero_of_not_pos hzero] at hhead
        exact hhead rfl
      rw [ih hcanonical hvalue, decimal_append_digit hpos hd]

/-- A character with the value of a decimal digit is that digit. -/
theorem eq_digitChar_of_digit? {c : Char} {d : Nat} (h : digit? 10 c = some d) :
    d < 10 ∧ c = Nat.digitChar d := by
  obtain ⟨hvalue, hlow⟩ := Option.filter_eq_some_iff.mp h
  have hd : d < 10 := of_decide_eq_true hlow
  -- The digits above nine are letters, and these have values from ten on.
  have hdigit : c.isDigit = true := by
    have hsome := hvalue
    unfold hexValue? at hsome
    split at hsome
    · next hrange => simpa [Char.isDigit, Char.le_def] using hrange
    · split at hsome
      · have hsum := Option.some.inj hsome
        omega
      · split at hsome
        · have hsum := Option.some.inj hsome
          omega
        · cases hsome
  obtain ⟨k, hk, rfl⟩ := exists_digitChar hdigit
  rw [hexValue?_digitChar k (by omega), Option.some.injEq] at hvalue
  exact ⟨hd, congrArg Nat.digitChar hvalue⟩

/-- A numeral with a given number of decimal digits is the one that its value is written with. -/
theorem eq_decimalPadded {digits : List Char} {n : Nat} (h : read? 10 digits = some n) :
    digits = decimalPadded digits.length n := by
  induction digits using List.reverseRecOn generalizing n with
  | nil => rfl
  | append_singleton front c ih =>
    obtain ⟨value, d, hvalue, hdigit, rfl⟩ := exists_of_read?_append h
    obtain ⟨hd, rfl⟩ := eq_digitChar_of_digit? hdigit
    have htens : (10 * value + d) / 10 = value := by omega
    have hrest : (10 * value + d) % 10 = d := by omega
    rw [List.length_append, List.length_singleton, decimalPadded, padded, htens, hrest]
    exact congrArg (· ++ [Nat.digitChar d]) (ih hvalue)

/-- So many digits hold no more than this. -/
theorem lt_of_read? {digits : List Char} {n : Nat} (h : read? 10 digits = some n) :
    n < 10 ^ digits.length := by
  have hread := h
  rw [eq_decimalPadded h, decimalPadded, read?_padded (by decide) (by decide)] at hread
  rw [← Option.some.inj hread]
  exact Nat.mod_lt n (Nat.pow_pos (by decide))

/-- Of all texts the canonical numeral of a number is the one that is written for it. -/
theorem canonical_iff {digits : List Char} {n : Nat} :
    Canonical digits ∧ read? 10 digits = some n ↔ digits = decimal n := by
  constructor
  · rintro ⟨hcanonical, hread⟩
    exact hcanonical.eq_decimal hread
  · rintro rfl
    exact ⟨canonical_decimal n, read?_decimal n⟩

-- ════════════════════════════════════════════════════════════════════════
-- Words
-- ════════════════════════════════════════════════════════════════════════

/-- The digits of a word are put into a buffer if there is room for all of them. -/
theorem collect?_eq (room : Nat) (n : UInt64) : collect? room n =
    if 0 < room ∧ n.toNat < 10 ^ room then some (decimal n.toNat).reverse else none := by
  induction room generalizing n with
  | zero => simp [collect?]
  | succ room ih =>
    have hrest : (n % 10).toNat = n.toNat % 10 := by simp
    have htens : (n / 10).toNat = n.toNat / 10 := by simp
    rw [collect?, ih, hrest, htens]
    have hpow : 10 ^ (room + 1) = 10 * 10 ^ room := Nat.pow_succ'
    have hone : 0 < 10 ^ room := Nat.pow_pos (by decide)
    by_cases hlast : n / 10 = 0
    · have hlow : n.toNat < 10 := by
        rw [← UInt64.toNat_inj, htens] at hlast
        exact Nat.lt_of_div_eq_zero (by decide) hlast
      rw [if_pos hlast, if_pos ⟨Nat.succ_pos room, by omega⟩, decimal_of_lt hlow,
        Nat.mod_eq_of_lt hlow]
      rfl
    · have hhigh : 10 ≤ n.toNat := by
        rw [← UInt64.toNat_inj, htens] at hlast
        exact Nat.not_lt.mp fun hlow => hlast (Nat.div_eq_of_lt hlow)
      rw [if_neg hlast]
      by_cases hroom : n.toNat < 10 ^ (room + 1)
      · have hmore : 0 < room := by
          rcases Nat.eq_zero_or_pos room with rfl | hmore
          · omega
          · exact hmore
        rw [if_pos ⟨hmore, by omega⟩, if_pos ⟨Nat.succ_pos room, hroom⟩, decimal_of_le hhigh,
          List.reverse_append]
        rfl
      · rw [if_neg (by omega), if_neg (by omega)]
        rfl

theorem inBuffer?_eq (room : Nat) (n : UInt64) : inBuffer? room n =
    if 0 < room ∧ n.toNat < 10 ^ room then some (decimal n.toNat) else none := by
  rw [inBuffer?, collect?_eq]
  split
  · rw [Option.map_some, List.reverse_reverse]
  · rfl

/-- A word is always written: there is room in the buffer for the numeral of every word. -/
theorem decimalWord_eq (n : UInt64) : decimalWord n = [decimal n.toNat] := by
  have hroom : n.toNat < 10 ^ decimalRoom := Nat.lt_trans n.toNat_lt (by decide)
  rw [decimalWord, inBuffer?_eq, if_pos ⟨by decide, hroom⟩]
  rfl

/-- The last four bits of a word are its rest by sixteen, and the others its sixteenths. -/
theorem fill_eq (d : Nat) (n : UInt64) : fill d n = hexPadded d n.toNat := by
  induction d generalizing n with
  | zero => rfl
  | succ d ih =>
    have hshift : (n >>> 4).toNat = n.toNat / 16 := by
      simp [UInt64.toNat_shiftRight, Nat.shiftRight_eq_div_pow]
    have hmask : (n &&& 0xf).toNat = n.toNat % 16 := by
      simpa using Nat.and_two_pow_sub_one_eq_mod n.toNat 4
    rw [fill, ih, hshift, hmask]
    rfl

theorem hexWord_eq (digits : Nat) (n : UInt64) :
    hexWord digits n = hexPadded (min digits wordDigits) n.toNat := fill_eq _ n

end CrashTrace.Numeral
