import CrashTrace.Proofs.Report.Lines

/-!
# Numbers in a report

A report writes numbers into buffers of fixed size: those of lines in decimal, those of threads and
exceptions in hexadecimal. There is always room, so each number is written, and it can be read back.

## Main results

- `Numeral.read?_hexWord`, `Numeral.mem_hexWord` — what digits in hexadecimal tell of a word
- `Report.threadHeader_inj` — a header tells its thread
- `Report.numbers_written`
-/

namespace CrashTrace

namespace Numeral

/-- The digits of hexadecimal numerals. -/
def hexDigits : List Char := "0123456789abcdef".toList

theorem digitChar_mem_hexDigits : ∀ d, d < 16 → Nat.digitChar d ∈ hexDigits := by decide

theorem length_hexWord (digits : Nat) (n : UInt64) : (hexWord digits n).length = min digits 16 := by
  rw [hexWord_eq]
  exact length_padded 16 (min digits 16) n.toNat

theorem mem_hexWord {digits : Nat} {n : UInt64} {c : Char} (h : c ∈ hexWord digits n) :
    c ∈ hexDigits := by
  rw [hexWord_eq] at h
  obtain ⟨d, hd, rfl⟩ := mem_hexPadded h
  exact digitChar_mem_hexDigits d hd

/-- The digits that are written are the last ones of the word. -/
theorem read?_hexWord (digits : Nat) (n : UInt64) :
    read? 16 (hexWord digits n) = some (n.toNat % 16 ^ min digits 16) := by
  rw [hexWord_eq]
  exact read?_padded (by decide) (by decide) (min digits 16) n.toNat

/-- The numeral of a word is no longer than the buffer that it is made in. -/
theorem length_decimal_le (n : UInt64) : (decimal n.toNat).length ≤ decimalRoom :=
  (Nat.length_toDigits_le_iff (by decide) (by decide)).mpr (Nat.lt_trans n.toNat_lt (by decide))

end Numeral

namespace Report

theorem text_threadHeader (t : ThreadId) (isCurrent : Bool) :
    (threadHeader t isCurrent).text = Line.written (.thread t isCurrent) := by
  have hend : " (most recent call first):\n".toList = Line.threadEnd ++ ['\n'] := by decide
  rw [Line.written, Line.text_thread, threadHeader, Numeral.hexWord_eq, hend]
  simp [Line.threadMark, Numeral.wordDigits]

/-- A header tells its thread, and whether that is the current one. -/
theorem threadHeader_inj {t u : ThreadId} {isCurrent isCurrent' : Bool} :
    (threadHeader t isCurrent).text = (threadHeader u isCurrent').text ↔
      t = u ∧ isCurrent = isCurrent' := by
  constructor
  · intro h
    rw [text_threadHeader, text_threadHeader, Line.written, Line.written,
      List.append_cancel_right_eq] at h
    have hread : ∀ id current,
        Line.read? (Line.thread id current).text = some (.thread id current) :=
      fun id current => Line.read?_text trivial
    have hline := hread t isCurrent
    rw [h, hread] at hline
    simpa [eq_comm] using hline
  · rintro ⟨rfl, rfl⟩
    rfl

/-- Numbers are written whole. For every word exactly one request is made in decimal: its canonical
numeral, which has room in the buffer. In hexadecimal as many of its last digits are written as are
asked for, sixteen at the most. So the headers of different threads are different. -/
theorem numbers_written (n : UInt64) (digits : Nat) (t u : ThreadId) (isCurrent isCurrent' : Bool) :
    (∃ text, Numeral.decimalWord n = [text] ∧ text.length ≤ Numeral.decimalRoom ∧
      ∀ other, Numeral.Canonical other ∧ Numeral.read? 10 other = some n.toNat ↔ other = text) ∧
    ((Numeral.hexWord digits n).length = min digits 16 ∧
      (∀ c ∈ Numeral.hexWord digits n, c ∈ Numeral.hexDigits) ∧
      Numeral.read? 16 (Numeral.hexWord digits n) = some (n.toNat % 16 ^ min digits 16)) ∧
    ((threadHeader t isCurrent).text = (threadHeader u isCurrent').text ↔
      t = u ∧ isCurrent = isCurrent') := by
  refine ⟨⟨_, Numeral.decimalWord_eq n, Numeral.length_decimal_le n, fun other => ?_⟩,
    ⟨Numeral.length_hexWord digits n, fun _ => Numeral.mem_hexWord, Numeral.read?_hexWord digits n⟩,
    threadHeader_inj⟩
  exact Numeral.canonical_iff

end Report

end CrashTrace
