import CrashTrace.Proofs.Report.Lines
import CrashTrace.Report.Header

/-!
# Reading a timeout header

The header of a timed report shows the timeout as a clock does. The text can be taken apart in one
way only, and what it shows is the timeout up to the microsecond, so that the fraction may be left
out if it is zero.

## Main definitions

- `Clock` — the texts between the marks of a clock
- `Clock.Proper` — how these texts must look
- `Clock.value?` — what they show, in microseconds
- `Clock.ofMicros` — the clock for a number of microseconds

## Main results

- `Clock.value?_eq_some_iff` — a proper clock is told by what it shows
- `Clock.text_inj` — and by its text
- `Report.timeoutHeader_tells`
-/

namespace CrashTrace

/-- The texts that a clock shows between its marks. -/
@[ext]
structure Clock where
  hours : Text
  minutes : Text
  seconds : Text
  /-- The digits of the fraction, if one is shown. -/
  fraction? : Option Text
  deriving DecidableEq

/-- All nanoseconds of a duration. -/
def Duration.wholeNanos (d : Duration) : Nat := d.secs.toNat * nanosPerSec + d.nanos

theorem Duration.micros_eq (d : Duration) : d.micros = d.wholeNanos / 1000 := by
  unfold micros subsecMicros wholeNanos nanosPerSec
  omega

namespace Clock

/-- The marks and what is between them. -/
def text (c : Clock) : Text :=
  c.hours ++ ':' :: (c.minutes ++ ':' :: (c.seconds ++ c.fraction?.elim [] ('.' :: ·)))

/-- The microseconds that a clock shows: those of its hours, minutes and seconds, and its
fraction. -/
def value? (c : Clock) : Option Nat := do
  let hours ← Numeral.read? 10 c.hours
  let minutes ← Numeral.read? 10 c.minutes
  let seconds ← Numeral.read? 10 c.seconds
  let fraction ← c.fraction?.elim (some 0) (Numeral.read? 10)
  some ((3600 * hours + 60 * minutes + seconds) * 1000000 + fraction)

/-- Two digits below sixty. -/
def Sexagesimal (digits : Text) : Prop :=
  digits.length = 2 ∧ ∃ n, Numeral.read? 10 digits = some n ∧ n < 60

/-- Hours are not padded, minutes and seconds have two digits, and a fraction has six of which not
all are zero. -/
structure Proper (c : Clock) : Prop where
  hours : Numeral.Canonical c.hours
  minutes : Sexagesimal c.minutes
  seconds : Sexagesimal c.seconds
  fraction : ∀ digits ∈ c.fraction?,
    digits.length = 6 ∧ ∃ n, Numeral.read? 10 digits = some n ∧ 0 < n

/-- The clock that shows a number of microseconds. -/
def ofMicros (n : Nat) : Clock where
  hours := Numeral.decimal (n / 1000000 / 3600)
  minutes := Numeral.decimalPadded 2 (n / 1000000 / 60 % 60)
  seconds := Numeral.decimalPadded 2 (n / 1000000 % 60)
  fraction? :=
    if n % 1000000 = 0 then none else some (Numeral.decimalPadded 6 (n % 1000000))

variable {c c' : Clock} {n : Nat}

-- ════════════════════════════════════════════════════════════════════════
-- What a clock shows
-- ════════════════════════════════════════════════════════════════════════

theorem sexagesimal_decimalPadded (h : n < 60) : Sexagesimal (Numeral.decimalPadded 2 n) :=
  ⟨Numeral.length_padded 10 2 n, n, Numeral.read?_decimalPadded (Nat.lt_trans h (by decide)), h⟩

theorem proper_ofMicros (n : Nat) : (ofMicros n).Proper where
  hours := Numeral.canonical_decimal _
  minutes := sexagesimal_decimalPadded (Nat.mod_lt _ (by decide))
  seconds := sexagesimal_decimalPadded (Nat.mod_lt _ (by decide))
  fraction digits hdigits := by
    simp only [ofMicros] at hdigits
    split at hdigits
    · cases hdigits
    · next hpos =>
      obtain rfl := Option.some.inj hdigits
      exact ⟨Numeral.length_padded 10 6 _, n % 1000000,
        Numeral.read?_decimalPadded (Nat.mod_lt _ (by decide)), Nat.pos_of_ne_zero hpos⟩

theorem value?_ofMicros (n : Nat) : (ofMicros n).value? = some n := by
  have hfraction : (ofMicros n).fraction?.elim (some 0) (Numeral.read? 10) =
      some (n % 1000000) := by
    simp only [ofMicros]
    split
    · next hzero => rw [Option.elim_none, hzero]
    · exact Numeral.read?_decimalPadded (Nat.mod_lt _ (by decide))
  have hminutes : Numeral.read? 10 (ofMicros n).minutes = some (n / 1000000 / 60 % 60) :=
    Numeral.read?_decimalPadded (Nat.lt_trans (Nat.mod_lt _ (by decide)) (by decide))
  have hseconds : Numeral.read? 10 (ofMicros n).seconds = some (n / 1000000 % 60) :=
    Numeral.read?_decimalPadded (Nat.lt_trans (Nat.mod_lt _ (by decide)) (by decide))
  have hhours : Numeral.read? 10 (ofMicros n).hours = some (n / 1000000 / 3600) :=
    Numeral.read?_decimal _
  simp only [value?, hhours, hminutes, hseconds, hfraction, Option.bind_eq_bind, Option.bind_some,
    Option.some.injEq]
  omega

theorem Sexagesimal.eq_decimalPadded {digits : Text} {n : Nat} (h : Sexagesimal digits)
    (hread : Numeral.read? 10 digits = some n) : n < 60 ∧ digits = Numeral.decimalPadded 2 n := by
  obtain ⟨hlength, m, hm, hlow⟩ := h
  obtain rfl : m = n := Option.some.inj (hm.symm.trans hread)
  have hdigits := Numeral.eq_decimalPadded hread
  rw [hlength] at hdigits
  exact ⟨hlow, hdigits⟩

/-- A fraction that is not shown stands for zero, and one that is shown for something else. -/
theorem Proper.fraction_eq (h : c.Proper)
    (hread : c.fraction?.elim (some 0) (Numeral.read? 10) = some n) :
    n < 1000000 ∧ c.fraction? = if n = 0 then none else some (Numeral.decimalPadded 6 n) := by
  have hproper := h.fraction
  cases hfraction : c.fraction? with
  | none =>
    rw [hfraction, Option.elim_none] at hread
    obtain rfl := Option.some.inj hread
    exact ⟨by decide, rfl⟩
  | some digits =>
    rw [hfraction, Option.elim_some] at hread
    obtain ⟨hlength, m, hm, hpos⟩ := hproper digits hfraction
    obtain rfl : m = n := Option.some.inj (hm.symm.trans hread)
    have hdigits := Numeral.eq_decimalPadded hread
    have hbound := Numeral.lt_of_read? hread
    rw [hlength] at hdigits hbound
    exact ⟨hbound, by rw [if_neg (Nat.ne_of_gt hpos), ← hdigits]⟩

/-- A proper clock is the one for the microseconds that it shows. -/
theorem Proper.eq_ofMicros (h : c.Proper) (hvalue : c.value? = some n) : c = ofMicros n := by
  simp only [value?, Option.bind_eq_bind, Option.bind_eq_some_iff, Option.some.injEq] at hvalue
  obtain ⟨hours, hhours, minutes, hminutes, seconds, hseconds, micros, hmicros, rfl⟩ := hvalue
  have hours_eq := h.hours.eq_decimal hhours
  obtain ⟨minutes_lt, minutes_eq⟩ := h.minutes.eq_decimalPadded hminutes
  obtain ⟨seconds_lt, seconds_eq⟩ := h.seconds.eq_decimalPadded hseconds
  obtain ⟨micros_lt, fraction_eq⟩ := h.fraction_eq hmicros
  -- Each part is taken out of the sum again.
  have hsum : ((3600 * hours + 60 * minutes + seconds) * 1000000 + micros) / 1000000 =
      3600 * hours + 60 * minutes + seconds := by omega
  have hrest : ((3600 * hours + 60 * minutes + seconds) * 1000000 + micros) % 1000000 = micros := by
    omega
  have hhour : (3600 * hours + 60 * minutes + seconds) / 3600 = hours := by omega
  have hminute : (3600 * hours + 60 * minutes + seconds) / 60 % 60 = minutes := by omega
  have hsecond : (3600 * hours + 60 * minutes + seconds) % 60 = seconds := by omega
  rw [ofMicros, hsum, hrest, hhour, hminute, hsecond, ← hours_eq, ← minutes_eq, ← seconds_eq,
    ← fraction_eq]

theorem Proper.value?_eq_some_iff (h : c.Proper) : c.value? = some n ↔ c = ofMicros n := by
  constructor
  · exact h.eq_ofMicros
  · rintro rfl
    exact value?_ofMicros n

-- ════════════════════════════════════════════════════════════════════════
-- The text of a clock
-- ════════════════════════════════════════════════════════════════════════

/-- The text of a clock can be taken apart in one way. -/
theorem Proper.text_inj (h : c.Proper) (h' : c'.Proper) : c.text = c'.text ↔ c = c' := by
  refine ⟨fun htext => ?_, congrArg text⟩
  have hcolon : ∀ {c : Clock}, c.Proper → ':' ∉ c.hours := fun hc hmem =>
    absurd (hc.hours.isDigit ':' hmem) (by decide)
  have hhours := congrArg (List.takeWhile (· ≠ ':')) htext
  have hrest := congrArg (List.dropWhile (· ≠ ':')) htext
  rw [text, text, Report.Line.takeWhile_before (hcolon h),
    Report.Line.takeWhile_before (hcolon h')] at hhours
  rw [text, text, Report.Line.dropWhile_before (hcolon h),
    Report.Line.dropWhile_before (hcolon h')] at hrest
  obtain ⟨hminutes, hrest⟩ := List.append_inj (List.cons.inj hrest).2
    (h.minutes.1.trans h'.minutes.1.symm)
  obtain ⟨hseconds, hfraction⟩ := List.append_inj (List.cons.inj hrest).2
    (h.seconds.1.trans h'.seconds.1.symm)
  have hsame : c.fraction? = c'.fraction? := by
    revert hfraction
    cases c.fraction? <;> cases c'.fraction? <;> simp
  exact Clock.ext hhours hminutes hseconds hsame

end Clock

namespace Duration

theorem micros_div (d : Duration) : d.micros / 1000000 = d.secs.toNat := by
  have hnanos := d.nanos_lt
  unfold micros subsecMicros
  omega

theorem micros_mod (d : Duration) : d.micros % 1000000 = d.subsecMicros := by
  have hnanos := d.nanos_lt
  unfold micros subsecMicros
  omega

theorem clock_eq (d : Duration) : d.clock = (Clock.ofMicros d.micros).text := by
  rw [clock, Clock.text, Clock.ofMicros, micros_div, micros_mod]
  dsimp only
  split
  · simp
  · simp

theorem fraction?_ofMicros (d : Duration) :
    (Clock.ofMicros d.micros).fraction?.isSome ↔ d.subsecMicros ≠ 0 := by
  simp only [Clock.ofMicros, micros_mod]
  split
  · next hzero => simp [hzero]
  · next hpos => simp [hpos]

end Duration

namespace Report

/-- The header that shows a clock. -/
def clockHeader (c : Clock) : Text := "Timeout (".toList ++ c.text ++ ")!\n".toList

theorem clockHeader_inj {c c' : Clock} (h : c.Proper) (h' : c'.Proper) :
    clockHeader c = clockHeader c' ↔ c = c' := by
  unfold clockHeader
  rw [List.append_cancel_right_eq, List.append_cancel_left_eq, h.text_inj h']

theorem timeoutHeader_eq (d : Duration) :
    timeoutHeader d = clockHeader (Clock.ofMicros d.micros) := by
  unfold timeoutHeader clockHeader
  rw [d.clock_eq]

/-- The header of a timed report shows a clock, with a fraction exactly if there are microseconds
below a second. What the clock shows is the timeout rounded down to microseconds, and of all clocks
that can be taken from the header or that show this time it is the only one. So two timeouts have
the same header exactly if they agree to the microsecond. -/
theorem timeoutHeader_tells (d e : Duration) :
    (∃ c : Clock, c.Proper ∧ timeoutHeader d = clockHeader c ∧
      (c.fraction?.isSome ↔ d.subsecMicros ≠ 0) ∧ c.value? = some (d.wholeNanos / 1000)) ∧
    (∀ c : Clock, c.Proper →
      (timeoutHeader d = clockHeader c ↔ c.value? = some (d.wholeNanos / 1000))) ∧
    (timeoutHeader d = timeoutHeader e ↔ d.wholeNanos / 1000 = e.wholeNanos / 1000) := by
  have hshows : ∀ (d : Duration) (c : Clock), c.Proper →
      (timeoutHeader d = clockHeader c ↔ c.value? = some d.micros) := by
    intro d c hc
    rw [timeoutHeader_eq, clockHeader_inj (Clock.proper_ofMicros _) hc, hc.value?_eq_some_iff,
      eq_comm]
  simp only [← Duration.micros_eq]
  refine ⟨⟨Clock.ofMicros d.micros, Clock.proper_ofMicros _, timeoutHeader_eq d,
    d.fraction?_ofMicros, Clock.value?_ofMicros _⟩, hshows d, ?_⟩
  · rw [timeoutHeader_eq e, hshows d _ (Clock.proper_ofMicros _), Clock.value?_ofMicros,
      Option.some.injEq, eq_comm]

end Report

end CrashTrace
