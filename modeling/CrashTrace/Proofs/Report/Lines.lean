import CrashTrace.Proofs.Text.Escape
import CrashTrace.Report.Stack
import CrashTrace.Text.Split

/-!
# Lines of a report

A report on threads consists of lines of six kinds, and each of them can be read back as long as
the names in it can be. The kinds differ in the first characters. Within the line of a frame the
source ends at the first quote, since a quote is written for a quote only, and the number ends at
the first blank.

## Main definitions

- `Report.Line`, `Report.Line.text` — the lines of a report on threads
- `Report.Line.read?`, `Frame.read?` — the line with a text
- `Frame.Legible` — the names of a frame can be read back

## Main results

- `Report.Line.read?_text`
- `Report.split_written` — a report falls into its lines
-/

namespace CrashTrace

/-- A name that is shown as a whole and has no backslash of its own. -/
def Escape.Legible (s : Text) : Prop := s.length ≤ Escape.maxChars ∧ '\\' ∉ s

instance (s : Text) : Decidable (Escape.Legible s) := inferInstanceAs (Decidable (_ ∧ _))

/-- Both names can be read back, and the source does not end before its closing quote. -/
def Frame.Legible (f : Frame) : Prop :=
  Escape.Legible f.code.function.toList ∧ Escape.Legible f.code.source.toList ∧
    '"' ∉ f.code.source.toList

instance (f : Frame) : Decidable f.Legible := inferInstanceAs (Decidable (_ ∧ _ ∧ _))

/-- The frame that a line shows. -/
def Frame.read? (text : Text) : Option Frame := do
  let rest ← text.dropPrefix? "  File \"".toList
  let source ← Escape.read? (rest.takeWhile (· ≠ '"'))
  let rest ← (rest.dropWhile (· ≠ '"')).dropPrefix? "\", line ".toList
  let line ← Numeral.read? 10 (rest.takeWhile (· ≠ ' '))
  let rest ← (rest.dropWhile (· ≠ ' ')).dropPrefix? " in ".toList
  let function ← Escape.read? rest
  return ⟨⟨String.ofList function, String.ofList source⟩, UInt32.ofNat line⟩

namespace Report

/-- A line of a report on threads. -/
inductive Line where
  | thread (id : ThreadId) (isCurrent : Bool)
  | collecting
  | noFrame
  | frame (f : Frame)
  | moreFrames
  | blank
  deriving DecidableEq

namespace Line

/-- What stands before the number of a thread. -/
def threadMark (isCurrent : Bool) : Text :=
  (if isCurrent then "Current thread 0x" else "Thread 0x").toList

def threadEnd : Text := " (most recent call first):".toList

/-- The characters of a line, without the one that ends it. -/
def text : Line → Text
  | thread id isCurrent => threadMark isCurrent ++ Numeral.hexPadded 16 id.toNat ++ threadEnd
  | collecting => "  Garbage-collecting".toList
  | noFrame => "  <no Python frame>".toList
  | frame f =>
    "  File \"".toList ++ (Escape.name f.code.source.toList).text ++ "\", line ".toList
      ++ Numeral.decimal f.line.toNat ++ " in ".toList ++ (Escape.name f.code.function.toList).text
  | moreFrames => "  ...".toList
  | blank => []

theorem text_thread (id : ThreadId) (isCurrent : Bool) : (thread id isCurrent).text =
    threadMark isCurrent ++ Numeral.hexPadded 16 id.toNat ++ threadEnd := rfl

theorem text_frame (f : Frame) : (frame f).text =
    "  File \"".toList ++ (Escape.name f.code.source.toList).text ++ "\", line ".toList
      ++ Numeral.decimal f.line.toNat ++ " in ".toList
      ++ (Escape.name f.code.function.toList).text := rfl

/-- A line as a report has it. -/
def written (l : Line) : Text := l.text ++ ['\n']

/-- The number of the thread that a line announces. -/
def threadId? (isCurrent : Bool) (text : Text) : Option ThreadId := do
  let rest ← text.dropPrefix? (threadMark isCurrent)
  let id ← Numeral.read? 16 (rest.take 16)
  if rest.drop 16 = threadEnd then some (UInt64.ofNat id) else none

/-- The line with a text. -/
def read? (text : Text) : Option Line :=
  match text with
  | [] => some blank
  | 'C' :: _ => (threadId? true text).map (thread · true)
  | 'T' :: _ => (threadId? false text).map (thread · false)
  | ' ' :: ' ' :: 'F' :: _ => (Frame.read? text).map frame
  | _ => [collecting, noFrame, moreFrames].find? (·.text = text)

/-- A line whose names can be read back. -/
def Legible : Line → Prop
  | frame f => f.Legible
  | _ => True

-- ════════════════════════════════════════════════════════════════════════
-- Parts of a line
-- ════════════════════════════════════════════════════════════════════════

theorem dropPrefix?_append (mark rest : Text) : (mark ++ rest).dropPrefix? mark = some rest :=
  List.dropPrefix?_append_of_beq rest (beq_self_eq_true mark)

/-- The part before the first occurrence of a character. -/
theorem takeWhile_before {mark : Char} {part : Text} (h : mark ∉ part) (rest : Text) :
    (part ++ mark :: rest).takeWhile (· ≠ mark) = part := by
  have hpart : ∀ c ∈ part, decide (c ≠ mark) = true := by
    intro c hc
    exact decide_eq_true (fun heq => h (heq ▸ hc))
  rw [List.takeWhile_append_of_pos hpart, List.takeWhile_cons_of_neg (by simp), List.append_nil]

theorem dropWhile_before {mark : Char} {part : Text} (h : mark ∉ part) (rest : Text) :
    (part ++ mark :: rest).dropWhile (· ≠ mark) = mark :: rest := by
  have hpart : ∀ c ∈ part, decide (c ≠ mark) = true := by
    intro c hc
    exact decide_eq_true (fun heq => h (heq ▸ hc))
  rw [List.dropWhile_append_of_pos hpart, List.dropWhile_cons_of_neg (by simp)]

theorem threadId?_text (id : ThreadId) (isCurrent : Bool) :
    threadId? isCurrent (text (thread id isCurrent)) = some id := by
  have hlength : (Numeral.hexPadded 16 id.toNat).length = 16 :=
    Numeral.length_padded 16 16 id.toNat
  have hid : id.toNat < 16 ^ 16 := Nat.lt_of_lt_of_eq id.toNat_lt (by decide)
  unfold threadId?
  simp only [text_thread, List.append_assoc, Option.bind_eq_bind]
  rw [dropPrefix?_append, Option.bind_some, List.take_left' hlength,
    Numeral.read?_hexPadded (d := 16) hid, Option.bind_some, List.drop_left' hlength, if_pos rfl,
    UInt64.ofNat_toNat]

theorem read?_frame {f : Frame} (hf : f.Legible) : Frame.read? (text (frame f)) = some f := by
  obtain ⟨⟨hfunction, hplain⟩, ⟨hsource, hplain'⟩, hquote⟩ := hf
  have hquote := Escape.quote_not_mem_name hquote
  have hblank : ' ' ∉ Numeral.decimal f.line.toNat := Numeral.not_mem_decimal (by decide) _
  have hend : ∀ rest, "\", line ".toList ++ rest = '"' :: (", line ".toList ++ rest) := fun _ => rfl
  have hend' : ∀ rest, " in ".toList ++ rest = ' ' :: ("in ".toList ++ rest) := fun _ => rfl
  unfold Frame.read?
  simp only [text_frame, List.append_assoc, Option.bind_eq_bind]
  rw [dropPrefix?_append, Option.bind_some, hend, takeWhile_before hquote,
    Escape.read?_name hsource hplain', Option.bind_some, dropWhile_before hquote, ← hend,
    dropPrefix?_append, Option.bind_some, hend', takeWhile_before hblank, Numeral.read?_decimal,
    Option.bind_some, dropWhile_before hblank, ← hend', dropPrefix?_append, Option.bind_some,
    Escape.read?_name hfunction hplain]
  simp

-- ════════════════════════════════════════════════════════════════════════
-- Whole lines
-- ════════════════════════════════════════════════════════════════════════

theorem read?_of_current {text rest : Text} (h : text = 'C' :: rest) :
    read? text = (threadId? true text).map (thread · true) := by
  rw [h]
  rfl

theorem read?_of_other {text rest : Text} (h : text = 'T' :: rest) :
    read? text = (threadId? false text).map (thread · false) := by
  rw [h]
  rfl

theorem read?_of_file {text rest : Text} (h : text = ' ' :: ' ' :: 'F' :: rest) :
    read? text = (Frame.read? text).map frame := by
  rw [h]
  rfl

/-- The first characters of a line tell its kind. -/
theorem read?_text {l : Line} (hl : l.Legible) : read? l.text = some l := by
  cases l with
  | thread id isCurrent =>
    have hid := threadId?_text id isCurrent
    rw [text_thread] at hid ⊢
    cases isCurrent with
    | true =>
      have hmark : threadMark true = 'C' :: "urrent thread 0x".toList := by decide
      rw [hmark, List.cons_append, List.cons_append] at hid ⊢
      rw [read?_of_current rfl, hid, Option.map_some]
    | false =>
      have hmark : threadMark false = 'T' :: "hread 0x".toList := by decide
      rw [hmark, List.cons_append, List.cons_append] at hid ⊢
      rw [read?_of_other rfl, hid, Option.map_some]
  | frame f =>
    have hf := read?_frame hl
    have hmark : "  File \"".toList = ' ' :: ' ' :: 'F' :: "ile \"".toList := by decide
    simp only [text_frame, hmark, List.cons_append] at hf ⊢
    rw [read?_of_file rfl, hf, Option.map_some]
  | collecting => decide
  | noFrame => decide
  | moreFrames => decide
  | blank => rfl

/-- Every character of a line is printable. -/
theorem printable_of_mem_text {l : Line} {c : Char} (h : c ∈ l.text) : Printable c := by
  cases l with
  | thread id isCurrent =>
    simp only [text_thread, List.mem_append] at h
    obtain (h | h) | h := h
    · exact printable_of_mem_of_all (by cases isCurrent <;> decide) h
    · obtain ⟨k, hk, rfl⟩ := Numeral.mem_hexPadded h
      exact Escape.printable_of_digit k hk
    · exact printable_of_mem_of_all (by decide) h
  | frame f =>
    simp only [text_frame, List.mem_append] at h
    obtain ((((h | h) | h) | h) | h) | h := h
    · exact printable_of_mem_of_all (by decide) h
    · exact Escape.printable_of_mem_name h
    · exact printable_of_mem_of_all (by decide) h
    · exact Escape.printable_of_mem_decimal h
    · exact printable_of_mem_of_all (by decide) h
    · exact Escape.printable_of_mem_name h
  | collecting => exact printable_of_mem_of_all (by decide) h
  | noFrame => exact printable_of_mem_of_all (by decide) h
  | moreFrames => exact printable_of_mem_of_all (by decide) h
  | blank => cases h

/-- No name leaves its line. -/
theorem newline_not_mem_text (l : Line) : '\n' ∉ l.text := fun h =>
  absurd (printable_of_mem_text h).1 (by decide)

end Line

/-- A report falls into its lines, also if something follows them. -/
theorem split_written_append (lines : List Line) (rest : Text) :
    Text.split '\n' (lines.flatMap Line.written ++ rest) =
      lines.map Line.text ++ Text.split '\n' rest := by
  have hplain : ∀ part ∈ lines.map Line.text, '\n' ∉ part := by
    intro part hpart
    obtain ⟨l, -, rfl⟩ := List.mem_map.mp hpart
    exact l.newline_not_mem_text
  have hsplit := Text.split_flatMap_append hplain rest
  rwa [List.flatMap_map] at hsplit

/-- A report falls into its lines; the part after the last of them is empty. -/
theorem split_written (lines : List Line) :
    Text.split '\n' (lines.flatMap Line.written) = lines.map Line.text ++ [[]] := by
  have hsplit := split_written_append lines []
  rwa [List.append_nil] at hsplit

end Report

end CrashTrace
