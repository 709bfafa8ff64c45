import CrashTrace.Proofs.Output.Front
import CrashTrace.Proofs.Registry.Renamed
import CrashTrace.Proofs.Report.Blocks
import CrashTrace.Proofs.Report.Marks

/-!
# Names stay in their lines

The names in a registry come from the observed program and may hold anything. A report shows each of
them within the line of its frame: it has the same lines as the report without names, each of the
same kind, and the names only fill the room between the quotes and at the end of the line. So no
name ends a line, begins one, or passes for one.

## Main definitions

- `Report.Row` — the lines of reports on one thread and on all threads
- `Report.Kind`, `Report.Kind.of?` — what a line shows, told by its characters
- `Report.Span` — a stretch of a report, which is a name or the report's own
- `Report.Confines` — a report keeps names in their lines

## Main results

- `Report.names_confined`
-/

namespace CrashTrace

namespace Report

/-- A line of a report on one thread or on all threads. -/
inductive Row where
  | stack
  | line (l : Line)
  | moreThreads

/-- What a line shows. -/
inductive Kind where
  | header
  | collecting
  | frame
  | moreFrames
  | noFrame
  | blank
  | moreThreads
  deriving DecidableEq

/-- A stretch of a report: characters of the report's own, or a name. -/
inductive Span where
  | own (shown : Text)
  | named (name : String)

namespace Span

/-- What the report has there. -/
def text : Span → Text
  | own shown => shown
  | named name => (Escape.name name.toList).text

/-- What the report without names has there. -/
def ownText : Span → Text
  | own shown => shown
  | named _ => []

def name? : Span → Option String
  | own _ => none
  | named name => some name

end Span

namespace Row

/-- The characters of a line, without the one that ends it. -/
def text : Row → Text
  | stack => "Stack (most recent call first):".toList
  | line l => l.text
  | moreThreads => "...".toList

/-- A line as a report has it. -/
def written (row : Row) : Text := row.text ++ ['\n']

def kind : Row → Kind
  | stack => .header
  | line (.thread _ _) => .header
  | line .collecting => .collecting
  | line .noFrame => .noFrame
  | line (.frame _) => .frame
  | line .moreFrames => .moreFrames
  | line .blank => .blank
  | moreThreads => .moreThreads

/-- The stretches of a line. -/
def spans : Row → List Span
  | line (.frame f) =>
    [.own "  File \"".toList, .named f.code.source,
      .own ("\", line ".toList ++ Numeral.decimal f.line.toNat ++ " in ".toList),
      .named f.code.function, .own ['\n']]
  | row => [.own row.written]

end Row

/-- The lines of a text that ends with a newline, each without it. -/
def textLines (text : Text) : List Text := (Text.split '\n' text).dropLast

/-- The kind of a line. A line for a frame is told by what it begins with and a header of a thread
by its form; the other lines are fixed. -/
def Kind.of? (line : Text) : Option Kind :=
  if Line.frameMark.isPrefixOf line then some .frame
  else if line = Row.stack.text ∨ (Line.threadId? true line).isSome ∨
      (Line.threadId? false line).isSome then
    some .header
  else if line = Line.collecting.text then some .collecting
  else if line = Line.moreFrames.text then some .moreFrames
  else if line = Line.noFrame.text then some .noFrame
  else if line = Line.blank.text then some .blank
  else if line = Row.moreThreads.text then some .moreThreads
  else none

/-- A report keeps the names of the frames that it shows in their lines; `bare` is the report
without names. -/
structure Confines (report bare : Pieces) (frames : List Frame) : Prop where
  /-- Every writer gets the front of the report, and the whole of it unless it fails. -/
  front : ∀ w : Writer, ∃ front, front <+: report.text.bytes ∧
    (w.emit report).2.taken = w.taken ++ front ∧
    ((w.emit report).1 = .ok () → front = report.text.bytes)
  /-- All bytes are printable ASCII or newlines. -/
  bytes : ∀ b ∈ report.text.bytes, b = 0x0a ∨ 0x20 ≤ b ∧ b ≤ 0x7e
  /-- The report is the one without names with the names of its frames put in. -/
  spans : ∃ spans : List Span, report.text = spans.flatMap Span.text ∧
    bare.text = spans.flatMap Span.ownText ∧
    spans.filterMap Span.name? = frames.flatMap fun f => [f.code.source, f.code.function]
  /-- The report consists of lines, each with its newline. -/
  ended : report.text = (textLines report.text).flatMap (· ++ ['\n'])
  /-- Each frame has one line, and no other line begins like one of a frame. -/
  frames : (textLines report.text).filter (fun l => Line.frameMark.isPrefixOf l) =
    frames.map fun f => (Line.frame f).text
  /-- Line by line both reports show the same. -/
  kinds : ∃ kinds : List Kind, (textLines report.text).mapM Kind.of? = some kinds ∧
    (textLines bare.text).mapM Kind.of? = some kinds

-- ════════════════════════════════════════════════════════════════════════
-- One line
-- ════════════════════════════════════════════════════════════════════════

theorem isPrefixOf_cons_of_ne {c d : Char} (h : c ≠ d) (mark rest : Text) :
    List.isPrefixOf (c :: mark) (d :: rest) = false := by
  simp [List.isPrefixOf, h]

/-- The frame that a line shows. -/
def Line.frame? : Line → Option Frame
  | frame f => some f
  | _ => none

def Line.rename (f : CodeLocation → CodeLocation) : Line → Line
  | frame shown => frame (shown.rename f)
  | l => l

namespace Row

def frame? : Row → Option Frame
  | line l => l.frame?
  | _ => none

def rename (f : CodeLocation → CodeLocation) : Row → Row
  | line l => line (l.rename f)
  | row => row

/-- The line without names. -/
def bare (row : Row) : Row := row.rename fun _ => ⟨"", ""⟩

theorem printable_of_mem_text {row : Row} {c : Char} (h : c ∈ row.text) : Printable c := by
  cases row with
  | stack => exact printable_of_mem_of_all (by decide) h
  | line l => exact l.printable_of_mem_text h
  | moreThreads => exact printable_of_mem_of_all (by decide) h

theorem newline_not_mem_text (row : Row) : '\n' ∉ row.text := fun h =>
  absurd (printable_of_mem_text h).1 (by decide)

theorem text_line (l : Line) : (line l).text = l.text := rfl

/-- Only a line that shows a frame begins like one. -/
theorem isPrefixOf_text (row : Row) : Line.frameMark.isPrefixOf row.text = row.frame?.isSome := by
  cases row with
  | stack => decide
  | moreThreads => decide
  | line l =>
    cases l with
    | thread id isCurrent =>
      have hmark : Line.frameMark = ' ' :: " File \"".toList := by decide
      have hcurrent : Line.threadMark true = 'C' :: "urrent thread 0x".toList := by decide
      have hother : Line.threadMark false = 'T' :: "hread 0x".toList := by decide
      rw [text_line, Line.text_thread, hmark]
      cases isCurrent with
      | true =>
        rw [hcurrent, List.cons_append]
        exact isPrefixOf_cons_of_ne (by decide) _ _
      | false =>
        rw [hother, List.cons_append]
        exact isPrefixOf_cons_of_ne (by decide) _ _
    | frame f =>
      rw [text_line]
      exact List.isPrefixOf_iff_prefix.mpr (frame_starts f)
    | collecting => decide
    | noFrame => decide
    | moreFrames => decide
    | blank => decide

/-- The characters of a line tell its kind. -/
theorem of?_text (row : Row) : Kind.of? row.text = some row.kind := by
  cases row with
  | stack => decide
  | moreThreads => decide
  | line l =>
    cases l with
    | thread id isCurrent =>
      have hstart : Line.frameMark.isPrefixOf (line (.thread id isCurrent)).text = false :=
        isPrefixOf_text _
      have hid := Line.threadId?_text id isCurrent
      have hheader : (Line.threadId? true (Line.thread id isCurrent).text).isSome ∨
          (Line.threadId? false (Line.thread id isCurrent).text).isSome := by
        cases isCurrent with
        | true => exact .inl (Option.isSome_of_eq_some hid)
        | false => exact .inr (Option.isSome_of_eq_some hid)
      rw [Kind.of?, hstart, if_neg Bool.false_ne_true, if_pos (.inr hheader)]
      rfl
    | frame f =>
      have hstart : Line.frameMark.isPrefixOf (line (.frame f)).text = true := isPrefixOf_text _
      rw [Kind.of?, if_pos hstart, kind]
    | collecting => decide
    | noFrame => decide
    | moreFrames => decide
    | blank => decide

theorem kind_rename (f : CodeLocation → CodeLocation) (row : Row) :
    (row.rename f).kind = row.kind := by
  cases row with
  | line l => cases l <;> rfl
  | _ => rfl

theorem flatMap_text_spans (row : Row) : row.spans.flatMap Span.text = row.written := by
  cases row with
  | stack => rfl
  | moreThreads => rfl
  | line l =>
    cases l with
    | frame f =>
      rw [written, text_line, Line.text_frame]
      simp only [spans, List.flatMap_cons, List.flatMap_nil, Span.text, List.append_assoc,
        List.append_nil]
    | _ => exact List.append_nil _

theorem flatMap_ownText_spans (row : Row) : row.spans.flatMap Span.ownText = row.bare.written := by
  cases row with
  | stack => rfl
  | moreThreads => rfl
  | line l =>
    cases l with
    | frame f =>
      have hempty : (Escape.name "".toList).text = [] := by decide
      have hbare : (line (.frame f)).bare.text = "  File \"".toList ++
          (Escape.name "".toList).text ++ "\", line ".toList ++ Numeral.decimal f.line.toNat ++
          " in ".toList ++ (Escape.name "".toList).text := rfl
      rw [written, hbare, hempty]
      simp only [spans, List.flatMap_cons, List.flatMap_nil, Span.ownText, List.append_assoc,
        List.append_nil, List.nil_append]
    | _ => exact List.append_nil _

theorem filterMap_name?_spans (row : Row) : row.spans.filterMap Span.name? =
    row.frame?.toList.flatMap fun f => [f.code.source, f.code.function] := by
  cases row with
  | line l => cases l <;> rfl
  | _ => rfl

end Row

-- ════════════════════════════════════════════════════════════════════════
-- Lists of lines
-- ════════════════════════════════════════════════════════════════════════

theorem textLines_written (rows : List Row) :
    textLines (rows.flatMap Row.written) = rows.map Row.text := by
  have hplain : ∀ part ∈ rows.map Row.text, '\n' ∉ part := by
    intro part hpart
    obtain ⟨row, -, rfl⟩ := List.mem_map.mp hpart
    exact row.newline_not_mem_text
  have hsplit := Text.split_flatMap_append hplain []
  rw [List.flatMap_map, List.append_nil] at hsplit
  exact (congrArg List.dropLast hsplit).trans List.dropLast_concat

theorem mapM_of?_text (rows : List Row) :
    (rows.map Row.text).mapM Kind.of? = some (rows.map Row.kind) := by
  induction rows with
  | nil => rfl
  | cons row rows ih =>
    rw [List.map_cons, List.mapM_cons, Row.of?_text, ih]
    rfl

theorem filter_frames (rows : List Row) :
    (rows.map Row.text).filter (fun l => Line.frameMark.isPrefixOf l) =
      (rows.filterMap Row.frame?).map fun f => (Line.frame f).text := by
  induction rows with
  | nil => rfl
  | cons row rows ih =>
    have hstart := row.isPrefixOf_text
    rw [List.map_cons]
    cases hframe : row.frame? with
    | none =>
      rw [hframe] at hstart
      rw [List.filter_cons_of_neg (by rw [hstart]; decide), List.filterMap_cons_none hframe, ih]
    | some f =>
      rw [hframe] at hstart
      have htext : row.text = (Line.frame f).text := by
        cases row with
        | line l =>
          cases l with
          | frame shown => rw [Option.some.inj hframe]; rfl
          | _ => cases hframe
        | _ => cases hframe
      rw [List.filter_cons_of_pos hstart, List.filterMap_cons_some hframe, ih, htext]
      rfl

theorem filterMap_spans (rows : List Row) :
    (rows.flatMap Row.spans).filterMap Span.name? =
      (rows.filterMap Row.frame?).flatMap fun f => [f.code.source, f.code.function] := by
  induction rows with
  | nil => rfl
  | cons row rows ih =>
    rw [List.flatMap_cons, List.filterMap_append, ih, row.filterMap_name?_spans]
    cases hframe : row.frame? with
    | none => rw [List.filterMap_cons_none hframe]; rfl
    | some f => rw [List.filterMap_cons_some hframe]; rfl

theorem byte_of_printable {c : Char} (h : Printable c) :
    0x20 ≤ UInt8.ofNat c.toNat ∧ UInt8.ofNat c.toNat ≤ 0x7e := by
  obtain ⟨hlow, hhigh⟩ := h
  have hmod : c.toNat % 256 = c.toNat := Nat.mod_eq_of_lt (by omega)
  rw [UInt8.le_iff_toNat_le, UInt8.le_iff_toNat_le, UInt8.toNat_ofNat']
  exact ⟨by rw [hmod]; exact hlow, by rw [hmod]; exact Nat.le_of_lt_succ hhigh⟩

theorem bytes_written (rows : List Row) :
    ∀ b ∈ Text.bytes (rows.flatMap Row.written), b = 0x0a ∨ 0x20 ≤ b ∧ b ≤ 0x7e := by
  have hchar : ∀ c ∈ rows.flatMap Row.written, Printable c ∨ c = '\n' := by
    intro c hc
    obtain ⟨row, -, hc⟩ := List.mem_flatMap.mp hc
    obtain hc | hc := List.mem_append.mp hc
    · exact .inl (Row.printable_of_mem_text hc)
    · exact .inr (List.mem_singleton.mp hc)
  have hascii : ∀ c ∈ rows.flatMap Row.written, c.toNat < 0x80 := by
    intro c hc
    obtain hprintable | rfl := hchar c hc
    · exact Nat.lt_succ_of_lt hprintable.2
    · decide
  intro b hb
  rw [Text.bytes_of_ascii hascii] at hb
  obtain ⟨c, hc, rfl⟩ := List.mem_map.mp hb
  obtain hprintable | rfl := hchar c hc
  · exact .inr (byte_of_printable hprintable)
  · exact .inl (by decide)

/-- A report that consists of lines keeps names in them, if without names it consists of the same
lines without names. -/
theorem confines_of_rows {report bare : Pieces} {rows : List Row}
    (hreport : report.text = rows.flatMap Row.written)
    (hbare : bare.text = (rows.map Row.bare).flatMap Row.written) :
    Confines report bare (rows.filterMap Row.frame?) where
  front w := w.emit_front report
  bytes := by
    rw [hreport]
    exact bytes_written rows
  spans := by
    refine ⟨rows.flatMap Row.spans, ?_, ?_, filterMap_spans rows⟩
    · rw [hreport, List.flatMap_assoc]
      simp only [Row.flatMap_text_spans]
    · rw [hbare, List.flatMap_assoc, List.flatMap_map]
      simp only [Row.flatMap_ownText_spans]
  ended := by
    rw [hreport, textLines_written, List.flatMap_map]
    rfl
  frames := by rw [hreport, textLines_written, filter_frames]
  kinds := by
    have hkind : (rows.map Row.bare).map Row.kind = rows.map Row.kind := by
      rw [List.map_map]
      exact List.map_congr_left fun row _ => row.kind_rename _
    refine ⟨rows.map Row.kind, ?_, ?_⟩
    · rw [hreport, textLines_written, mapM_of?_text]
    · rw [hbare, textLines_written, mapM_of?_text, hkind]

-- ════════════════════════════════════════════════════════════════════════
-- The lines of a report
-- ════════════════════════════════════════════════════════════════════════

/-- The lines of the report on one thread. -/
def tracebackRows (r : Registry) (handle? : Option ThreadHandle) (collecting : Bool) : List Row :=
  .stack :: ((if collecting then [Line.collecting] else []) ++
    handle?.elim [.noFrame] fun h => Entry.stackLines ⟨r.snapshot h, collecting⟩).map .line

/-- The lines of the report on all threads. -/
def allThreadsRows (r : Registry) (caller : Option ThreadId) (collecting : Bool) : List Row :=
  (linesOf ((shown r caller collecting).take maxThreads)).map .line ++
    if maxThreads < (r.threads caller).length then [.line .blank, .moreThreads] else []

theorem flatMap_written_line (lines : List Line) :
    (lines.map Row.line).flatMap Row.written = lines.flatMap Line.written := by
  rw [List.flatMap_map]
  rfl

theorem text_tracebackRows (r : Registry) (handle? : Option ThreadHandle) (collecting : Bool) :
    (traceback r handle? collecting).text =
      (tracebackRows r handle? collecting).flatMap Row.written := by
  have hstack : Row.written .stack = stackHeader := by decide
  have hcollecting : (if collecting then [Line.collecting] else []).flatMap Line.written =
      Pieces.text (if collecting then [collectingLine] else []) := by
    cases collecting <;> decide
  rw [tracebackRows, List.flatMap_cons, flatMap_written_line, List.flatMap_append, hstack,
    hcollecting]
  unfold traceback
  rw [List.cons_append, Pieces.text_cons, Pieces.text_append]
  cases handle? with
  | none =>
    have hnone : Line.written .noFrame = noFrameLine := by decide
    rw [Option.elim_none, List.flatMap_singleton, hnone, Pieces.text_cons, Pieces.text_nil,
      List.append_nil]
  | some h => rw [Option.elim_some, written_stackLines, text_frames]

theorem text_allThreadsRows (r : Registry) (caller : Option ThreadId) (collecting : Bool) :
    (allThreads r caller collecting).text =
      (allThreadsRows r caller collecting).flatMap Row.written := by
  have hmore : (if maxThreads < (r.threads caller).length then '\n' :: moreThreadsLine else []) =
      (if maxThreads < (r.threads caller).length then [Row.line .blank, .moreThreads]
        else []).flatMap Row.written := by
    split <;> decide
  rw [text_allThreads_cut, allThreadsRows, List.flatMap_append, flatMap_written_line, hmore]

/-! ### Other names -/

variable (f : CodeLocation → CodeLocation)

def Entry.rename (e : Entry) : Entry := { e with snapshot := e.snapshot.rename f }

/-- A line that may be there or not, and has no names. -/
theorem map_rename_optional {c : Prop} [Decidable c] {l : Line} (h : l.rename f = l) :
    (if c then [l] else []).map (Line.rename f) = if c then [l] else [] := by
  split
  · rw [List.map_singleton, h]
  · rfl

theorem stackLines_rename (e : Entry) :
    (e.rename f).stackLines = e.stackLines.map (Line.rename f) := by
  have hframes : (e.rename f).snapshot.frames = e.snapshot.frames.map (Frame.rename f) := rfl
  have htruncated : (e.rename f).snapshot.truncated = e.snapshot.truncated := rfl
  have hnone : e.snapshot.frames.map (Frame.rename f) = [] ↔ e.snapshot.frames = [] :=
    List.map_eq_nil_iff
  unfold Entry.stackLines
  simp only [hframes, htruncated, hnone]
  split
  · rfl
  · rw [List.map_append, map_rename_optional f rfl, List.map_map, List.map_map]
    rfl

theorem lines_rename (e : Entry) : (e.rename f).lines = e.lines.map (Line.rename f) := by
  have hcollecting : (e.rename f).collecting = e.collecting := rfl
  unfold Entry.lines
  rw [stackLines_rename, hcollecting, List.cons_append, List.cons_append, List.map_cons,
    List.map_append, map_rename_optional f rfl]
  rfl

theorem linesOf_rename (entries : List Entry) :
    linesOf (entries.map (Entry.rename f)) = (linesOf entries).map (Line.rename f) := by
  rw [linesOf, linesOf, map_intercalate, List.map_map, List.map_map]
  congr 1
  exact List.map_congr_left fun e _ => lines_rename f e

theorem shown_rename (r : Registry) (caller : Option ThreadId) (collecting : Bool) :
    shown (r.rename f) caller collecting = (shown r caller collecting).map (Entry.rename f) := by
  rw [shown, shown, Registry.threads_rename, List.map_map]
  refine List.map_congr_left fun h _ => ?_
  rw [Registry.snapshot_rename]
  rfl

theorem map_rename_line (lines : List Line) :
    (lines.map Row.line).map (Row.rename f) = (lines.map (Line.rename f)).map Row.line := by
  rw [List.map_map, List.map_map]
  rfl

theorem allThreadsRows_rename (r : Registry) (caller : Option ThreadId) (collecting : Bool) :
    allThreadsRows (r.rename f) caller collecting =
      (allThreadsRows r caller collecting).map (Row.rename f) := by
  have hmore : (if maxThreads < (r.threads caller).length then [Row.line .blank, .moreThreads]
      else []).map (Row.rename f) =
        if maxThreads < (r.threads caller).length then [Row.line .blank, .moreThreads] else [] := by
    split <;> rfl
  rw [allThreadsRows, allThreadsRows, shown_rename, ← List.map_take, linesOf_rename,
    Registry.threads_rename, List.map_append, map_rename_line, hmore]

theorem tracebackRows_rename (r : Registry) (handle? : Option ThreadHandle) (collecting : Bool) :
    tracebackRows (r.rename f) handle? collecting =
      (tracebackRows r handle? collecting).map (Row.rename f) := by
  have hstack : (handle?.elim [Line.noFrame] fun h =>
      Entry.stackLines ⟨(r.rename f).snapshot h, collecting⟩) =
        (handle?.elim [Line.noFrame] fun h =>
          Entry.stackLines ⟨r.snapshot h, collecting⟩).map (Line.rename f) := by
    cases handle? with
    | none => rfl
    | some h =>
      rw [Option.elim_some, Option.elim_some, Registry.snapshot_rename, ← stackLines_rename]
      rfl
  have hrow : Row.rename f .stack = .stack := rfl
  rw [tracebackRows, tracebackRows, List.map_cons, map_rename_line, hstack, hrow,
    List.map_append, List.map_append, List.map_append, map_rename_optional f rfl]

/-! ### The frames shown -/

theorem filterMap_frame?_line (lines : List Line) :
    (lines.map Row.line).filterMap Row.frame? = lines.filterMap Line.frame? := by
  rw [List.filterMap_map]
  rfl

theorem filterMap_optional {c : Prop} [Decidable c] {l : Line} (h : l.frame? = none) :
    (if c then [l] else []).filterMap Line.frame? = [] := by
  split
  · exact List.filterMap_cons_none h
  · rfl

theorem filterMap_stackLines (e : Entry) :
    e.stackLines.filterMap Line.frame? = e.snapshot.frames := by
  unfold Entry.stackLines
  split
  · next hnone =>
    rw [hnone]
    rfl
  · rw [List.filterMap_append, filterMap_optional rfl, List.append_nil, List.filterMap_map]
    exact List.filterMap_some

theorem filterMap_lines (e : Entry) : e.lines.filterMap Line.frame? = e.snapshot.frames := by
  have hthread : Line.frame? (.thread e.snapshot.thread e.snapshot.isCurrent) = none := rfl
  rw [Entry.lines, List.cons_append, List.filterMap_cons_none hthread, List.filterMap_append,
    filterMap_optional rfl, List.nil_append, filterMap_stackLines]

theorem filterMap_linesOf (entries : List Entry) :
    (linesOf entries).filterMap Line.frame? = entries.flatMap (·.snapshot.frames) := by
  unfold linesOf
  induction entries with
  | nil => rfl
  | cons e entries ih =>
    cases entries with
    | nil => simpa using filterMap_lines e
    | cons next entries =>
      rw [List.map_cons, List.map_cons, List.intercalate_cons_cons, List.filterMap_append,
        List.filterMap_append, ← List.map_cons, ih, filterMap_lines, List.flatMap_cons]
      simp [Line.frame?]

theorem frames_allThreadsRows (r : Registry) (caller : Option ThreadId) (collecting : Bool) :
    (allThreadsRows r caller collecting).filterMap Row.frame? =
      ((r.threads caller).take maxThreads).flatMap fun h => (r.snapshot h).frames := by
  have hmore : (if maxThreads < (r.threads caller).length then [Row.line .blank, .moreThreads]
      else []).filterMap Row.frame? = [] := by
    split <;> rfl
  rw [allThreadsRows, List.filterMap_append, hmore, List.append_nil, filterMap_frame?_line,
    filterMap_linesOf, shown, ← List.map_take, List.flatMap_map]

theorem frames_tracebackRows (r : Registry) (handle? : Option ThreadHandle) (collecting : Bool) :
    (tracebackRows r handle? collecting).filterMap Row.frame? =
      handle?.toList.flatMap fun h => (r.snapshot h).frames := by
  have hstack : Row.frame? .stack = none := rfl
  rw [tracebackRows, List.filterMap_cons_none hstack, filterMap_frame?_line, List.filterMap_append,
    filterMap_optional rfl, List.nil_append]
  cases handle? with
  | none => rfl
  | some h =>
    rw [Option.elim_some, filterMap_stackLines, Option.toList_some, List.flatMap_singleton]

/-- Names cannot forge or split lines, whatever they are. A name never ends a line and takes at most
so many bytes. The report on all threads and the report on any one thread consist of the same kinds
of lines, line by line, as if there were no names; their bytes are printable ASCII and newlines, and
each frame has one line. -/
theorem names_confined (r : Registry) (caller : Option ThreadId) (handle? : Option ThreadHandle)
    (collecting : Bool) :
    (∀ name : String, '\n' ∉ (Escape.name name.toList).text ∧
      (Escape.name name.toList).text.bytes.length ≤ 5003) ∧
    Confines (allThreads r caller collecting) (allThreads r.anonymous caller collecting)
      (((r.threads caller).take maxThreads).flatMap fun h => (r.snapshot h).frames) ∧
    Confines (traceback r handle? collecting) (traceback r.anonymous handle? collecting)
      (handle?.toList.flatMap fun h => (r.snapshot h).frames) := by
  refine ⟨fun name => ⟨fun h => ?_, Escape.length_bytes_name_le _⟩, ?_, ?_⟩
  · exact absurd (Escape.printable_of_mem_name h).1 (by decide)
  · rw [← frames_allThreadsRows r caller collecting]
    refine confines_of_rows (text_allThreadsRows r caller collecting) ?_
    rw [text_allThreadsRows, Registry.anonymous, allThreadsRows_rename]
    rfl
  · rw [← frames_tracebackRows r handle? collecting]
    refine confines_of_rows (text_tracebackRows r handle? collecting) ?_
    rw [text_tracebackRows, Registry.anonymous, tracebackRows_rename]
    rfl

/-- A name with a line break and the beginning of a line in it. -/
example :
    textLines (traceback (oneThread.rename fun _ => ⟨"f\n  File \"b.py", "é.py"⟩)
        (oneThread.current? (some 4096)) false).text =
      ["Stack (most recent call first):".toList,
        "  File \"\\xe9.py\", line 3 in f\\x0a  File \"b.py".toList] := by
  decide +kernel

end Report

end CrashTrace
