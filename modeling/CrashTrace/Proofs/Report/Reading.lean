import CrashTrace.Proofs.Report.Lines
import CrashTrace.Proofs.Report.Snapshots

/-!
# Reading a report

A report on all threads can be read back. The reader goes through the lines from the last to the
first and keeps what it has met of a thread until it meets the line that announces the thread.

## Main definitions

- `Report.Entry` — what a report shows of one thread
- `Report.shown` — what a report on all threads shows
- `Report.read?` — what the report with a text shows
- `Registry.Legible` — a report on the registry can be read back

## Main results

- `Report.read?_allThreads`

## Design notes

- A stack without frames is marked as such whether or not frames are missing, so a registry is
  legible only if truncated stacks have a frame to show.
-/

namespace CrashTrace

/-- The names of the frames can be read back, and a stack of which frames are missing has a frame
to show. -/
def Snapshot.Legible (s : Snapshot) : Prop :=
  (∀ f ∈ s.frames, f.Legible) ∧ (s.truncated = true → s.frames ≠ [])

instance (s : Snapshot) : Decidable s.Legible := inferInstanceAs (Decidable (_ ∧ _))

/-- The report on the registry shows all threads, and each of them can be read back. -/
def Registry.Legible (r : Registry) (caller : Option ThreadId) : Prop :=
  (r.threads caller).length ≤ Report.maxThreads ∧
    ∀ h ∈ r.threads caller, (r.snapshot h).Legible

instance (r : Registry) (caller : Option ThreadId) : Decidable (r.Legible caller) :=
  inferInstanceAs (Decidable (_ ∧ _))

namespace Report

/-- What a report shows of one thread: its frames, and whether it is marked as collecting. -/
structure Entry where
  snapshot : Snapshot
  collecting : Bool
  deriving DecidableEq

/-- What a report on all threads shows. -/
def shown (r : Registry) (caller : Option ThreadId) (collecting : Bool) : List Entry :=
  (r.threads caller).map fun h => ⟨r.snapshot h, collecting && h.isCurrent⟩

-- ════════════════════════════════════════════════════════════════════════
-- The reader
-- ════════════════════════════════════════════════════════════════════════

/-- What the lines behind the one that announces a thread tell about it. -/
structure Stack where
  collecting : Bool
  frames : List Frame
  truncated : Bool

def Stack.none : Stack := ⟨false, [], false⟩

/-- Takes one more line, in front of those that have been read. -/
def place : Line → Stack × List Entry → Stack × List Entry
  | .thread id isCurrent, (stack, entries) =>
    (.none, ⟨⟨id, isCurrent, stack.frames, stack.truncated⟩, stack.collecting⟩ :: entries)
  | .collecting, (stack, entries) => ({ stack with collecting := true }, entries)
  | .frame f, (stack, entries) => ({ stack with frames := f :: stack.frames }, entries)
  | .moreFrames, (stack, entries) => ({ stack with truncated := true }, entries)
  | .noFrame, read => read
  | .blank, read => read

/-- What the report with a text shows. -/
def read? (text : Text) : Option (List Entry) :=
  ((Text.split '\n' text).mapM Line.read?).map fun lines => (lines.foldr place (.none, [])).2

-- ════════════════════════════════════════════════════════════════════════
-- The lines of an entry
-- ════════════════════════════════════════════════════════════════════════

/-- The lines behind the one that announces a thread. -/
def Entry.stackLines (e : Entry) : List Line :=
  if e.snapshot.frames = [] then [.noFrame]
  else e.snapshot.frames.map .frame ++ if e.snapshot.truncated then [.moreFrames] else []

def Entry.lines (e : Entry) : List Line :=
  .thread e.snapshot.thread e.snapshot.isCurrent
    :: (if e.collecting then [.collecting] else []) ++ e.stackLines

theorem written_frame (f : Frame) : Line.written (.frame f) = f.pieces.text := by
  rw [Line.written, Line.text_frame, Frame.pieces, Numeral.decimalWord_eq, UInt32.toNat_toUInt64]
  simp only [Pieces.text_append, Pieces.text_cons, Pieces.text_nil, List.cons_append,
    List.nil_append, List.append_assoc, List.append_nil]

theorem written_stackLines (e : Entry) : e.stackLines.flatMap Line.written = e.snapshot.lines := by
  unfold Entry.stackLines Snapshot.lines
  split
  · decide
  · have hmore : (if e.snapshot.truncated then [Line.moreFrames] else []).flatMap Line.written =
        if e.snapshot.truncated then moreFramesLine else [] := by
      cases e.snapshot.truncated <;> decide
    rw [List.flatMap_append, hmore, List.flatMap_map, funext written_frame]

theorem written_thread (id : ThreadId) (isCurrent : Bool) : Line.written (.thread id isCurrent) =
    (if isCurrent then "Current thread 0x" else "Thread 0x").toList
      ++ Numeral.hexPadded 16 id.toNat ++ " (most recent call first):\n".toList := by
  have hend : " (most recent call first):\n".toList = Line.threadEnd ++ ['\n'] := by decide
  rw [Line.written, Line.text_thread, Line.threadMark, hend, List.append_assoc]

theorem written_entry {caller : Option ThreadId} {s : Snapshot}
    (hs : s.isCurrent = decide (caller = some s.thread)) (collecting : Bool) :
    (Entry.lines ⟨s, collecting && s.isCurrent⟩).flatMap Line.written =
      block caller collecting s := by
  have hcollecting : (if collecting && s.isCurrent then [Line.collecting] else []).flatMap
      Line.written = if collecting ∧ caller = some s.thread then collectingLine else [] := by
    rw [hs]
    by_cases hcaller : caller = some s.thread
    · cases collecting with
      | true => simpa [hcaller] using (by decide : Line.written .collecting = collectingLine)
      | false => simp
    · simp [hcaller]
  unfold Entry.lines block
  rw [List.cons_append, List.flatMap_cons, List.flatMap_append, written_stackLines, hcollecting,
    written_thread, hs]
  simp only [decide_eq_true_eq, List.append_assoc]

/-- The lines for a list of entries, with a blank one between two of them. -/
def linesOf (entries : List Entry) : List Line := [Line.blank].intercalate (entries.map Entry.lines)

theorem written_intercalate (parts : List (List Line)) :
    ([Line.blank].intercalate parts).flatMap Line.written =
      ['\n'].intercalate (parts.map (·.flatMap Line.written)) := by
  induction parts with
  | nil => rfl
  | cons part parts ih =>
    cases parts with
    | nil => simp
    | cons next parts =>
      rw [List.intercalate_cons_cons, List.flatMap_append, List.flatMap_append, ih]
      simp only [List.map_cons]
      rw [List.intercalate_cons_cons]
      rfl

/-- A report on all threads consists of the lines of its entries, as many as it shows, and a mark if
there are more. -/
theorem text_allThreads_cut (r : Registry) (caller : Option ThreadId) (collecting : Bool) :
    (allThreads r caller collecting).text =
      (linesOf ((shown r caller collecting).take maxThreads)).flatMap Line.written
        ++ if maxThreads < (r.threads caller).length then '\n' :: moreThreadsLine else [] := by
  have hblocks : ((shown r caller collecting).map Entry.lines).map (·.flatMap Line.written) =
      ((r.threads caller).map r.snapshot).map (block caller collecting) := by
    unfold shown
    rw [List.map_map, List.map_map, List.map_map]
    refine List.map_congr_left fun h hh => ?_
    obtain ⟨i, -, hi⟩ := List.mem_filterMap.mp hh
    exact written_entry (isCurrent_of_handleAt? r caller hi) collecting
  have htext : (allThreads r caller collecting).text =
      rendering caller collecting ((r.threads caller).map r.snapshot) :=
    text_threadsFrom_zero r caller collecting (List.finRange Registry.capacity)
  rw [htext, rendering, List.length_map, linesOf, written_intercalate, List.map_take,
    List.map_take, List.map_take, hblocks]

/-- A report on all threads, if all of them are shown, consists of the lines of its entries. -/
theorem text_allThreads {r : Registry} {caller : Option ThreadId}
    (hroom : (r.threads caller).length ≤ maxThreads) (collecting : Bool) :
    (allThreads r caller collecting).text =
      (linesOf (shown r caller collecting)).flatMap Line.written := by
  have hall : (shown r caller collecting).length ≤ maxThreads := by rwa [shown, List.length_map]
  rw [text_allThreads_cut, if_neg (Nat.not_lt.mpr hroom), List.append_nil,
    List.take_of_length_le hall]

-- ════════════════════════════════════════════════════════════════════════
-- Reading back
-- ════════════════════════════════════════════════════════════════════════

theorem foldr_frames (frames : List Frame) (stack : Stack) (entries : List Entry) :
    (frames.map Line.frame).foldr place (stack, entries) =
      ({ stack with frames := frames ++ stack.frames }, entries) := by
  induction frames with
  | nil => rfl
  | cons f frames ih =>
    rw [List.map_cons, List.foldr_cons, ih]
    rfl

theorem foldr_stackLines {e : Entry} (he : e.snapshot.Legible) (entries : List Entry) :
    e.stackLines.foldr place (.none, entries) =
      (⟨false, e.snapshot.frames, e.snapshot.truncated⟩, entries) := by
  unfold Entry.stackLines
  split
  · next hnone =>
    have htruncated : e.snapshot.truncated = false := by
      cases h : e.snapshot.truncated with
      | false => rfl
      | true => exact absurd hnone (he.2 h)
    rw [hnone, htruncated]
    rfl
  · have hmore : (if e.snapshot.truncated then [Line.moreFrames] else []).foldr place
        (.none, entries) = (⟨false, [], e.snapshot.truncated⟩, entries) := by
      cases e.snapshot.truncated <;> rfl
    rw [List.foldr_append, hmore, foldr_frames, List.append_nil]

theorem foldr_entry {e : Entry} (he : e.snapshot.Legible) (entries : List Entry) :
    e.lines.foldr place (.none, entries) = (.none, e :: entries) := by
  unfold Entry.lines
  rw [List.cons_append, List.foldr_cons, List.foldr_append, foldr_stackLines he]
  obtain ⟨s, collecting⟩ := e
  cases collecting <;> rfl

theorem foldr_linesOf {entries : List Entry} (h : ∀ e ∈ entries, e.snapshot.Legible) :
    (linesOf entries).foldr place (.none, []) = (.none, entries) := by
  unfold linesOf
  induction entries with
  | nil => rfl
  | cons e entries ih =>
    obtain ⟨he, hrest⟩ := List.forall_mem_cons.mp h
    cases entries with
    | nil => simpa using foldr_entry he []
    | cons next entries =>
      rw [List.map_cons, List.map_cons, List.intercalate_cons_cons, List.foldr_append,
        List.foldr_append, ← List.map_cons, ih hrest]
      exact foldr_entry he (next :: entries)

theorem legible_of_mem_lines {e : Entry} (he : e.snapshot.Legible) {l : Line} (hl : l ∈ e.lines) :
    l.Legible := by
  cases l with
  | frame f =>
    have hstack : Line.frame f ∈ e.stackLines := by
      cases hcollecting : e.collecting <;> simpa [Entry.lines, hcollecting] using hl
    have hf : f ∈ e.snapshot.frames := by
      unfold Entry.stackLines at hstack
      split at hstack
      · simp at hstack
      · cases htruncated : e.snapshot.truncated <;> simpa [htruncated] using hstack
    exact he.1 f hf
  | _ => trivial

theorem legible_of_mem_linesOf {entries : List Entry} (h : ∀ e ∈ entries, e.snapshot.Legible)
    {l : Line} (hl : l ∈ linesOf entries) : l.Legible := by
  unfold linesOf at hl
  induction entries with
  | nil => cases hl
  | cons e entries ih =>
    obtain ⟨he, hrest⟩ := List.forall_mem_cons.mp h
    cases entries with
    | nil => exact legible_of_mem_lines he (by simpa using hl)
    | cons next entries =>
      rw [List.map_cons, List.map_cons, List.intercalate_cons_cons, List.mem_append,
        List.mem_append, List.mem_singleton, ← List.map_cons] at hl
      obtain (hl | rfl) | hl := hl
      · exact legible_of_mem_lines he hl
      · trivial
      · exact ih hrest hl

theorem read?_lines {lines : List Line} (h : ∀ l ∈ lines, l.Legible) :
    (lines.map Line.text).mapM Line.read? = some lines := by
  induction lines with
  | nil => rfl
  | cons l lines ih =>
    obtain ⟨hl, hrest⟩ := List.forall_mem_cons.mp h
    rw [List.map_cons, List.mapM_cons, Line.read?_text hl, ih hrest]
    rfl

theorem read?_linesOf {entries : List Entry} (h : ∀ e ∈ entries, e.snapshot.Legible) :
    read? ((linesOf entries).flatMap Line.written) = some entries := by
  have hlines : (linesOf entries ++ [Line.blank]).foldr place (.none, []) = (.none, entries) := by
    rw [List.foldr_append]
    exact foldr_linesOf h
  have hlegible : ∀ l ∈ linesOf entries ++ [Line.blank], l.Legible := by
    intro l hl
    obtain hl | hl := List.mem_append.mp hl
    · exact legible_of_mem_linesOf h hl
    · rw [List.mem_singleton.mp hl]
      trivial
  have hsplit : Text.split '\n' ((linesOf entries).flatMap Line.written) =
      (linesOf entries ++ [Line.blank]).map Line.text := by
    rw [split_written, List.map_append]
    rfl
  rw [read?, hsplit, read?_lines hlegible, Option.map_some, hlines]

/-- A report on all threads can be read back: its text tells the threads in the order of their
slots, which of them is the current one, which of them is marked as collecting, and their frames.
So two registries that show different stacks never give the same text. -/
theorem read?_allThreads {r : Registry} {caller : Option ThreadId} (hr : r.Legible caller)
    (collecting : Bool) :
    read? (allThreads r caller collecting).text = some (shown r caller collecting) ∧
      ∀ (r' : Registry) (caller' : Option ThreadId) (collecting' : Bool), r'.Legible caller' →
        shown r' caller' collecting' ≠ shown r caller collecting →
        (allThreads r' caller' collecting').text ≠ (allThreads r caller collecting).text := by
  have hread : ∀ (r : Registry) (caller : Option ThreadId) (collecting : Bool),
      r.Legible caller →
        read? (allThreads r caller collecting).text = some (shown r caller collecting) := by
    intro r caller collecting hr
    rw [text_allThreads hr.1]
    refine read?_linesOf fun e he => ?_
    obtain ⟨h, hh, rfl⟩ := List.mem_map.mp he
    exact hr.2 h hh
  refine ⟨hread r caller collecting hr, ?_⟩
  intro r' caller' collecting' hr' hne htext
  have hread' := hread r' caller' collecting' hr'
  rw [htext, hread r caller collecting hr] at hread'
  exact hne (Option.some.inj hread').symm

/-- A registry whose second thread has another slot and a name with a line break. -/
def twoThreads : Registry :=
  oneThread.putSlot ⟨3, by decide⟩
    ⟨some 8192, some ((Ring.empty.push ⟨⟨"main", "b.py"⟩, 1⟩).push ⟨⟨"µ\n", "b.py"⟩, 70⟩)⟩

theorem read?_allThreads_two :
    read? (allThreads twoThreads (some 8192) true).text =
        some [⟨⟨4096, false, [⟨⟨"main", "a.py"⟩, 3⟩], false⟩, false⟩,
          ⟨⟨8192, true, [⟨⟨"µ\n", "b.py"⟩, 70⟩, ⟨⟨"main", "b.py"⟩, 1⟩], false⟩, true⟩] ∧
      (allThreads oneThread (some 8192) true).text ≠ (allThreads twoThreads (some 8192) true).text := by
  have htwo : twoThreads.Legible (some 8192) := by decide +kernel
  have hone : oneThread.Legible (some 8192) := by decide +kernel
  have hread := read?_allThreads htwo true
  exact ⟨hread.1.trans (by decide +kernel), hread.2 oneThread (some 8192) true hone (by decide +kernel)⟩

end Report

end CrashTrace
