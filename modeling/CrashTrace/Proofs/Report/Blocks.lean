import CrashTrace.Proofs.Report.Reading

/-!
# Blocks of a report

A report on all threads consists of blocks between blank lines, one for each thread in the order of
their slots. A report shows only so many threads. Which of them are shown does not depend on which
thread asks, so the asking thread is shown exactly if not too many threads are in slots before its
own.

## Main definitions

- `Report.blocks` — the lines of a text between the blank ones
- `Report.headedCurrent` — a block that announces the current thread
- `Registry.ahead` — the number of threads in slots before a slot
- `Report.Announces` — a text announces the current thread if there is room for it

## Main results

- `Report.blocks_allThreads` — the blocks of a report
- `Report.announces_allThreads`
-/

namespace CrashTrace

open Registry (SlotIndex)

/-- The number of threads in slots before a slot. -/
def Registry.ahead (r : Registry) (i : SlotIndex) : Nat :=
  (List.finRange Registry.capacity).countP fun j => decide (j < i) && (r.slot j).owner.isSome

namespace Report

/-- The lines of a text between the blank ones. -/
def blocks (text : Text) : List (List Text) := (Text.split '\n' text).splitOn []

/-- The first line of the block announces the current thread. -/
def headedCurrent (block : List Text) : Bool :=
  block.head?.any fun l => (Line.threadMark true).isPrefixOf l

/-- The block that stands for the threads beyond the limit. -/
def moreThreadsBlock : List Text := ["...".toList]

/-- The lines of an entry as they stand in a report. -/
def Entry.text (e : Entry) : List Text := e.lines.map Line.text

/-- The block of the current thread: the line that announces it, the line for collecting garbage if
it does so, and the lines for its frames. -/
def currentBlock (r : Registry) (t : ThreadId) (i : SlotIndex) (collecting : Bool) : List Text :=
  (Line.thread t true :: (if collecting then [Line.collecting] else []) ++
    Entry.stackLines ⟨r.snapshot ⟨i, t, true⟩, collecting⟩).map Line.text

/-- The text has one block that announces a current thread, that of the thread `t` in slot `i`, if
fewer threads are in slots before that one than a report shows. Otherwise it has none, and ends with
the mark for more threads. -/
structure Announces (r : Registry) (t : ThreadId) (i : SlotIndex) (collecting : Bool) (text : Text) :
    Prop where
  current : (blocks text).filter headedCurrent =
    if r.ahead i < maxThreads then [currentBlock r t i collecting] else []
  marked : maxThreads ≤ r.ahead i → [moreThreadsBlock, []] <:+ blocks text

-- ════════════════════════════════════════════════════════════════════════
-- Blocks and lines
-- ════════════════════════════════════════════════════════════════════════

theorem intercalate_append {α : Type} (sep : List α) {parts more : List (List α)}
    (hparts : parts ≠ []) (hmore : more ≠ []) :
    sep.intercalate (parts ++ more) = sep.intercalate parts ++ sep ++ sep.intercalate more := by
  induction parts with
  | nil => exact absurd rfl hparts
  | cons part parts ih =>
    cases parts with
    | nil =>
      rw [List.singleton_append, List.intercalate_cons_of_ne_nil hmore, List.intercalate_singleton]
    | cons next parts =>
      have hrest := ih (List.cons_ne_nil next parts)
      rw [List.cons_append, List.intercalate_cons_of_ne_nil (by simp), hrest,
        List.intercalate_cons_cons]
      simp only [List.append_assoc]

theorem map_intercalate {α β : Type} (f : α → β) (sep : List α) (parts : List (List α)) :
    (sep.intercalate parts).map f = (sep.map f).intercalate (parts.map (List.map f)) := by
  induction parts with
  | nil => rfl
  | cons part parts ih =>
    cases parts with
    | nil => simp
    | cons next parts =>
      rw [List.intercalate_cons_cons, List.map_append, List.map_append, ih, List.map_cons,
        List.map_cons, List.map_cons, List.intercalate_cons_cons]

/-- No line but the blank one is empty. -/
theorem text_ne_nil {l : Line} (h : l ≠ .blank) : l.text ≠ [] := by
  cases l with
  | thread id isCurrent =>
    have hend : Line.threadEnd ≠ [] := by decide
    rw [Line.text_thread]
    exact List.append_ne_nil_of_right_ne_nil _ hend
  | frame f =>
    have hmid : " in ".toList ≠ [] := by decide
    rw [Line.text_frame]
    exact List.append_ne_nil_of_left_ne_nil (List.append_ne_nil_of_right_ne_nil _ hmid) _
  | collecting => decide
  | noFrame => decide
  | moreFrames => decide
  | blank => exact absurd rfl h

theorem blank_not_mem_stackLines (e : Entry) : Line.blank ∉ e.stackLines := by
  unfold Entry.stackLines
  split
  · simp
  · cases e.snapshot.truncated <;> simp

/-- No line of an entry is empty. -/
theorem nil_not_mem_text (e : Entry) : [] ∉ e.text := by
  intro h
  obtain ⟨l, hl, hnil⟩ := List.mem_map.mp h
  refine text_ne_nil ?_ hnil
  rintro rfl
  obtain hl | hl := List.mem_append.mp hl
  · cases hcollecting : e.collecting <;> simp [hcollecting] at hl
  · exact blank_not_mem_stackLines e hl

/-- The blocks of a report are its entries, as many as it shows, then the mark for more threads if
there are more, and then the empty block after the end of the last line. -/
theorem blocks_allThreads (r : Registry) (caller : Option ThreadId) (collecting : Bool)
    (hsome : r.threads caller ≠ []) :
    blocks (allThreads r caller collecting).text =
      ((shown r caller collecting).take maxThreads).map Entry.text
        ++ ((if maxThreads < (r.threads caller).length then [moreThreadsBlock] else []) ++ [[]]) := by
  have hentries : ((shown r caller collecting).take maxThreads).map Entry.text ≠ [] := by
    simpa [shown, maxThreads] using hsome
  set entries := (shown r caller collecting).take maxThreads
  set closing := (if maxThreads < (r.threads caller).length then [moreThreadsBlock] else []) ++ [[]]
    with hclosing
  have hlines : (linesOf entries).map Line.text = [[]].intercalate (entries.map Entry.text) := by
    rw [linesOf, map_intercalate, List.map_map]
    rfl
  -- What comes after the entries is made of blocks too, so all of them are split at blank lines.
  have hrest : Text.split '\n' (if maxThreads < (r.threads caller).length then
      '\n' :: moreThreadsLine else []) = [[]] ++ [[]].intercalate closing := by
    rw [hclosing]
    split
    · decide
    · decide
  have hplain : ∀ part ∈ entries.map Entry.text ++ closing, [] ∉ part := by
    intro part hpart
    obtain hentry | hclose := List.mem_append.mp hpart
    · obtain ⟨e, -, rfl⟩ := List.mem_map.mp hentry
      exact nil_not_mem_text e
    · have hmark : [] ∉ moreThreadsBlock := by decide
      rw [hclosing] at hclose
      split at hclose
      · obtain rfl | rfl : part = moreThreadsBlock ∨ part = [] := by simpa using hclose
        · exact hmark
        · exact List.not_mem_nil
      · obtain rfl : part = [] := by simpa using hclose
        exact List.not_mem_nil
  rw [blocks, text_allThreads_cut, split_written_append, hlines, hrest, ← List.append_assoc,
    ← intercalate_append [[]] hentries (by simp [hclosing]),
    List.splitOn_intercalate [] hplain (by simp [hclosing])]

-- ════════════════════════════════════════════════════════════════════════
-- The current thread
-- ════════════════════════════════════════════════════════════════════════

theorem headedCurrent_text (e : Entry) : headedCurrent e.text = e.snapshot.isCurrent := by
  have hhead : headedCurrent e.text =
      (Line.threadMark true).isPrefixOf (Line.thread e.snapshot.thread e.snapshot.isCurrent).text :=
    rfl
  rw [hhead, Line.text_thread, List.append_assoc]
  cases e.snapshot.isCurrent with
  | true => exact List.isPrefixOf_iff_prefix.mpr (List.prefix_append _ _)
  | false =>
    have hcurrent : Line.threadMark true = 'C' :: "urrent thread 0x".toList := by decide
    have hother : Line.threadMark false = 'T' :: "hread 0x".toList := by decide
    rw [hcurrent, hother, List.cons_append]
    simp [List.isPrefixOf]

/-- Only the slot of the asking thread gives a handle of the current thread. -/
theorem isCurrent_of_ne {r : Registry} (hr : r.WellFormed) {t : ThreadId} {i j : SlotIndex}
    (ht : r.home t = some i) (hne : j ≠ i) {h : ThreadHandle}
    (hj : r.handleAt? (some t) j = some h) : h.isCurrent = false := by
  obtain ⟨u, howner, rfl⟩ := Option.map_eq_some_iff.mp hj
  refine decide_eq_false fun heq => hne ?_
  obtain rfl := Option.some.inj heq
  have hhome := (hr.home_eq_iff t j).mpr howner
  exact Option.some.inj (hhome.symm.trans ht)

/-- The handles before that of the asking thread are as many as there are threads in slots before
its own. -/
theorem threads_split {r : Registry} (hr : r.WellFormed) {t : ThreadId} {i : SlotIndex}
    (ht : r.home t = some i) : ∃ before after : List ThreadHandle,
      r.threads (some t) = before ++ ⟨i, t, true⟩ :: after ∧ before.length = r.ahead i ∧
      ∀ h, h ∈ before ∨ h ∈ after → h.isCurrent = false := by
  have hsorted := List.pairwise_lt_finRange Registry.capacity
  obtain ⟨lower, upper, hsplit⟩ := List.append_of_mem (List.mem_finRange i)
  rw [hsplit, List.pairwise_append, List.pairwise_cons] at hsorted
  obtain ⟨-, ⟨hupper, -⟩, hlower⟩ := hsorted
  have hlower : ∀ j ∈ lower, j < i := fun j hj => hlower j hj i List.mem_cons_self
  have hself : r.handleAt? (some t) i = some ⟨i, t, true⟩ := by
    simp [Registry.handleAt?, (hr.home_eq_iff t i).mp ht]
  refine ⟨lower.filterMap (r.handleAt? (some t)), upper.filterMap (r.handleAt? (some t)),
    ?_, ?_, ?_⟩
  · rw [Registry.threads, hsplit, List.filterMap_append, List.filterMap_cons_some hself]
  · rw [List.length_filterMap_eq_countP, Registry.ahead, hsplit, List.countP_append,
      List.countP_cons]
    have hnone : upper.countP (fun j => decide (j < i) && (r.slot j).owner.isSome) = 0 := by
      rw [List.countP_eq_zero]
      intro j hj hlt
      exact Fin.lt_asymm (of_decide_eq_true (Bool.and_eq_true_iff.mp hlt).1) (hupper j hj)
    rw [hnone, decide_eq_false (Fin.lt_irrefl i), Bool.false_and]
    refine (List.countP_congr fun j hj => ?_).trans (Nat.add_zero _).symm
    simp [Registry.handleAt?, hlower j hj]
  · rintro h (hh | hh)
    · obtain ⟨j, hj, hhandle⟩ := List.mem_filterMap.mp hh
      exact isCurrent_of_ne hr ht (Fin.ne_of_lt (hlower j hj)) hhandle
    · obtain ⟨j, hj, hhandle⟩ := List.mem_filterMap.mp hh
      exact isCurrent_of_ne hr ht (Fin.ne_of_gt (hupper j hj)) hhandle

/-- Among the first threads is the asking one exactly if fewer are in slots before its own. -/
theorem filter_take_threads {r : Registry} (hr : r.WellFormed) {t : ThreadId} {i : SlotIndex}
    (ht : r.home t = some i) (n : Nat) :
    ((r.threads (some t)).take n).filter (·.isCurrent) =
      if r.ahead i < n then [⟨i, t, true⟩] else [] := by
  obtain ⟨before, after, hsplit, hlength, hothers⟩ := threads_split hr ht
  have hnone : ∀ {part : List ThreadHandle} (k : Nat),
      (∀ h ∈ part, h ∈ before ∨ h ∈ after) → (part.take k).filter (·.isCurrent) = [] := by
    intro part k hpart
    rw [List.filter_eq_nil_iff]
    intro h hh
    rw [hothers h (hpart h (List.mem_of_mem_take hh))]
    decide
  rw [hsplit, List.take_append, List.filter_append, hnone n fun h hh => .inl hh, List.nil_append,
    hlength]
  split
  · next hlt =>
    obtain ⟨k, hk⟩ : ∃ k, n - r.ahead i = k + 1 := ⟨n - r.ahead i - 1, by omega⟩
    rw [hk, List.take_succ_cons, List.filter_cons_of_pos rfl, hnone k fun h hh => .inr hh]
  · next hle =>
    rw [Nat.sub_eq_zero_of_le (Nat.le_of_not_lt hle)]
    rfl

/-- A report that a registered thread asks for announces that thread once if fewer threads are in
slots before its own than a report shows, and otherwise not at all. -/
theorem announces_allThreads {r : Registry} (hr : r.WellFormed) {t : ThreadId} {i : SlotIndex}
    (ht : r.home t = some i) (collecting : Bool) :
    Announces r t i collecting (allThreads r (some t) collecting).text := by
  obtain ⟨before, after, hsplit, hlength, -⟩ := threads_split hr ht
  have hsome : r.threads (some t) ≠ [] := by simp [hsplit]
  constructor
  · have hclosing : ((if maxThreads < (r.threads (some t)).length then [moreThreadsBlock] else []) ++
        [[]]).filter headedCurrent = [] := by
      split <;> decide
    have hcurrent : (headedCurrent ∘ Entry.text) ∘
        (fun h : ThreadHandle => (⟨r.snapshot h, collecting && h.isCurrent⟩ : Entry)) =
          ThreadHandle.isCurrent := by
      funext h
      exact headedCurrent_text _
    rw [blocks_allThreads r (some t) collecting hsome, List.filter_append, hclosing,
      List.append_nil, List.filter_map, shown, ← List.map_take, List.filter_map, hcurrent,
      filter_take_threads hr ht maxThreads]
    split
    · rw [List.map_singleton, List.map_singleton, Bool.and_true]
      rfl
    · rfl
  · intro hbehind
    have hmore : maxThreads < (r.threads (some t)).length := by
      rw [hsplit, List.length_append, List.length_cons]
      omega
    rw [blocks_allThreads r (some t) collecting hsome, if_pos hmore]
    exact List.suffix_append _ _

end Report

end CrashTrace
