import CrashTrace.Proofs.Registry.Overrun
import CrashTrace.Proofs.Report.Reading

/-!
# Marks for missing frames

Behind the frames of a thread a report puts a mark if frames are missing, and for a thread of which
it shows no frame it puts another. Which mark there is depends on the frames that are shown, not on
those that are on the stack: a stack whose frames are all lost is marked as having none.

## Main definitions

- `Report.stackText` — the lines that a report shows for the stack of a thread
- `Report.listed` — the number of frames that it shows
- `Recording.live` — the number of frames that a thread has entered and not left

## Main results

- `Report.marks_iff`
-/

namespace CrashTrace

namespace Report

/-- What the line of a frame begins with. -/
def Line.frameMark : Text := "  File \"".toList

/-- The lines that a report shows for the frames of a thread, and the empty part after them. -/
def stackText (r : Registry) (h : ThreadHandle) : List Text :=
  Text.split '\n' (frames r (r.walk h)).text

/-- The lines that show a frame. -/
def frameLines (r : Registry) (h : ThreadHandle) : List Text :=
  (stackText r h).filter fun l => Line.frameMark.isPrefixOf l

/-- The number of frames that a report shows of a thread. -/
def listed (r : Registry) (h : ThreadHandle) : Nat := (frameLines r h).length

end Report

/-- The number of frames that a thread has entered in its present registration and not left. -/
def Recording.live (t : ThreadId) (actions : List (ThreadId × ThreadAction)) : Nat :=
  (ledger t actions).current.length

namespace Report

/-! ### The lines for a stack -/

theorem stackText_eq (r : Registry) (h : ThreadHandle) :
    stackText r h = (Entry.stackLines ⟨r.snapshot h, false⟩).map Line.text ++ [[]] := by
  rw [stackText, text_frames, ← written_stackLines ⟨r.snapshot h, false⟩, split_written]

theorem frame_starts (f : Frame) : Line.frameMark <+: (Line.frame f).text := by
  simp only [Line.text_frame, List.append_assoc]
  exact List.prefix_append _ _

theorem text_frame_ne {f : Frame} {l : Text} (hl : ¬ Line.frameMark <+: l) :
    (Line.frame f).text ≠ l := by
  rintro rfl
  exact hl (frame_starts f)

/-- The lines that show a frame are those of the frames of the snapshot. -/
theorem frameLines_eq (r : Registry) (h : ThreadHandle) :
    frameLines r h = (r.snapshot h).frames.map fun f => (Line.frame f).text := by
  have hall : ((r.snapshot h).frames.map fun f => (Line.frame f).text).filter
      (fun l => Line.frameMark.isPrefixOf l) =
        (r.snapshot h).frames.map fun f => (Line.frame f).text := by
    rw [List.filter_eq_self]
    intro l hl
    obtain ⟨f, -, rfl⟩ := List.mem_map.mp hl
    exact List.isPrefixOf_iff_prefix.mpr (frame_starts f)
  have hmore : Line.frameMark.isPrefixOf Line.moreFrames.text = false := by decide
  have hnone : Line.frameMark.isPrefixOf Line.noFrame.text = false := by decide
  have hend : Line.frameMark.isPrefixOf ([] : Text) = false := by decide
  rw [frameLines, stackText_eq, Entry.stackLines]
  split
  · next hnil =>
    have hnil : (r.snapshot h).frames = [] := hnil
    simp [hnil, hnone, hend]
  · rw [List.map_append, List.map_map, List.filter_append, List.filter_append]
    cases (r.snapshot h).truncated <;> simpa [hend, hmore, Function.comp_def] using hall

/-- The mark for missing frames stands behind a frame only. -/
theorem moreFrames_mem_iff (r : Registry) (h : ThreadHandle) :
    Line.moreFrames.text ∈ stackText r h ↔
      (r.snapshot h).frames ≠ [] ∧ (r.snapshot h).truncated = true := by
  have hframe (f : Frame) : (Line.frame f).text ≠ Line.moreFrames.text := text_frame_ne (by decide)
  have hnone : Line.moreFrames.text ≠ Line.noFrame.text := by decide
  have hend : Line.moreFrames.text ≠ [] := by decide
  rw [stackText_eq, Entry.stackLines]
  split
  · next hnil =>
    have hnil : (r.snapshot h).frames = [] := hnil
    simp [hnil, hnone, hend]
  · next hsome =>
    have hsome : (r.snapshot h).frames ≠ [] := hsome
    cases (r.snapshot h).truncated <;> simp [hsome, hframe, hend]

/-- The mark for a stack without frames stands in place of the frames. -/
theorem noFrame_mem_iff (r : Registry) (h : ThreadHandle) :
    Line.noFrame.text ∈ stackText r h ↔ (r.snapshot h).frames = [] := by
  have hframe (f : Frame) : (Line.frame f).text ≠ Line.noFrame.text := text_frame_ne (by decide)
  have hmore : Line.noFrame.text ≠ Line.moreFrames.text := by decide
  have hend : Line.noFrame.text ≠ [] := by decide
  rw [stackText_eq, Entry.stackLines]
  split
  · next hnil =>
    have hnil : (r.snapshot h).frames = [] := hnil
    simp [hnil]
  · next hsome =>
    have hsome : (r.snapshot h).frames ≠ [] := hsome
    cases (r.snapshot h).truncated <;> simp [hsome, hframe, hend, hmore]

end Report

namespace Recording

/-- The snapshot of a thread has the frames that are not lost, and tells whether any are. -/
theorem snapshot_of_account (actions : List (ThreadId × ThreadAction)) {caller : Option ThreadId}
    {h : ThreadHandle} (hh : h ∈ (initial.run actions).registry.threads caller) :
    ((initial.run actions).registry.snapshot h).frames =
        ((account h.thread actions).frames.drop (account h.thread actions).cut).reverse ∧
      ((initial.run actions).registry.snapshot h).truncated =
        decide (0 < (account h.thread actions).cut) := by
  have hk := kept_account actions
  obtain ⟨ring, hring, hframes, htruncated⟩ :=
    Registry.snapshot_of_owner hk.wellFormed (Registry.mem_threads_iff.mp hh).1
  have hshows := hk.shows h.thread
  rw [hring] at hshows
  rw [hframes, htruncated, Account.frames, Account.cut]
  generalize (account h.thread actions).stack = stack? at hshows
  cases hshows with
  | some hs => exact Cursor.drain_eq hs

/-- With a part of the frames cut off, both marks tell the truth unless everything is cut off. -/
theorem truthful_iff {depth cut : Nat} (h : cut ≤ depth) :
    ((¬ depth - cut = 0 ∧ 0 < cut ↔ depth - cut < depth) ∧ (depth - cut = 0 ↔ depth = 0)) ↔
      ¬ (0 < depth ∧ depth - 1 < cut) := by
  omega

theorem live_eq_depth {actions : List (ThreadId × ThreadAction)} {t : ThreadId}
    (horder : Ledger.initial.InOrder (initial.own t actions))
    (hkept : ∀ a ∈ initial.own t actions, a.forgets = false) :
    (ledger t actions).current.map Ticket.code = (account t actions).frames.map Frame.code ∧
      live t actions = (account t actions).depth := by
  have hcurrent : (ledger t actions).current = (ledger t actions).frames :=
    Ledger.current_eq_frames Ledger.wellKept_initial horder hkept rfl
  have hcodes := (agrees_account t actions).codes
  have hlength := congrArg List.length hcodes
  rw [List.length_map, List.length_map] at hlength
  rw [live, hcurrent]
  exact ⟨hcodes.symm, hlength.symm⟩

end Recording

namespace Report

open Recording

/-- Guards are dropped in reverse order of creation. Then a report lists the innermost live frames of
a thread; it marks missing frames if it lists some of the live frames but not all, and it marks the
stack as having none if it lists none. So its marks tell the truth exactly if the innermost live
frame has not been overwritten: the stack was not, while that frame was on it, deeper by more than
a ring holds than at the frame. -/
theorem marks_iff (actions : List (ThreadId × ThreadAction)) {caller : Option ThreadId}
    {h : ThreadHandle} (hh : h ∈ (initial.run actions).registry.threads caller)
    (horder : Ledger.initial.InOrder (initial.own h.thread actions))
    (hkept : ∀ a ∈ initial.own h.thread actions, a.forgets = false) :
    (∃ frames : List Frame,
      frameLines (initial.run actions).registry h = frames.map (fun f => (Line.frame f).text) ∧
      frames.map Frame.code = ((ledger h.thread actions).current.reverse.take
        (listed (initial.run actions).registry h)).map Ticket.code) ∧
    listed (initial.run actions).registry h ≤ live h.thread actions ∧
    (Line.moreFrames.text ∈ stackText (initial.run actions).registry h ↔
      0 < listed (initial.run actions).registry h ∧
        listed (initial.run actions).registry h < live h.thread actions) ∧
    (Line.noFrame.text ∈ stackText (initial.run actions).registry h ↔
      listed (initial.run actions).registry h = 0) ∧
    ((Line.moreFrames.text ∈ stackText (initial.run actions).registry h ↔
          listed (initial.run actions).registry h < live h.thread actions) ∧
        (Line.noFrame.text ∈ stackText (initial.run actions).registry h ↔
          live h.thread actions = 0) ↔
      ¬ (0 < live h.thread actions ∧
        Account.Overrun (initial.own h.thread actions) (live h.thread actions - 1))) := by
  obtain ⟨hframes, htruncated⟩ := snapshot_of_account actions hh
  obtain ⟨hcodes, hlive⟩ := live_eq_depth horder hkept
  have hfits : (account h.thread actions).Fits := Account.fits_run ⟨le_rfl, Nat.zero_le _⟩ _
  have hoverrun := Account.lt_cut_run_iff (initial.own h.thread actions) (live h.thread actions - 1)
  change _ < (account h.thread actions).cut ↔ _ at hoverrun
  have hlisted : listed (initial.run actions).registry h =
      (account h.thread actions).depth - (account h.thread actions).cut := by
    rw [listed, frameLines_eq, List.length_map, hframes, List.length_reverse, List.length_drop]
    rfl
  have hmore := moreFrames_mem_iff (initial.run actions).registry h
  have hnone := noFrame_mem_iff (initial.run actions).registry h
  have hnil : ((initial.run actions).registry.snapshot h).frames = [] ↔
      listed (initial.run actions).registry h = 0 := by
    rw [listed, frameLines_eq, List.length_map, List.length_eq_zero_iff]
  rw [htruncated, decide_eq_true_iff, ne_eq, hnil] at hmore
  rw [hnil] at hnone
  have hle := hfits.1
  refine ⟨⟨_, frameLines_eq _ h, ?_⟩, ?_, ?_, hnone, ?_⟩
  · have hlength : ((ledger h.thread actions).current.map Ticket.code).length =
        (account h.thread actions).depth := by
      rw [List.length_map, ← hlive, live]
    rw [hframes, List.map_reverse, List.map_drop, ← hcodes, List.reverse_drop, hlength, hlisted,
      List.map_take, List.map_reverse]
  · omega
  · rw [hmore]
    omega
  · rw [← hoverrun, hmore, hnone, hlisted, hlive]
    exact truthful_iff hfits.1

/-- A thread enters some frames and leaves them again, down to a few. -/
def unwound (deep kept : Nat) : List (ThreadId × ThreadAction) :=
  (1, .register) :: List.replicate deep (1, .enter ⟨⟨"f", "a.py"⟩, 0⟩) ++
    ((List.range deep).drop kept).reverse.map fun i => (1, .drop i)

/-- The handle of that thread. -/
def unwoundHandle : ThreadHandle := ⟨⟨0, slots_pos⟩, 1, false⟩

/-- From one frame more than a ring holds down to the outermost frame. -/
theorem hidden_unwound :
    (unwoundHandle ∈ (initial.run (unwound 101 1)).registry.threads none ∧
        Ledger.initial.InOrder (initial.own unwoundHandle.thread (unwound 101 1)) ∧
        ∀ a ∈ initial.own unwoundHandle.thread (unwound 101 1), a.forgets = false) ∧
      Line.noFrame.text ∈ stackText (initial.run (unwound 101 1)).registry unwoundHandle ∧
      live unwoundHandle.thread (unwound 101 1) = 1 := by
  decide +kernel

theorem marks_iff_unwound :
    Line.moreFrames.text ∈ stackText (initial.run (unwound 101 2)).registry unwoundHandle ∧
      Account.Overrun (initial.own unwoundHandle.thread (unwound 101 1)) 0 := by
  have hhandle : unwoundHandle ∈ (initial.run (unwound 101 2)).registry.threads none := by
    decide +kernel
  have htwo := marks_iff (unwound 101 2) hhandle (by decide +kernel) (by decide +kernel)
  refine ⟨htwo.2.2.1.mpr (by decide +kernel), ?_⟩
  obtain ⟨⟨hh, horder, hkept⟩, hnone, hlive⟩ := hidden_unwound
  have hiff := (marks_iff (unwound 101 1) hh horder hkept).2.2.2.2
  rw [hlive] at hiff
  by_contra hoverrun
  exact absurd ((hiff.mpr fun h => hoverrun h.2).2.mp hnone) (by decide)

/-- A live frame can be missing without a mark: of a stack that was unwound from one frame more than
a ring holds to its outermost frame, a report shows that there is no frame. -/
theorem exists_hidden_frame :
    ¬ ∀ (actions : List (ThreadId × ThreadAction)) (caller : Option ThreadId) (h : ThreadHandle),
      h ∈ (initial.run actions).registry.threads caller →
      Ledger.initial.InOrder (initial.own h.thread actions) →
      (∀ a ∈ initial.own h.thread actions, a.forgets = false) →
      (Line.moreFrames.text ∈ stackText (initial.run actions).registry h ↔
          listed (initial.run actions).registry h < live h.thread actions) ∧
        (Line.noFrame.text ∈ stackText (initial.run actions).registry h ↔
          live h.thread actions = 0) := by
  intro hall
  obtain ⟨⟨hh, horder, hkept⟩, hnone, hlive⟩ := hidden_unwound
  have hzero := (hall (unwound 101 1) none unwoundHandle hh horder hkept).2.mp hnone
  rw [hlive] at hzero
  exact absurd hzero (by decide)

end Report

end CrashTrace
