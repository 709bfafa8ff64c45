import CrashTrace.Proofs.Stack.History

/-!
# Torn frames

A walk may be paused at a deep frame while the owner of the ring unwinds far below it. The cell of
the deep frame is then also the cell of the innermost frame, a full round further out, and setting
a line there changes the line that the walk will see. Frames that a walk gives are whole as long
as no line is set in this way, and only then.

## Main definitions

- `Ring.had_of_next?` — a walk gives a frame that there has been, if no line was set astray
- `Ring.next?_of_setAstray` — after a line was set astray some walk gives the altered frame
- `Ring.whole_iff` — when all walks over a history give frames that there have been
-/

namespace CrashTrace.Ring

variable {past : History}

/-- Every line set astray is one that the frame in the cell has had. -/
def Harmless (past : History) : Prop :=
  ∀ earlier line cell, SetAstray past earlier line cell →
    Had (.setLine line :: earlier) { cell.frame with line := line }

theorem Harmless.of_suffix {earlier : History} (h : Harmless past) (hp : earlier <:+ past) :
    Harmless earlier :=
  fun start line cell hset => h start line cell ⟨hset.1.trans hp, hset.2⟩

/-- The cells of a ring hold frames that there have been, if no line was set astray. -/
theorem had_of_cell (hok : Harmless past) {i : Nat} {cell : Cell}
    (h : (after past).cellFor i = some cell) : Had past cell.frame := by
  -- The history decides what a cell holds, so the induction is on the history.
  induction past generalizing i cell with
  | nil => simp [after, cellFor, empty, Vector.get] at h
  | cons op past ih =>
    have hsuffix := List.suffix_cons op past
    have kept : (after past).cellFor i = some cell → Had (op :: past) cell.frame :=
      fun hcell => (ih (hok.of_suffix hsuffix) hcell).mono hsuffix
    cases op with
    | push f =>
      rw [after, apply, cellFor_push] at h
      split at h
      · obtain rfl := Option.some.inj h
        exact ⟨f, past, List.suffix_refl _, rfl, .inl rfl⟩
      · exact kept h
    | pop => exact kept h
    | setLine line =>
      rw [after, apply, cellFor_setLine] at h
      split at h
      case isTrue hcell =>
        obtain ⟨hd, hmod⟩ := hcell
        obtain ⟨old, hold, rfl⟩ := Option.map_eq_some_iff.mp h
        have hinner : (after past).cellFor ((after past).depth - 1) = some old := by
          simpa only [cellFor, hmod] using hold
        by_cases hindex : old.index + 1 = (after past).depth
        · obtain ⟨n, hlast, g, start, hpush, rfl, hcode⟩ := enteredAt_of_innermost hinner hindex
          exact ⟨g, start, hpush.trans hsuffix, hcode,
            .inr ⟨past, List.suffix_refl _, hlast⟩⟩
        · exact hok past line old ⟨List.suffix_refl _, hd, hinner, hindex⟩
      case isFalse => exact kept h
    | reset => exact kept h

/-- A request that finds a frame finds it in a cell. -/
theorem cell_of_next? {r : Ring} {c : Cursor} {f : Frame} (h : (c.next? r).1 = some f) :
    ∃ cell, r.cellFor (c.next - 1) = some cell ∧ cell.index = c.next - 1 ∧ cell.frame = f := by
  rw [Cursor.next?] at h
  split at h
  · cases h
  · split at h
    case h_1 cell hcell =>
      split at h
      case isTrue hindex => exact ⟨cell, hcell, hindex, Option.some.inj h⟩
      case isFalse => cases h
    case h_2 => cases h

/-- A walk gives a frame that there has been, if no line was set astray. -/
theorem had_of_next? (hok : Harmless past) {c : Cursor} {f : Frame}
    (h : (c.next? (after past)).1 = some f) : Had past f := by
  obtain ⟨cell, hcell, _, rfl⟩ := cell_of_next? h
  exact had_of_cell hok hcell

/-! ### Walks that meet an altered frame -/

theorem Walks.of_suffix {earlier : History} {c : Cursor} (h : Walks earlier c)
    (hp : earlier <:+ past) : Walks past c := by
  obtain ⟨ops, rfl⟩ := hp
  induction ops with
  | nil => exact h
  | cons op ops ih => exact ih.own op

/-- At any time after a frame was entered a walk may stand right before its depth. -/
theorem exists_walk_of_cell {i : Nat} {cell : Cell} (h : (after past).cellFor i = some cell) :
    Walks past ⟨cell.index + 1, cell.index + 1 - capacity, false⟩ := by
  obtain ⟨f, earlier, hpush, hdepth, _⟩ := entered_of_cell h
  have hstart := (Walks.start (.push f :: earlier)).of_suffix hpush
  rwa [Ring.cursor, after, apply, depth_push, hdepth] at hstart

/-- After a line was set astray some walk gives the frame in the cell with that line. -/
theorem next?_of_setAstray {earlier : History} {line : UInt32} {cell : Cell}
    (h : SetAstray past earlier line cell) :
    ∃ c, Walks (.setLine line :: earlier) c ∧
      (c.next? (after (.setLine line :: earlier))).1 = some { cell.frame with line := line } := by
  obtain ⟨_, hd, hcell, _⟩ := h
  refine ⟨_, (exists_walk_of_cell hcell).own _, ?_⟩
  have hmod : ((after earlier).depth - 1) % capacity = cell.index % capacity :=
    (index_mod_of_cell hcell).symm
  have hsame : (after earlier).cellFor cell.index = some cell := by
    simpa only [cellFor, hmod] using hcell
  have hb : ¬ cell.index + 1 ≤ cell.index + 1 - capacity := by
    rw [capacity_eq]
    omega
  simp [Cursor.next?, hb, after, apply, cellFor_setLine, hd, hmod, hsame]

/-- All walks over a history give frames that there have been exactly if every line set astray is
one that the frame in the cell has had. -/
theorem whole_iff (past : History) :
    (∀ now c f, now <:+ past → Walks now c → (c.next? (after now)).1 = some f → Had now f) ↔
      Harmless past := by
  constructor
  · intro hwhole earlier line cell hset
    obtain ⟨c, hwalk, hnext⟩ := next?_of_setAstray hset
    exact hwhole _ c _ hset.1 hwalk hnext
  · intro hok now c f hnow _ hnext
    exact had_of_next? (hok.of_suffix hnow) hnext

/-! ### A torn frame -/

/-- The function of an outer frame. -/
def outerCode : CodeLocation := ⟨"outer", "a.py"⟩

/-- The function of the frames on top of it. -/
def innerCode : CodeLocation := ⟨"inner", "a.py"⟩

/-- A stack one frame deeper than a ring. -/
def descent : History := List.replicate 100 (.push ⟨innerCode, 0⟩) ++ [.push ⟨outerCode, 0⟩]

/-- All inner frames are left again, and then a line is set in the outer frame. -/
def unwinding : History := .setLine 9 :: (List.replicate 100 .pop ++ descent)

/-- After the unwinding no inner frame has ever had the line that was set. -/
theorem not_had_unwinding : ¬ Had unwinding ⟨innerCode, 9⟩ := by
  rintro ⟨g, earlier, hpush, hcode, hline | ⟨later, hset, htop⟩⟩
  · have hmem : Op.push g ∈ unwinding := hpush.subset List.mem_cons_self
    have hzero : g.line = 0 := by
      simp only [unwinding, descent, List.mem_cons, List.mem_append, List.mem_replicate,
        List.not_mem_nil, or_false, reduceCtorEq, and_false, false_or, Op.push.injEq] at hmem
      rcases hmem with ⟨_, rfl⟩ | rfl <;> rfl
    rw [hzero] at hline
    exact absurd hline (by decide)
  · rw [unwinding, List.suffix_cons_iff] at hset
    rcases hset with heq | hin
    · -- The line was set in the outer frame, and that is the oldest entry.
      rw [(List.cons.inj heq).2] at htop
      have hentries : entries (List.replicate 100 .pop ++ descent) = [0] := by decide +kernel
      rw [hentries] at htop
      have hnil : earlier = [] := List.eq_nil_of_length_eq_zero (Option.some.inj htop).symm
      subst hnil
      obtain ⟨front, hfront⟩ := hpush
      have hlast : unwinding.getLast? = some (.push g) := by
        rw [← hfront, List.getLast?_concat]
      have hout : unwinding.getLast? = some (.push ⟨outerCode, 0⟩) := by decide +kernel
      rw [hout] at hlast
      rw [← Op.push.inj (Option.some.inj hlast)] at hcode
      exact absurd hcode (by decide)
    · exact absurd (hin.subset List.mem_cons_self) (by decide +kernel)

/-- A walk can give a frame that there never was: a walk that stands at the innermost frame of the
descent sees the line that was set in the outer frame after the unwinding. -/
theorem exists_torn_frame : ¬ ∀ past c f, Walks past c → (c.next? (after past)).1 = some f →
    Had past f := by
  intro hall
  have hwalk : Walks unwinding (after descent).cursor :=
    (Walks.start descent).of_suffix (List.suffix_append (Op.setLine 9 :: List.replicate 100 .pop) _)
  exact not_had_unwinding (hall _ _ ⟨innerCode, 9⟩ hwalk (by decide +kernel))

end CrashTrace.Ring
