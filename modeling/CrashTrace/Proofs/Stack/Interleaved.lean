import CrashTrace.Proofs.Stack.History

/-!
# A walk among the actions of the owner

Between two requests to a walk the owner of the ring may do anything: enter and leave frames any
number of times, set lines, give the ring away and get it back. The walk still ends after as many
frames as a ring holds, and each of its frames is of the last code that was entered at the depth at
which the walk stands, whenever that was.

## Main definitions

- `Ring.Turn`, `Ring.Course` — what happens, and a walk in the middle of it
- `Ring.Course.answers` — the answers to all requests that are made
- `Ring.lastEntered?` — the last frame that was entered at a depth

## Main results

- `Ring.lastEntered?_of_cell` — a cell holds the last frame that was entered at its depth
- `Cursor.Standing.ask` — what one request does
- `Ring.walk_interleaved`
-/

namespace CrashTrace

namespace Cursor

variable {d n : Nat} {c : Cursor} {r : Ring}

/-- A walk that began at depth `d` and has given `n` frames. As long as it has not met the cell of
another frame it stands as many frames further out. -/
structure Standing (d n : Nat) (c : Cursor) : Prop where
  bottom_eq : c.bottom = d - Ring.capacity
  bottom_le : c.bottom ≤ c.next
  given_le : n + c.bottom ≤ d
  next_add : c.lost = false → c.next + n = d
  next_eq : c.lost = true → c.next = c.bottom

/-- A walk that gives no more frames. -/
def Halted (c : Cursor) : Prop := c.next ≤ c.bottom

theorem standing_cursor (r : Ring) : Standing r.depth 0 r.cursor where
  bottom_eq := rfl
  bottom_le := Nat.sub_le _ _
  given_le := by
    rw [Nat.zero_add]
    exact Nat.sub_le _ _
  next_add _ := rfl
  next_eq hlost := by cases hlost

/-- A halted walk is left as it is by every request. -/
theorem Halted.next? (h : c.Halted) (r : Ring) : c.next? r = (none, c) := if_pos h

theorem Standing.stop (h : Standing d n c) : Standing d n c.stop where
  bottom_eq := h.bottom_eq
  bottom_le := Nat.le_refl _
  given_le := h.given_le
  next_add hlost := by cases hlost
  next_eq _ := rfl

/-- The walk goes one frame further out. -/
theorem Standing.further (h : Standing d n c) (hlost : c.lost = false) (hmore : c.bottom < c.next) :
    Standing d (n + 1) { c with next := c.next - 1 } where
  bottom_eq := h.bottom_eq
  bottom_le := Nat.le_sub_one_of_lt hmore
  given_le := by
    have hadd := h.next_add hlost
    change n + 1 + c.bottom ≤ d
    omega
  next_add _ := by
    have hadd := h.next_add hlost
    change c.next - 1 + (n + 1) = d
    omega
  next_eq htrue := absurd (hlost.symm.trans htrue) (by decide)

/-- A request is answered with the frame of the cell that belongs to the next depth further out, or
it halts the walk. -/
theorem Standing.ask (h : Standing d n c) (r : Ring) :
    (∃ cell, r.cellFor (c.next - 1) = some cell ∧ cell.index = c.next - 1 ∧
      0 < c.next ∧ c.next + n = d ∧
      (c.next? r).1 = some cell.frame ∧ Standing d (n + 1) (c.next? r).2) ∨
    ((c.next? r).1 = none ∧ Standing d n (c.next? r).2 ∧ (c.next? r).2.Halted) := by
  by_cases hbottom : c.next ≤ c.bottom
  · rw [Halted.next? hbottom]
    exact .inr ⟨rfl, h, hbottom⟩
  · have hlost : c.lost = false := by
      by_contra htrue
      exact hbottom (Nat.le_of_eq (h.next_eq (Bool.eq_true_of_not_eq_false htrue)))
    have hmore : c.bottom < c.next := Nat.lt_of_not_le hbottom
    rw [Cursor.next?, if_neg hbottom]
    cases hcell : r.cellFor (c.next - 1) with
    | none => exact .inr ⟨rfl, h.stop, Nat.le_refl _⟩
    | some cell =>
      dsimp only
      by_cases hindex : cell.index = c.next - 1
      · rw [if_pos hindex]
        exact .inl ⟨cell, rfl, hindex, Nat.zero_lt_of_lt hmore, h.next_add hlost, rfl,
          h.further hlost hmore⟩
      · rw [if_neg hindex]
        exact .inr ⟨rfl, h.stop, Nat.le_refl _⟩

end Cursor

namespace Ring

/-- What may happen while a walk over a ring is going on: the owner does something, or the walk is
asked for a frame. -/
inductive Turn where
  | own (op : Op)
  | ask
  deriving DecidableEq

/-- A walk in the middle of what happens: the history of its ring up to now, and where it stands. -/
structure Course where
  past : History
  cursor : Cursor

namespace Course

/-- The walk begins. -/
def start (past : History) : Course := ⟨past, (after past).cursor⟩

/-- The answer that the walk would give now. -/
def answer (m : Course) : Option Frame := (m.cursor.next? (after m.past)).1

def turn (m : Course) : Turn → Course
  | .own op => { m with past := op :: m.past }
  | .ask => { m with cursor := (m.cursor.next? (after m.past)).2 }

def run (m : Course) (turns : List Turn) : Course := turns.foldl turn m

/-- The answers to all requests that are made, in order. -/
def answers (m : Course) : List Turn → List (Option Frame)
  | [] => []
  | .own op :: turns => (m.turn (.own op)).answers turns
  | .ask :: turns => m.answer :: (m.turn .ask).answers turns

/-- The frames that are given, in order. -/
def given (m : Course) (turns : List Turn) : List Frame := (m.answers turns).reduceOption

end Course

/-- The last frame that was entered at a depth. -/
def lastEntered? : History → Nat → Option Frame
  | [], _ => none
  | .push f :: past, i => if (after past).depth = i then some f else lastEntered? past i
  | _ :: past, i => lastEntered? past i

variable {past : History} {d n : Nat} {m : Course}

/-- A cell holds the code of the last frame that was entered at the depth in the cell. -/
theorem lastEntered?_of_cell {i : Nat} {cell : Cell} (h : (after past).cellFor i = some cell) :
    (lastEntered? past cell.index).map (·.code) = some cell.frame.code := by
  -- The history decides what a cell holds, so the induction is on the history.
  induction past generalizing i cell with
  | nil => simp [after, cellFor, empty, Vector.get] at h
  | cons op past ih =>
    cases op with
    | push f =>
      rw [after, apply, cellFor_push] at h
      split at h
      · obtain rfl := Option.some.inj h
        simp [lastEntered?]
      · next hcell =>
        -- The frame was entered at a depth whose cell is another one.
        have hdepth : (after past).depth ≠ cell.index := by
          intro heq
          exact hcell (by rw [heq, index_mod_of_cell h])
        rw [lastEntered?, if_neg hdepth]
        exact ih h
    | pop => exact ih h
    | setLine line =>
      rw [after, apply, cellFor_setLine] at h
      split at h
      · obtain ⟨old, hold, rfl⟩ := Option.map_eq_some_iff.mp h
        have hcode : (lastEntered? past old.index).map (·.code) = some old.frame.code := ih hold
        exact hcode
      · exact ih h
    | reset => exact ih h

/-! ### Runs -/

namespace Course

variable {turns : List Turn}

/-- However long the walk is interleaved with the owner, it stands as many frames further out as it
has given. -/
theorem standing_run (h : m.cursor.Standing d n) (turns : List Turn) :
    (m.run turns).cursor.Standing d (n + (m.given turns).length) := by
  induction turns generalizing m n with
  | nil => exact h
  | cons turn turns ih =>
    cases turn with
    | own op => exact ih (m := m.turn (.own op)) h
    | ask =>
      obtain ⟨cell, -, -, -, -, hsome, hnext⟩ | ⟨hnone, hnext, -⟩ := h.ask (after m.past)
      · have hgiven : m.given (.ask :: turns) = cell.frame :: (m.turn .ask).given turns := by
          rw [given, answers, answer, hsome]
          rfl
        rw [hgiven, List.length_cons, Nat.add_comm _ 1, ← Nat.add_assoc]
        exact ih (m := m.turn .ask) hnext
      · have hgiven : m.given (.ask :: turns) = (m.turn .ask).given turns := by
          rw [given, answers, answer, hnone]
          rfl
        rw [hgiven]
        exact ih (m := m.turn .ask) hnext

/-- A halted walk stays as it is, whatever happens, and every request is refused. -/
theorem halted_run (h : m.cursor.Halted) (turns : List Turn) :
    (m.run turns).cursor = m.cursor ∧ ∀ a ∈ m.answers turns, a = none := by
  induction turns generalizing m with
  | nil => exact ⟨rfl, nofun⟩
  | cons turn turns ih =>
    cases turn with
    | own op => exact ih (m := m.turn (.own op)) h
    | ask =>
      have hsame : m.turn .ask = m := by rw [Course.turn, h.next?]
      have hnone : m.answer = none := by rw [answer, h.next?]
      obtain ⟨hcursor, hanswers⟩ := ih h
      rw [run, List.foldl_cons, answers, hsame, hnone]
      exact ⟨hcursor, List.forall_mem_cons.mpr ⟨rfl, hanswers⟩⟩

end Course

/-- A walk over a ring of depth `d` gives at most `d` frames, and never more than a ring holds,
whatever the owners of the ring do between the requests. The frame that it gives after `k` others
has the code that was last entered at the depth `k + 1` below `d`. A request that is refused is the
end: all later ones are refused, and whether frames are missing does not change any more. -/
theorem walk_interleaved (past : History) (turns : List Turn) :
    let d := (after past).depth
    let k := ((Course.start past).given turns).length
    let now := (Course.start past).run turns
    k ≤ min d capacity ∧
    (∀ f, now.answer = some f →
      k + 1 ≤ d ∧ (lastEntered? now.past (d - (k + 1))).map (·.code) = some f.code) ∧
    (now.answer = none → ∀ later,
      (∀ a ∈ (now.turn .ask).answers later, a = none) ∧
      ((now.turn .ask).run later).cursor.truncated = (now.turn .ask).cursor.truncated) := by
  intro d k now
  have hnow : now.cursor.Standing d k := by
    simpa using
      Course.standing_run (m := Course.start past) (Cursor.standing_cursor (after past)) turns
  refine ⟨?_, ?_⟩
  · have hbottom := hnow.bottom_eq
    have hgiven := hnow.given_le
    omega
  · obtain ⟨cell, hcell, hindex, hpos, hadd, hsome, -⟩ | ⟨hnone, -, hhalted⟩ :=
      hnow.ask (after now.past)
    · refine ⟨fun f hf => ?_, fun hnone => ?_⟩
      · obtain rfl : cell.frame = f := Option.some.inj (hsome.symm.trans hf)
        have hdepth : cell.index = d - (k + 1) := by omega
        rw [← hdepth]
        exact ⟨by omega, lastEntered?_of_cell hcell⟩
      · cases hsome.symm.trans hnone
    · refine ⟨fun f hf => ?_, fun _ later => ?_⟩
      · cases hnone.symm.trans hf
      · obtain ⟨hcursor, hanswers⟩ := Course.halted_run (m := now.turn .ask) hhalted later
        exact ⟨hanswers, by rw [hcursor]⟩

/-- A walk that began at depth two is paused while the ring gets another owner. It goes on with the
frame of that owner at the depth at which it stands. -/
example :
    let f (name : String) : Frame := ⟨⟨name, "a.py"⟩, 1⟩
    (Course.start [.push (f "inner"), .push (f "outer")]).answers
      [.ask, .own .reset, .own (.push (f "other")), .ask, .ask] =
      [some (f "inner"), some (f "other"), none] := by
  decide +kernel

end Ring

end CrashTrace
