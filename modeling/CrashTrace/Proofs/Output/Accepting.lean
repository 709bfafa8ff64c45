import CrashTrace.Output.Writer

/-!
# Writers that accept everything

A writer without a limit takes every report as a whole, into however many portions it divides the
requests and however often it is interrupted.

## Main definitions

- `Writer.Accepts` — no limit, and at least one byte in each portion

## Main results

- `Writer.emit_of_accepts`
-/

namespace CrashTrace.Writer

variable {w : Writer} {bytes : List UInt8}

/-- The writer has no limit, and each portion that it takes has at least one byte. -/
structure Accepts (w : Writer) : Prop where
  room : w.room = none
  portion : ∀ n, w.pace.portion n ≠ some 0

theorem accepts_unlimited : unlimited.Accepts := ⟨rfl, nofun⟩

theorem capped_pos {count : Nat} {bound? : Option Nat} (hcount : 0 < count)
    (hbound : bound? ≠ some 0) : 0 < capped count bound? := by
  cases bound? with
  | none => exact hcount
  | some bound =>
    have hpos : bound ≠ 0 := fun h => hbound (congrArg some h)
    exact Nat.lt_min.mpr ⟨hcount, Nat.pos_of_ne_zero hpos⟩

/-- One request of an accepting writer is interrupted, or some of it is taken. -/
theorem Accepts.call (h : w.Accepts) (hbytes : bytes ≠ []) :
    (w.call bytes).2.Accepts ∧
      ((w.call bytes).1 = .interrupted ∧ (w.call bytes).2.taken = w.taken ∨
        ∃ count, 0 < count ∧ (w.call bytes).1 = .took count) := by
  unfold Writer.call
  dsimp only
  split
  · exact ⟨⟨h.room, h.portion⟩, .inl ⟨rfl, rfl⟩⟩
  · rw [if_neg (by simp [h.room])]
    refine ⟨⟨by simp [h.room], h.portion⟩, .inr ⟨_, ?_, rfl⟩⟩
    have hlength : 0 < bytes.length := List.length_pos_iff.mpr hbytes
    exact capped_pos (capped_pos hlength (by simp [h.room])) (h.portion w.calls)

/-- The recursion is on what is left of the request and on the interruptions before the next
portion. -/
theorem writeAll_of_accepts (h : w.Accepts) :
    ∃ w', w.writeAll bytes = (.ok (), w') ∧ w'.Accepts ∧ w'.taken = w.taken ++ bytes := by
  fun_induction writeAll w bytes with
  | case1 w => exact ⟨w, rfl, h, by simp⟩
  | case2 w bytes hbytes w' reply ih =>
    obtain ⟨haccepts, ⟨-, htaken⟩ | ⟨count, -, htook⟩⟩ := h.call hbytes
    · rw [reply] at haccepts htaken
      rw [← htaken]
      exact ih haccepts
    · rw [reply] at htook
      cases htook
  | case3 w bytes hbytes failure w' reply =>
    obtain ⟨-, ⟨hinterrupted, -⟩ | ⟨count, -, htook⟩⟩ := h.call hbytes
    · rw [reply] at hinterrupted
      cases hinterrupted
    · rw [reply] at htook
      cases htook
  | case4 w bytes hbytes w' reply =>
    obtain ⟨-, ⟨hinterrupted, -⟩ | ⟨count, hpos, htook⟩⟩ := h.call hbytes
    · rw [reply] at hinterrupted
      cases hinterrupted
    · rw [reply] at htook
      obtain rfl := Reply.took.inj htook
      exact absurd hpos (Nat.lt_irrefl 0)
  | case5 w bytes hbytes count w' reply hcount ih =>
    have haccepts := (h.call hbytes).1
    rw [reply] at haccepts
    obtain ⟨w'', hrest, haccepts', htaken⟩ := ih haccepts
    refine ⟨w'', hrest, haccepts', ?_⟩
    have hfirst := taken_call_took w bytes count (by rw [reply])
    rw [reply] at hfirst
    rw [htaken, hfirst, List.append_assoc, List.take_append_drop]

/-- An accepting writer takes every piece of a report, one after the other. -/
theorem emit_of_accepts (h : w.Accepts) (pieces : Pieces) :
    (w.emit pieces).1 = .ok () ∧ (w.emit pieces).2.taken = w.taken ++ pieces.text.bytes := by
  induction pieces generalizing w with
  | nil => exact ⟨rfl, by simp [emit]⟩
  | cons piece rest ih =>
    have hwrite : ∃ w', w.writeAll piece.bytes = (.ok (), w') ∧ w'.Accepts ∧
        w'.taken = w.taken ++ piece.bytes := writeAll_of_accepts h
    obtain ⟨w', hpiece, haccepts, htaken⟩ := hwrite
    rw [emit, hpiece]
    obtain ⟨hok, hrest⟩ := ih haccepts
    refine ⟨hok, ?_⟩
    rw [hrest, htaken, Pieces.text_cons, Text.bytes_append, List.append_assoc]

end CrashTrace.Writer
