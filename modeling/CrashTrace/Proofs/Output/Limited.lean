import CrashTrace.Proofs.Output.Emitter

/-!
# Writers that fill up

A report goes to its writer in many small requests, and the writer may have room for a part of it
only. What it has taken then is the front of the whole report, as much as it has room for, wherever
the limit falls: inside a request, between two of them, or inside a portion. Every emitter passes on
the first failure and offers nothing after it.

## Main definitions

- `Writer.Limited` — room for a number of bytes, and at least one byte in each portion
- `Report.Part` — the parts of reports that are written on their own, each by its emitter

## Main results

- `Writer.emit_of_limited`
- `Report.part_cut`

## Design notes

Nothing is assumed on how a writer divides requests, nor on how often it is interrupted before a
portion. When it is full it fails or takes nothing; both end a report (`Writer.fullFailure`).
-/

namespace CrashTrace

namespace Writer

variable {w : Writer} {bytes : List UInt8} {room : Nat}

/-- The writer has room for so many bytes, and each portion that it takes has at least one byte. -/
structure Limited (w : Writer) (room : Nat) : Prop where
  room : w.room = some room
  portion : ∀ n, w.pace.portion n ≠ some 0

/-- How a request fails once the writer is full. -/
def fullFailure (w : Writer) : IoFailure := if w.silent then .nothingTaken else .limitReached

/-- What one request of a limited writer comes to. -/
inductive LimitedCall (w : Writer) (room : Nat) (bytes : List UInt8) : Reply × Writer → Prop
  | interrupted (w' : Writer) : w'.Limited room → w'.silent = w.silent → w'.taken = w.taken →
      LimitedCall w room bytes (.interrupted, w')
  | refused (w' : Writer) : room = 0 → w.silent = false → w'.silent = w.silent →
      w'.taken = w.taken → LimitedCall w room bytes (.failed .limitReached, w')
  | nothing (w' : Writer) : room = 0 → w.silent → w'.silent = w.silent → w'.taken = w.taken →
      LimitedCall w room bytes (.took 0, w')
  | took (count : Nat) (w' : Writer) : 0 < count → count ≤ room → count ≤ bytes.length →
      w'.Limited (room - count) → w'.silent = w.silent →
      w'.taken = w.taken ++ bytes.take count → LimitedCall w room bytes (.took count, w')

theorem capped_le (count : Nat) (bound? : Option Nat) : capped count bound? ≤ count := by
  cases bound? with
  | none => exact Nat.le_refl count
  | some bound => exact Nat.min_le_left count bound

theorem Limited.call (h : w.Limited room) (hbytes : bytes ≠ []) :
    LimitedCall w room bytes (w.call bytes) := by
  unfold Writer.call
  dsimp only
  split
  · exact .interrupted _ ⟨h.room, h.portion⟩ rfl rfl
  · by_cases hfull : room = 0
    · rw [if_pos (by rw [h.room, hfull])]
      cases hsilent : w.silent with
      | true => exact .nothing _ hfull hsilent hsilent.symm rfl
      | false => exact .refused _ hfull hsilent hsilent.symm rfl
    · rw [if_neg (by simp [h.room, hfull]), h.room]
      have hlength : 0 < bytes.length := List.length_pos_iff.mpr hbytes
      have hfits : capped bytes.length (some room) ≤ room := Nat.min_le_right _ _
      have hsome : 0 < capped bytes.length (some room) := capped_pos hlength (by simp [hfull])
      have hle := capped_le (capped bytes.length (some room)) (w.pace.portion w.calls)
      refine .took _ _ (capped_pos hsome (h.portion w.calls)) (Nat.le_trans hle hfits)
        (Nat.le_trans hle (capped_le _ _)) ⟨rfl, h.portion⟩ rfl ?_
      simp [taken]

/-- A request takes as much of its bytes as there is room for, and succeeds if that is all of them.
The recursion is on what is left of the request and on the interruptions before the next
portion. -/
theorem writeAll_of_limited (h : w.Limited room) :
    ∃ w', w.writeAll bytes =
        (if bytes.length ≤ room then .ok () else .error w.fullFailure, w') ∧
      w'.taken = w.taken ++ bytes.take room ∧ w'.silent = w.silent ∧
      (bytes.length ≤ room → w'.Limited (room - bytes.length)) := by
  fun_induction writeAll w bytes generalizing room with
  | case1 w => exact ⟨w, rfl, by simp, rfl, fun _ => h⟩
  | case2 w bytes hbytes w' reply ih =>
    have hcall := h.call hbytes
    rw [reply] at hcall
    cases hcall with
    | interrupted _ hlimited hsilent htaken =>
      unfold fullFailure
      rw [← htaken, ← hsilent]
      exact ih hlimited
  | case3 w bytes hbytes failure w' reply =>
    have hcall := h.call hbytes
    rw [reply] at hcall
    have hlength : 0 < bytes.length := List.length_pos_iff.mpr hbytes
    cases hcall with
    | refused _ hfull hloud hsilent htaken =>
      subst hfull
      refine ⟨w', ?_, by simp [htaken], hsilent, fun hfits => absurd hfits (by omega)⟩
      rw [if_neg (by omega), fullFailure, hloud]
      rfl
  | case4 w bytes hbytes w' reply =>
    have hcall := h.call hbytes
    rw [reply] at hcall
    have hlength : 0 < bytes.length := List.length_pos_iff.mpr hbytes
    cases hcall with
    | nothing _ hfull hquiet hsilent htaken =>
      subst hfull
      refine ⟨w', ?_, by simp [htaken], hsilent, fun hfits => absurd hfits (by omega)⟩
      rw [if_neg (by omega), fullFailure, hquiet]
      rfl
    | took _ _ hpos => exact absurd hpos (Nat.lt_irrefl 0)
  | case5 w bytes hbytes count w' reply hcount ih =>
    have hcall := h.call hbytes
    rw [reply] at hcall
    cases hcall with
    | nothing => exact absurd rfl hcount
    | took _ _ hpos hroom hlength hlimited hsilent htaken =>
      obtain ⟨w'', hwrite, htaken', hsilent', hlimited'⟩ := ih hlimited
      -- What is left fits in what room is left exactly if the whole fits in the whole room.
      have hfits : (bytes.drop count).length ≤ room - count ↔ bytes.length ≤ room := by
        rw [List.length_drop]
        omega
      refine ⟨w'', ?_, ?_, hsilent'.trans hsilent, fun hall => ?_⟩
      · rw [hwrite]
        simp only [hfits, fullFailure, hsilent]
      · have hsplit : count + (room - count) = room := by omega
        have hfront : bytes.take room = bytes.take count ++ (bytes.drop count).take (room - count) := by
          rw [← List.take_add, hsplit]
        rw [htaken', htaken, List.append_assoc, hfront]
      · have hrest := hlimited' (hfits.mpr hall)
        have hleft : room - count - (bytes.drop count).length = room - bytes.length := by
          rw [List.length_drop]
          omega
        rwa [hleft] at hrest

/-- A limited writer takes the front of a report for which it has room. The report succeeds exactly
if it fits, and otherwise fails the way in which a full writer does. -/
theorem emit_of_limited (h : w.Limited room) (pieces : Pieces) :
    (w.emit pieces).1 =
        (if pieces.text.bytes.length ≤ room then .ok () else .error ⟨w.fullFailure⟩) ∧
      (w.emit pieces).2.taken = w.taken ++ pieces.text.bytes.take room := by
  induction pieces generalizing w room with
  | nil => exact ⟨rfl, by simp [emit]⟩
  | cons piece rest ih =>
    have hwrite : ∃ w', w.writeAll piece.bytes = _ ∧ _ := writeAll_of_limited h
    obtain ⟨w', hpiece, htaken, hsilent, hlimited⟩ := hwrite
    rw [emit, hpiece, Pieces.text_cons, Text.bytes_append, List.length_append]
    by_cases hfits : piece.bytes.length ≤ room
    · obtain ⟨hresult, hrest⟩ := ih (hlimited hfits)
      rw [if_pos hfits]
      dsimp only
      have hiff : (Pieces.text rest).bytes.length ≤ room - piece.bytes.length ↔
          piece.bytes.length + (Pieces.text rest).bytes.length ≤ room := by omega
      constructor
      · rw [hresult]
        simp only [hiff, fullFailure, hsilent]
      · rw [hrest, htaken, List.take_append, List.append_assoc]
    · rw [if_neg hfits, if_neg (by omega)]
      refine ⟨rfl, ?_⟩
      rw [htaken, List.take_append_of_le_length (by omega)]

end Writer

namespace Report

/-- A limited writer takes of an emitter's pieces what there is room for. -/
theorem Emits.of_limited {e : Emit Unit} {pieces : Pieces} {w : Writer} {room : Nat}
    (h : Emits e pieces) (hw : w.Limited room) :
    (e w).1 = (if pieces.text.bytes.length ≤ room then .ok () else .error ⟨w.fullFailure⟩) ∧
      (e w).2.taken = w.taken ++ pieces.text.bytes.take room := by
  rw [h w]
  exact Writer.emit_of_limited hw pieces

/-- The parts of reports that are written on their own. -/
inductive Part where
  /-- A name, escaped and cut. -/
  | name (text : Text)
  | frame (f : Frame)
  /-- The frames that a walk has left. -/
  | frames (walk : Walk)
  | word (digits : Nat) (value : UInt64)
  | threadHeader (thread : ThreadId) (isCurrent : Bool)
  | traceback (handle? : Option ThreadHandle) (collecting : Bool)
  | allThreads (caller : Option ThreadId) (collecting : Bool)
  | fatalHeader (function? : Option String) (message : String) (phase? : Option Phase)
  | phaseLine (phase? : Option Phase)
  | modules

/-- What writes a part. -/
def Part.emit (r : Registry) (i : Interpreter) (part : Part) : Emit Unit :=
  match part with
  | .name text => emitName text
  | .frame f => emitFrame f
  | .frames walk => emitFrames r walk
  | .word digits value => emitHex digits value
  | .threadHeader thread isCurrent => emitThreadHeader thread isCurrent
  | .traceback handle? collecting => emitTraceback r handle? collecting
  | .allThreads caller collecting => emitAllThreads r caller collecting
  | .fatalHeader function? message phase? => emitFatalHeader function? message phase?
  | .phaseLine phase? => emitPhase phase?
  | .modules => emitModules i

/-- The requests that a part makes of a writer that takes them all. -/
def Part.pieces (r : Registry) (i : Interpreter) (part : Part) : Pieces :=
  match part with
  | .name text => Escape.name text
  | .frame f => f.pieces
  | .frames walk => Report.frames r walk
  | .word digits value => [Numeral.hexWord digits value]
  | .threadHeader thread isCurrent => Report.threadHeader thread isCurrent
  | .traceback handle? collecting => Report.traceback r handle? collecting
  | .allThreads caller collecting => Report.allThreads r caller collecting
  | .fatalHeader function? message phase? => Report.fatalHeader function? message phase?
  | .phaseLine phase? => Report.phaseLine phase?
  | .modules => Report.modules i

/-- Every emitter stops at its first failure and passes it on. -/
theorem Part.emits (r : Registry) (i : Interpreter) (part : Part) :
    Emits (part.emit r i) (part.pieces r i) := by
  cases part with
  | name text => exact emitName_emits text
  | frame f => exact emitFrame_emits f
  | frames walk => exact emitFrames_emits r walk
  | word digits value => exact .text _
  | threadHeader thread isCurrent => exact emitThreadHeader_emits thread isCurrent
  | traceback handle? collecting => exact emitTraceback_emits r handle? collecting
  | allThreads caller collecting => exact emitAllThreads_emits r caller collecting
  | fatalHeader function? message phase? => exact emitFatalHeader_emits function? message phase?
  | phaseLine phase? => exact emitPhase_emits phase?
  | modules => exact emitModules_emits i

/-- A writer that fills up has taken of each part the front of what a writer without a limit takes,
as long as there was room, and the part fails exactly if it does not fit. -/
theorem part_cut {w : Writer} {room : Nat} (hw : w.Limited room) (r : Registry) (i : Interpreter)
    (part : Part) :
    let whole := (part.emit r i Writer.unlimited).2.taken
    (part.emit r i Writer.unlimited).1 = .ok () ∧
      (part.emit r i w).2.taken = w.taken ++ whole.take room ∧
      ((part.emit r i w).1 = .ok () ↔ whole.length ≤ room) ∧
      (room < whole.length → (part.emit r i w).1 = .error ⟨w.fullFailure⟩) := by
  intro whole
  obtain ⟨hok, hwhole⟩ := (part.emits r i).of_accepts Writer.accepts_unlimited
  obtain ⟨hresult, htaken⟩ := (part.emits r i).of_limited hw
  have hwhole : whole = (part.pieces r i).text.bytes := hwhole
  rw [← hwhole] at hresult htaken
  refine ⟨hok, htaken, ?_, fun hmore => ?_⟩
  · rw [hresult]
    split
    · next hfits => exact iff_of_true rfl hfits
    · next hmore => exact iff_of_false nofun hmore
  · rw [hresult, if_neg (Nat.not_le.mpr hmore)]

/-- A writer with room for twelve bytes, which takes five at a time and is interrupted before each
portion, is given a name that has to be escaped. -/
theorem part_cut_interrupted : ∃ w : Writer, w.Limited 12 ∧ w.silent ∧
    ((Part.name "naïve 😀 name".toList).emit Registry.empty .initial w).1 =
      .error ⟨.nothingTaken⟩ ∧
    ((Part.name "naïve 😀 name".toList).emit Registry.empty .initial w).2.taken =
      Text.bytes "na\\xefve \\U0".toList := by
  have hw : (Writer.limited (some 12) (some 5) true true).Limited 12 :=
    ⟨rfl, fun _ => (by decide : some 5 ≠ some 0)⟩
  obtain ⟨-, htaken, -, hfails⟩ :=
    part_cut hw Registry.empty .initial (.name "naïve 😀 name".toList)
  rw [((Part.emits _ _ _).of_accepts Writer.accepts_unlimited).2] at htaken hfails
  exact ⟨_, hw, rfl, hfails (by decide +kernel), htaken.trans (by decide +kernel)⟩

end Report

end CrashTrace
