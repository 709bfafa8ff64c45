import CrashTrace.Proofs.Output.Accepting
import CrashTrace.Report.Emitter

/-!
# What emitters hand over

An emitter makes its requests one after the other, and with every writer it comes to what handing
over its pieces in order comes to: it stops at the first failure and passes it on. For the threads of
a report this takes an argument, since they are all visited: once one has failed nothing is written
for those after it.

## Main definitions

- `Report.Emits` — an emitter hands over some pieces, up to the first failure

## Main results

- `Report.emitName_emits`, `Report.emitFrames_emits`, `Report.emitTraceback_emits`
- `Report.emitAllThreads_emits`, `Report.emitFatalHeader_emits`
- `Report.emitDump_of_accepts` — a dump with a writer that takes everything
-/

namespace CrashTrace

namespace Writer

/-- Pieces after others are handed over only if none of those has failed. -/
theorem emit_append (w : Writer) (pieces more : Pieces) :
    w.emit (pieces ++ more) =
      match w.emit pieces with
      | (.ok (), w') => w'.emit more
      | (.error failure, w') => (.error failure, w') := by
  induction pieces generalizing w with
  | nil => rfl
  | cons piece rest ih =>
    rw [List.cons_append, emit, emit]
    split
    · exact ih _
    · rfl

end Writer

namespace Report

open Registry (SlotIndex)

/-- With every writer the emitter hands over the pieces in order, up to the first failure. -/
def Emits (e : Emit Unit) (pieces : Pieces) : Prop := ∀ w : Writer, e w = w.emit pieces

namespace Emits

variable {e e' : Emit Unit} {pieces more : Pieces}

theorem bind (h : Emits e pieces) (h' : Emits e' more) :
    Emits (e >>= fun _ => e') (pieces ++ more) := by
  intro w
  change ExceptT.bindCont (fun _ => e') (e w).1 (e w).2 = _
  rw [Writer.emit_append, ← h w]
  obtain ⟨result, w'⟩ := e w
  cases result with
  | ok _ => exact h' w'
  | error failure => rfl

/-- A writer that takes everything takes all pieces. -/
theorem of_accepts {w : Writer} (h : Emits e pieces) (hw : w.Accepts) :
    (e w).1 = .ok () ∧ (e w).2.taken = w.taken ++ pieces.text.bytes := by
  rw [h w]
  exact Writer.emit_of_accepts hw pieces

theorem pure : Emits (Pure.pure ()) [] := fun _ => rfl

theorem text (text : Text) : Emits (emitText text) [text] := by
  intro w
  unfold emitText Writer.emit
  obtain ⟨result, w'⟩ := w.writeAll text.bytes
  cases result with
  | ok _ => rfl
  | error failure => rfl

theorem textIf (reason : Bool) (text : Text) :
    Emits (emitIf reason text) (if reason then [text] else []) := by
  cases reason with
  | false => exact pure
  | true => exact Emits.text text

end Emits

-- ════════════════════════════════════════════════════════════════════════
-- Names, numbers and frames
-- ════════════════════════════════════════════════════════════════════════

/-- The recursion is on what is left of the name; `count` characters of it are there already. -/
theorem emitNameFrom_emits (name : Text) {count : Nat} (hcount : count ≤ Escape.maxChars) :
    Emits (emitNameFrom count name)
      ((name.take (Escape.maxChars - count)).map Escape.char
        ++ if (name.drop (Escape.maxChars - count)).isEmpty then [] else [Escape.ellipsis]) := by
  induction name generalizing count with
  | nil => simpa [emitNameFrom] using Emits.pure
  | cons c rest ih =>
    unfold emitNameFrom
    by_cases hfull : Escape.maxChars ≤ count
    · rw [if_pos hfull, Nat.sub_eq_zero_of_le hfull]
      exact Emits.text Escape.ellipsis
    · obtain ⟨left, hleft⟩ : ∃ left, Escape.maxChars - count = left + 1 :=
        ⟨Escape.maxChars - count - 1, by omega⟩
      have hnext : count + 1 ≤ Escape.maxChars := by omega
      have hrest : Escape.maxChars - (count + 1) = left := by omega
      have hmore := ih hnext
      rw [hrest] at hmore
      rw [if_neg hfull, hleft]
      exact (Emits.text (Escape.char c)).bind hmore

theorem emitName_emits (name : Text) : Emits (emitName name) (Escape.name name) :=
  emitNameFrom_emits name (Nat.zero_le _)

theorem emitDecimal_emits (n : UInt64) : Emits (emitDecimal n) (Numeral.decimalWord n) := by
  unfold emitDecimal Numeral.decimalWord
  cases Numeral.inBuffer? Numeral.decimalRoom n with
  | none => exact .pure
  | some digits => exact .text digits

theorem emitFrame_emits (f : Frame) : Emits (emitFrame f) f.pieces := by
  unfold emitFrame Frame.pieces
  have h := (Emits.text "  File \"".toList).bind ((emitName_emits f.code.source.toList).bind
    ((Emits.text "\", line ".toList).bind ((emitDecimal_emits f.line.toUInt64).bind
      ((Emits.text " in ".toList).bind ((emitName_emits f.code.function.toList).bind
        (Emits.text ['\n']))))))
  simpa using h

theorem emitClosing_emits (written : Nat) (c : Cursor) :
    Emits (emitClosing written c) (closing written c) := by
  unfold emitClosing closing
  split
  · exact .text _
  · split
    · exact .text _
    · exact .pure

theorem emitFramesFrom_emits (ring : Ring) (n written : Nat) (c : Cursor) :
    Emits (emitFramesFrom ring n written c) (framesFrom ring n written c) := by
  induction n generalizing written c with
  | zero => exact emitClosing_emits written c
  | succ n ih =>
    unfold emitFramesFrom framesFrom
    obtain ⟨found, c'⟩ := c.next? ring
    cases found with
    | some f => exact (emitFrame_emits f).bind (ih (written + 1) c')
    | none => exact emitClosing_emits written c'

theorem emitFrames_emits (r : Registry) (w : Walk) : Emits (emitFrames r w) (frames r w) :=
  emitFramesFrom_emits _ _ _ _

-- ════════════════════════════════════════════════════════════════════════
-- Threads
-- ════════════════════════════════════════════════════════════════════════

theorem emitThreadHeader_emits (thread : ThreadId) (isCurrent : Bool) :
    Emits (emitThreadHeader thread isCurrent) (threadHeader thread isCurrent) :=
  (Emits.text _).bind ((Emits.text _).bind (.text _))

theorem emitTraceback_emits (r : Registry) (handle? : Option ThreadHandle) (collecting : Bool) :
    Emits (emitTraceback r handle? collecting) (traceback r handle? collecting) := by
  have hlines {e : Emit Unit} {pieces : Pieces} (h : Emits e pieces) :=
    (Emits.text stackHeader).bind ((Emits.textIf collecting collectingLine).bind h)
  cases handle? with
  | none => exact hlines (.text noFrameLine)
  | some h => exact hlines (emitFrames_emits r (r.walk h))

theorem emitNthThread_emits (r : Registry) (h : ThreadHandle) (index : Nat) (collecting : Bool) :
    Emits (emitNthThread r h index collecting) (nthThread r h index collecting) := by
  unfold emitNthThread nthThread
  have hthread := (emitThreadHeader_emits h.thread h.isCurrent).bind
    ((Emits.textIf (collecting && h.isCurrent) collectingLine).bind
      (emitFrames_emits r (r.walk h)))
  rw [← List.append_assoc] at hthread
  have hblank : Emits (emitIf (index ≠ 0) ['\n']) (if index = 0 then [] else [['\n']]) := by
    by_cases hfirst : index = 0
    · rw [if_pos hfirst, decide_eq_false (Decidable.not_not.mpr hfirst)]
      exact .pure
    · rw [if_neg hfirst, decide_eq_true hfirst]
      exact .text _
  refine Emits.bind hblank ?_
  split
  · exact .text _
  · exact hthread

section Threads

variable {r : Registry} {caller : Option ThreadId} {collecting : Bool} {i : SlotIndex}
  {visited : Visited}

theorem emitThreads_of_none (hslot : r.handleAt? caller i = none) (rest : List SlotIndex) :
    emitThreads r caller collecting (i :: rest) visited =
      emitThreads r caller collecting rest visited := by
  unfold emitThreads visitThreads
  rw [List.foldlM_cons, visitSlot, hslot]
  rfl

theorem emitThreads_of_some {h : ThreadHandle} (hslot : r.handleAt? caller i = some h)
    (rest : List SlotIndex) (w : Writer) :
    emitThreads r caller collecting (i :: rest) visited w =
      emitThreads r caller collecting rest (visitThread r collecting visited h w).1
        (visitThread r collecting visited h w).2 := by
  unfold emitThreads visitThreads
  rw [List.foldlM_cons, visitSlot, hslot]
  rfl

/-- Once nothing more is written for a thread, the other threads are visited in vain. -/
theorem emitThreads_in_vain (hvain : ∀ h, visitThread r collecting visited h = pure visited)
    (slots : List SlotIndex) (w : Writer) :
    emitThreads r caller collecting slots visited w = (visited.1, w) := by
  induction slots with
  | nil => rfl
  | cons i rest ih =>
    cases hslot : r.handleAt? caller i with
    | none => rw [emitThreads_of_none hslot, ih]
    | some h =>
      rw [emitThreads_of_some hslot, hvain h]
      exact ih

/-- The threads in some slots after `count` others, none of which has failed. -/
theorem emitThreads_emits (slots : List SlotIndex) (count : Nat) :
    Emits (emitThreads r caller collecting slots (.ok (), count))
      (threadsFrom r caller collecting slots count) := by
  induction slots generalizing count with
  | nil => exact .pure
  | cons i rest ih =>
    unfold threadsFrom
    cases hslot : r.handleAt? caller i with
    | none =>
      rw [emitThreads_of_none hslot]
      exact ih count
    | some h =>
      intro w
      rw [emitThreads_of_some hslot]
      dsimp only
      by_cases hfull : maxThreads < count
      · have hvain (h : ThreadHandle) :
            visitThread r collecting (.ok (), count) h = pure (.ok (), count) := if_pos hfull
        rw [if_pos hfull, hvain h]
        exact emitThreads_in_vain hvain rest w
      · have hvisit : visitThread r collecting (.ok (), count) h w =
            (((emitNthThread r h count collecting w).1, count + 1),
              (emitNthThread r h count collecting w).2) :=
          congrFun (if_neg hfull) w
        rw [if_neg hfull, hvisit, Writer.emit_append, ← emitNthThread_emits r h count collecting w]
        obtain ⟨result, w'⟩ := emitNthThread r h count collecting w
        cases result with
        | ok _ => exact ih (count + 1) w'
        | error failure => exact emitThreads_in_vain (fun _ => rfl) rest w'

end Threads

theorem emitAllThreads_emits (r : Registry) (caller : Option ThreadId) (collecting : Bool) :
    Emits (emitAllThreads r caller collecting) (allThreads r caller collecting) :=
  emitThreads_emits _ 0

theorem emitDump_emits (r : Registry) (caller : Option ThreadId) (all collecting : Bool) :
    Emits (emitDump r caller all collecting) (dump r caller all collecting) := by
  unfold emitDump dump
  split
  · exact emitAllThreads_emits r caller collecting
  · exact emitTraceback_emits r _ collecting

/-- Written one after the other, the requests of a dump are what a process offers to a descriptor at
once. -/
theorem emitDump_of_accepts {w : Writer} (hw : w.Accepts) (r : Registry) (caller : Option ThreadId)
    (all collecting : Bool) :
    (emitDump r caller all collecting w).1 = .ok () ∧
      (emitDump r caller all collecting w).2.taken =
        w.taken ++ (dump r caller all collecting).text.bytes :=
  (emitDump_emits r caller all collecting).of_accepts hw

-- ════════════════════════════════════════════════════════════════════════
-- Headers and closing lines
-- ════════════════════════════════════════════════════════════════════════

theorem emitPhase_emits (phase? : Option Phase) : Emits (emitPhase phase?) (phaseLine phase?) := by
  cases phase? with
  | none => exact .text _
  | some phase =>
    exact (Emits.text _).bind ((Emits.text _).bind ((Emits.text _).bind (.text _)))

theorem emitFatalHeader_emits (function? : Option String) (message : String)
    (phase? : Option Phase) :
    Emits (emitFatalHeader function? message phase?) (fatalHeader function? message phase?) := by
  have hend := (Emits.text message.toList).bind
    ((Emits.text ['\n']).bind (emitPhase_emits phase?))
  cases function? with
  | none => exact (Emits.text _).bind hend
  | some function => exact (Emits.text _).bind ((Emits.text _).bind ((Emits.text _).bind hend))

theorem emitModules_emits (i : Interpreter) : Emits (emitModules i) (modules i) := by
  unfold emitModules modules
  cases i.modulesLine? with
  | none => exact .pure
  | some line => exact (Emits.text _).bind (.text line)

end Report

end CrashTrace
