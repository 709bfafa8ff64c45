import CrashTrace.Output.Writer

/-!
# What a writer has taken of a report

Nothing is assumed on the writer here. It may have room for a part of a report only, and fail
anywhere; but it is offered each byte in its place and none twice, so what it has taken is the front
of the report, and all of it if the report succeeded.

## Main results

- `Writer.emit_front`
-/

namespace CrashTrace.Writer

/-- A call that takes nothing changes nothing of what has been taken. -/
theorem taken_call_of_ne_took {w : Writer} {bytes : List UInt8}
    (h : ∀ count, (w.call bytes).1 ≠ .took count) : (w.call bytes).2.taken = w.taken := by
  unfold call at h ⊢
  dsimp only at h ⊢
  split
  · rfl
  · next hready =>
    rw [if_neg hready] at h
    split
    · split <;> rfl
    · next hroom =>
      rw [if_neg hroom] at h
      exact absurd rfl (h _)

/-- The recursion is on what is left of the request and on the interruptions before the next
portion. -/
theorem writeAll_front (w : Writer) (bytes : List UInt8) :
    ∃ front, front <+: bytes ∧ (w.writeAll bytes).2.taken = w.taken ++ front ∧
      ((w.writeAll bytes).1 = .ok () → front = bytes) := by
  fun_induction writeAll w bytes with
  | case1 w => exact ⟨[], List.nil_prefix, (List.append_nil _).symm, fun _ => rfl⟩
  | case2 w bytes hbytes w' reply ih =>
    have htaken : (w.call bytes).2.taken = w.taken := taken_call_of_ne_took (by rw [reply]; nofun)
    rw [reply] at htaken
    rwa [← htaken]
  | case3 w bytes hbytes failure w' reply =>
    have htaken : (w.call bytes).2.taken = w.taken := taken_call_of_ne_took (by rw [reply]; nofun)
    rw [reply] at htaken
    exact ⟨[], List.nil_prefix, htaken.trans (List.append_nil _).symm, nofun⟩
  | case4 w bytes hbytes w' reply =>
    have htaken := taken_call_took w bytes 0 (by rw [reply])
    rw [reply] at htaken
    exact ⟨[], List.nil_prefix, htaken, nofun⟩
  | case5 w bytes hbytes count w' reply hcount ih =>
    obtain ⟨front, hfront, hrest, hall⟩ := ih
    have htaken := taken_call_took w bytes count (by rw [reply])
    rw [reply] at htaken
    refine ⟨bytes.take count ++ front, ?_, ?_, fun hok => ?_⟩
    · have hprefix := (List.prefix_append_right_inj (bytes.take count)).mpr hfront
      rwa [List.take_append_drop] at hprefix
    · rw [hrest, htaken, List.append_assoc]
    · rw [hall hok, List.take_append_drop]

/-- Every writer takes the front of a report, and the whole of it if the report succeeds. -/
theorem emit_front (w : Writer) (pieces : Pieces) :
    ∃ front, front <+: pieces.text.bytes ∧ (w.emit pieces).2.taken = w.taken ++ front ∧
      ((w.emit pieces).1 = .ok () → front = pieces.text.bytes) := by
  induction pieces generalizing w with
  | nil => exact ⟨[], List.nil_prefix, (List.append_nil _).symm, fun _ => rfl⟩
  | cons piece rest ih =>
    obtain ⟨front, hfront, htaken, hall⟩ := writeAll_front w piece.bytes
    rw [Pieces.text_cons, Text.bytes_append]
    unfold emit
    split
    · next w' hwrite =>
      rw [hwrite] at htaken hall
      obtain ⟨more, hmore, hrest, hdone⟩ := ih w'
      refine ⟨piece.bytes ++ more, (List.prefix_append_right_inj _).mpr hmore, ?_, fun hok => ?_⟩
      · rw [hrest, htaken, hall rfl, List.append_assoc]
      · rw [hdone hok]
    · next failure w' hwrite =>
      rw [hwrite] at htaken
      exact ⟨front, hfront.trans (List.prefix_append _ _), htaken, nofun⟩

end CrashTrace.Writer
