import CrashTrace.Proofs.Registry.Ledger
import Mathlib.Data.List.Induction

/-!
# Which frames are overwritten

A frame is lost when the stack becomes deeper by as much as a ring holds, and it stays lost until
it is left. The cut of a stack, which tells how many frames are lost, is therefore decided by how
deep the stack has been and to which depth it has been unwound since.

## Main definitions

- `Account.depth`, `Account.cut` — the depth of a stack, and how many outermost frames are lost
- `Account.Overrun` — the frame at a depth has been overwritten while it was on the stack

## Main results

- `Account.lt_cut_run_iff`
-/

namespace CrashTrace.Account

def depth (a : Account) : Nat := a.frames.length

/-- The number of frames that can no longer be read. -/
def cut (a : Account) : Nat := (a.stack.map CutStack.cut).getD 0

/-- At some moment the stack was so deep that the frame at depth `k` was overwritten, and since then
that frame has always been on the stack. -/
def Overrun (actions : List ThreadAction) (k : Nat) : Prop :=
  ∃ earlier later, actions = earlier ++ later ∧ k + Ring.capacity < (initial.run earlier).depth ∧
    ∀ now, now <+: later → k < (initial.run (earlier ++ now)).depth

variable {a : Account}

theorem run_append (a : Account) (earlier later : List ThreadAction) :
    a.run (earlier ++ later) = (a.run earlier).run later :=
  List.foldl_append

/-- What an action does to the depth and to the cut. -/
theorem depth_cut_step (a : Account) (x : ThreadAction) :
    ((a.step x).depth = 0 ∧ (a.step x).cut = 0) ∨
    ((a.step x).depth = a.depth + 1 ∧ (a.step x).cut = max a.cut (a.depth + 1 - Ring.capacity)) ∨
    ((a.step x).depth = a.depth - 1 ∧ (a.step x).cut = min a.cut (a.depth - 1)) ∨
    ((a.step x).depth = a.depth ∧ (a.step x).cut = a.cut) := by
  obtain ⟨stack, guards⟩ := a
  cases x with
  | register => exact .inl ⟨rfl, rfl⟩
  | unregister => exact .inl ⟨rfl, rfl⟩
  | enter f =>
    cases stack with
    | none => exact .inl ⟨rfl, rfl⟩
    | some s => exact .inr (.inl ⟨by simp [depth, frames, step, CutStack.enter], rfl⟩)
  | setLine i line =>
    refine .inr (.inr (.inr ?_))
    simp only [step]
    split
    · cases stack <;> simp [depth, cut, frames, CutStack.setLine]
    · exact ⟨rfl, rfl⟩
  | drop i =>
    simp only [step]
    split
    · refine .inr (.inr (.inl ?_))
      cases stack <;> simp [depth, cut, frames, CutStack.leave]
    · exact .inr (.inr (.inr ⟨rfl, rfl⟩))
  | forget i => exact .inr (.inr (.inr ⟨rfl, rfl⟩))

/-- The frames that can be read are on the stack, and a ring holds them. -/
def Fits (a : Account) : Prop := a.cut ≤ a.depth ∧ a.depth ≤ a.cut + Ring.capacity

theorem Fits.step (h : a.Fits) (x : ThreadAction) : (a.step x).Fits := by
  obtain ⟨hle, hroom⟩ := h
  have hstep := a.depth_cut_step x
  rw [Ring.capacity_eq] at hroom hstep
  unfold Fits
  rw [Ring.capacity_eq]
  omega

theorem fits_run (h : a.Fits) (actions : List ThreadAction) : (a.run actions).Fits := by
  induction actions generalizing a with
  | nil => exact h
  | cons x rest ih => exact ih (h.step x)

/-- A frame is lost after an action if it was lost before and is still on the stack, or if the stack
is so deep now that the frame is overwritten. -/
theorem lt_cut_step_iff (h : a.Fits) (x : ThreadAction) (k : Nat) :
    k < (a.step x).cut ↔
      (k < a.cut ∧ k < (a.step x).depth) ∨ k + Ring.capacity < (a.step x).depth := by
  obtain ⟨hle, hroom⟩ := h
  have hstep := a.depth_cut_step x
  rw [Ring.capacity_eq] at hroom hstep ⊢
  omega

theorem overrun_nil (k : Nat) : ¬ Overrun [] k := by
  rintro ⟨earlier, later, hnil, hdeep, -⟩
  obtain ⟨rfl, rfl⟩ := List.append_eq_nil_iff.mp hnil.symm
  exact Nat.not_lt_zero _ hdeep

theorem overrun_concat_iff (actions : List ThreadAction) (x : ThreadAction) (k : Nat) :
    Overrun (actions ++ [x]) k ↔
      (Overrun actions k ∧ k < (initial.run (actions ++ [x])).depth) ∨
        k + Ring.capacity < (initial.run (actions ++ [x])).depth := by
  constructor
  · rintro ⟨earlier, later, hsplit, hdeep, hkept⟩
    obtain rfl | ⟨later, y, rfl⟩ := List.eq_nil_or_concat' later
    · rw [List.append_nil] at hsplit
      exact .inr (hsplit ▸ hdeep)
    · rw [← List.append_assoc] at hsplit
      obtain ⟨rfl, hlast⟩ := List.append_inj' hsplit rfl
      obtain rfl := (List.cons.inj hlast).1
      refine .inl ⟨⟨earlier, later, rfl, hdeep, fun now hnow => ?_⟩, ?_⟩
      · exact hkept now (hnow.trans (List.prefix_append later [x]))
      · rw [List.append_assoc]
        exact hkept _ (List.prefix_refl _)
  · rintro (⟨⟨earlier, later, rfl, hdeep, hkept⟩, hlast⟩ | hdeep)
    · refine ⟨earlier, later ++ [x], List.append_assoc _ _ _, hdeep, fun now hnow => ?_⟩
      obtain rfl | hnow := List.prefix_concat_iff.mp hnow
      · rwa [← List.append_assoc]
      · exact hkept now hnow
    · refine ⟨actions ++ [x], [], (List.append_nil _).symm, hdeep, fun now hnow => ?_⟩
      rw [List.prefix_nil.mp hnow, List.append_nil]
      omega

/-- A frame is lost exactly if it has been overwritten while it was on the stack. -/
theorem lt_cut_run_iff (actions : List ThreadAction) (k : Nat) :
    k < (initial.run actions).cut ↔ Overrun actions k := by
  -- From the end: whether a frame is lost now depends on whether the last action has kept it.
  induction actions using List.reverseRecOn with
  | nil => exact iff_of_false (Nat.not_lt_zero k) (overrun_nil k)
  | append_singleton actions x ih =>
    have hfits : (initial.run actions).Fits := fits_run ⟨le_rfl, Nat.zero_le _⟩ actions
    have hrun : initial.run (actions ++ [x]) = (initial.run actions).step x := run_append _ _ _
    rw [overrun_concat_iff, ← ih, hrun, lt_cut_step_iff hfits]

end CrashTrace.Account
