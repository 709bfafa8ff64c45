import CrashTrace.Proofs.Registry.Ledger

/-!
# What a guard changes

A guard is used on whatever stack its thread has at that time. Setting a line through it sets the
line of the innermost frame, and dropping it leaves the innermost frame. So a guard acts on its own
frame as long as that is the innermost one, and a guard of an earlier registration acts on the
frames of the present one.

## Main definitions

- `Recording.SetsLineAt` — a line is set in one frame and nothing else changes
- `Recording.Untouched` — no depth changes, and no reading of any thread
- `Registry.Blank` — a thread of which no frame can be read

## Main results

- `Recording.setLine_own_iff` — when a guard sets the line of its own frame
- `Recording.inert_iff` — when a guard of an earlier registration changes nothing
-/

namespace CrashTrace

/-- The depth of the stack of a thread, while it is registered. -/
def Registry.depth? (r : Registry) (t : ThreadId) : Option Nat := (r.ringOf? t).map Ring.depth

/-- Whoever reads the thread gets no frame. -/
def Registry.Blank (r : Registry) (t : ThreadId) : Prop :=
  ∀ caller, ∀ reading ∈ r.readings caller t, reading.1 = []

namespace Recording

/-- Setting a line through a guard of a thread sets it in the frame that has `n` others further in,
if that one can be read, and changes nothing else. -/
def SetsLineAt (s : Recording) (t : ThreadId) (guard : Nat) (line : UInt32) (n : Nat) : Prop :=
  (∀ u, (s.step t (.setLine guard line)).registry.depth? u = s.registry.depth? u) ∧
  ∀ caller u, (s.step t (.setLine guard line)).registry.readings caller u =
    if u = t then
      (s.registry.readings caller u).map fun reading =>
        (reading.1.modify n fun f => { f with line := line }, reading.2)
    else s.registry.readings caller u

/-- No stack has become deeper or less deep, and reading any thread gives the same. -/
def Untouched (s s' : Recording) : Prop :=
  (∀ u, s'.registry.depth? u = s.registry.depth? u) ∧
  ∀ caller u, s'.registry.readings caller u = s.registry.readings caller u

end Recording

/-! ### The visible frames after an operation -/

namespace CutStack

/-- The innermost frame is the first of those that can be read. -/
theorem visible_setLine (s : CutStack) (line : UInt32) :
    (s.setLine line).visible = s.visible.modify 0 fun f => { f with line := line } := by
  obtain ⟨frames, cut⟩ := s
  obtain rfl | ⟨init, f, rfl⟩ := List.eq_nil_or_concat' frames
  · simp [visible, setLine]
  · have hframes : (setLine ⟨init ++ [f], cut⟩ line).frames = init ++ [{ f with line := line }] := by
      have hlt : init.length < (init ++ [f]).length := by simp
      simp [setLine, List.modify_eq_take_cons_drop hlt]
    rw [visible, visible, hframes]
    change ((init ++ [{ f with line := line }]).drop cut).reverse = _
    by_cases hcut : cut ≤ init.length
    · simp [List.drop_append_of_le_length hcut]
    · rw [List.drop_eq_nil_of_le (by simp; omega), List.drop_eq_nil_of_le (by simp; omega)]
      rfl

@[simp] theorem fst_reading (s : CutStack) : s.reading.1 = s.visible := rfl

theorem reading_setLine (s : CutStack) (line : UInt32) :
    (s.setLine line).reading =
      (s.visible.modify 0 fun f => { f with line := line }, s.reading.2) :=
  Prod.ext (visible_setLine s line) rfl

@[simp] theorem length_setLine (s : CutStack) (line : UInt32) :
    (s.setLine line).frames.length = s.frames.length := by
  simp [setLine]

/-- Leaving a frame changes something, unless there is none. -/
theorem leave_same_iff {s : CutStack} (hcut : s.cut ≤ s.frames.length) :
    (s.leave.frames.length, s.leave.reading) = (s.frames.length, s.reading) ↔ s.frames = [] := by
  constructor
  · intro h
    have hlength : s.leave.frames.length = s.frames.length := congrArg Prod.fst h
    rw [leave, List.length_dropLast] at hlength
    exact List.eq_nil_of_length_eq_zero (by omega)
  · intro hnil
    have hzero : s.cut = 0 := by simpa [hnil] using hcut
    have hleave : s.leave = s := by
      obtain ⟨frames, cut⟩ := s
      obtain rfl : frames = [] := hnil
      obtain rfl : cut = 0 := hzero
      rfl
    rw [hleave]

/-- Whatever keeps the innermost frame does not set every line in it, unless there is none. -/
theorem eq_nil_of_head_kept {frames : List Frame} {others : UInt32 → List Frame}
    (hhead : ∀ line, (others line).head? = frames.head?)
    (h : ∀ line, (frames.modify 0 fun f => { f with line := line }) = others line) :
    frames = [] := by
  cases frames with
  | nil => rfl
  | cons f rest =>
    have hset := congrArg List.head? (h (f.line + 1))
    rw [hhead] at hset
    have hline : f.line + 1 = f.line := congrArg Frame.line (Option.some.inj hset)
    simp at hline

/-- A line that is set in two places at once tells them apart, unless there is no place at all. -/
theorem modify_line_iff (frames : List Frame) (n : Nat) :
    (∀ line : UInt32, (frames.modify 0 fun f => { f with line := line }) =
        frames.modify n fun f => { f with line := line }) ↔ n = 0 ∨ frames = [] := by
  constructor
  · intro h
    cases n with
    | zero => exact .inl rfl
    | succ n => exact .inr (eq_nil_of_head_kept (fun _ => by cases frames <;> rfl) h)
  · rintro (rfl | rfl) line <;> simp

/-- A line that is set changes something, unless there is no place for it. -/
theorem modify_eq_self_iff (frames : List Frame) :
    (∀ line : UInt32, (frames.modify 0 fun f => { f with line := line }) = frames) ↔
      frames = [] := by
  constructor
  · exact eq_nil_of_head_kept fun _ => rfl
  · rintro rfl line
    simp

end CutStack

namespace Recording

variable {s : Recording} {accounts : ThreadId → Account} {t : ThreadId}

/-! ### Depths and readings by the accounts -/

theorem Kept.readings_eq (h : s.Kept accounts) (caller : Option ThreadId) (u : ThreadId) :
    s.registry.readings caller u = (accounts u).stack.toList.map CutStack.reading :=
  Registry.readings_eq h.wellFormed (h.shows u)

theorem Kept.depth?_eq (h : s.Kept accounts) (u : ThreadId) :
    s.registry.depth? u = (accounts u).stack.map fun stack => stack.frames.length := by
  have hshows := h.shows u
  rw [Registry.depth?]
  generalize s.registry.ringOf? u = ring? at hshows
  generalize (accounts u).stack = stack? at hshows
  cases hshows with
  | none => rfl
  | some hs => exact congrArg some hs.depth_eq

theorem Kept.blank_iff (h : s.Kept accounts) (t : ThreadId) :
    s.registry.Blank t ↔ ∀ stack ∈ (accounts t).stack, stack.visible = [] := by
  simp only [Registry.Blank, h.readings_eq]
  cases (accounts t).stack <;> simp [CutStack.reading]

/-- The same depths and the same readings are the same stacks, as far as a reader can tell. -/
theorem same_stack_iff {stack stack' : Option CutStack} :
    ((stack'.map fun s => s.frames.length) = (stack.map fun s => s.frames.length) ∧
        stack'.toList.map CutStack.reading = stack.toList.map CutStack.reading) ↔
      (stack'.map fun s => (s.frames.length, s.reading)) =
        stack.map fun s => (s.frames.length, s.reading) := by
  cases stack <;> cases stack' <;> simp

/-- An action leaves everything untouched if the stack of its thread has the same depth as before
and reads the same. -/
theorem Kept.untouched_iff (h : s.Kept accounts) {a : ThreadAction} (ha : s.refuses t a = false) :
    s.Untouched (s.step t a) ↔
      (((accounts t).step a).stack.map fun stack => (stack.frames.length, stack.reading)) =
        (accounts t).stack.map fun stack => (stack.frames.length, stack.reading) := by
  have h' := h.step ha
  rw [← same_stack_iff]
  simp only [Untouched, h'.depth?_eq, h.depth?_eq, h'.readings_eq, h.readings_eq]
  constructor
  · rintro ⟨hdepth, hreadings⟩
    have hdepth := hdepth t
    have hreadings := hreadings none t
    rw [Function.update_self] at hdepth hreadings
    exact ⟨hdepth, hreadings⟩
  · rintro ⟨hdepth, hreadings⟩
    refine ⟨fun u => ?_, fun _ u => ?_⟩
    all_goals
      by_cases hu : u = t
      · subst hu
        rwa [Function.update_self]
      · rw [Function.update_of_ne hu]

/-- Through a guard that has recorded a frame, the line is set in the innermost frame. -/
theorem Kept.setsLineAt_iff (h : s.Kept accounts) {i : Nat}
    (hg : (accounts t).guards[i]? = some true) (line : UInt32) (n : Nat) :
    s.SetsLineAt t i line n ↔ ∀ stack ∈ (accounts t).stack,
      (stack.visible.modify 0 fun f => { f with line := line }) =
        stack.visible.modify n fun f => { f with line := line } := by
  have h' := h.step (t := t) (a := .setLine i line) (by simp [refuses])
  have hstep : ((accounts t).step (.setLine i line)).stack =
      (accounts t).stack.map (CutStack.setLine · line) := by
    simp [Account.step, hg]
  simp only [SetsLineAt, h'.depth?_eq, h.depth?_eq, h'.readings_eq, h.readings_eq]
  constructor
  · rintro ⟨-, hreadings⟩ stack hstack
    have hstack : (accounts t).stack = some stack := hstack
    have hreadings := hreadings none t
    rw [Function.update_self, if_pos rfl, hstep, hstack] at hreadings
    simpa [CutStack.reading_setLine] using hreadings
  · intro hsame
    refine ⟨fun u => ?_, fun _ u => ?_⟩
    · by_cases hu : u = t
      · subst hu
        rw [Function.update_self, hstep]
        simp [Function.comp_def, CutStack.setLine]
      · rw [Function.update_of_ne hu]
    · by_cases hu : u = t
      · subst hu
        rw [Function.update_self, if_pos rfl, hstep]
        cases hstack : (accounts u).stack with
        | none => rfl
        | some stack => simp [CutStack.reading_setLine, hsame stack hstack]
      · rw [Function.update_of_ne hu, if_neg hu]

/-! ### Guards of the present registration -/

/-- The frames that can be read have the codes of the innermost tickets. -/
theorem code_of_reading {actions : List (ThreadId × ThreadAction)} {n : Nat} {g : Ticket}
    (hg : (ledger t actions).frames.reverse[n]? = some g) {caller : Option ThreadId}
    {reading : List Frame × Bool}
    (hreading : reading ∈ (initial.run actions).registry.readings caller t) {f : Frame}
    (hf : reading.1[n]? = some f) : f.code = g.code := by
  have hcodes := (agrees_account t actions).codes
  rw [(kept_account actions).readings_eq] at hreading
  cases hstack : (account t actions).stack with
  | none => simp [hstack] at hreading
  | some stack =>
    obtain rfl : reading = stack.reading := by simpa [hstack] using hreading
    have hf : stack.frames.reverse[n]? = some f := by
      rw [CutStack.fst_reading, CutStack.visible, List.reverse_drop, List.getElem?_take] at hf
      split at hf
      · exact hf
      · cases hf
    have hcode := congrArg (fun codes : List CodeLocation => codes.reverse[n]?) hcodes
    simpa [Account.frames, hstack, ← List.map_reverse, hf, hg] using hcode

theorem stack_of_current {actions : List (ThreadId × ThreadAction)} {g : Ticket}
    (hnow : g.IsCurrent (ledger t actions).registration) :
    ∃ stack, (account t actions).stack = some stack :=
  Option.isSome_iff_exists.mp ((agrees_account t actions).registered.trans hnow.1)

theorem guard_of_ticket {actions : List (ThreadId × ThreadAction)} {i : Nat} {g : Ticket}
    (hg : (ledger t actions).guards[i]? = some g) :
    (account t actions).guards[i]? = some g.pushed := by
  rw [(agrees_account t actions).guards, List.getElem?_map, hg]
  rfl

/-- For guards that are dropped in reverse order of creation: a guard of the present registration has
its frame on the stack, but what a line is set in is the innermost frame. So setting a line through
the guard sets it in the frame that the guard was made for, and nowhere else, exactly if that frame
is the innermost one, or no frame can be read at all. -/
theorem setLine_own_iff (actions : List (ThreadId × ThreadAction)) (t : ThreadId)
    (horder : Ledger.initial.InOrder (initial.own t actions)) {i : Nat} {g : Ticket}
    (hg : (ledger t actions).guards[i]? = some g)
    (hnow : g.IsCurrent (ledger t actions).registration) :
    (∀ line, (initial.run actions).SetsLineAt t i line 0) ∧
      ∃ n, (∀ m, (ledger t actions).frames.reverse[m]? = some g ↔ m = n) ∧
        (∀ caller, ∀ reading ∈ (initial.run actions).registry.readings caller t,
          ∀ f, reading.1[n]? = some f → f.code = g.code) ∧
        ((∀ line, (initial.run actions).SetsLineAt t i line n) ↔
          n = 0 ∨ (initial.run actions).registry.Blank t) := by
  have hpushed : (account t actions).guards[i]? = some true := by
    rw [guard_of_ticket hg, Ticket.pushed, hnow.2]
    exact congrArg some hnow.1
  have hsets (line : UInt32) (n : Nat) := (kept_account actions).setsLineAt_iff hpushed line n
  have hmem : g ∈ (ledger t actions).frames.reverse := by
    have hsublist := Ledger.current_sublist_frames Ledger.wellKept_initial horder (List.Sublist.refl _)
    have hcurrent : g ∈ (ledger t actions).current :=
      List.mem_filter.mpr ⟨List.mem_of_getElem? hg, decide_eq_true hnow⟩
    exact List.mem_reverse.mpr (hsublist.subset hcurrent)
  obtain ⟨n, hn⟩ := List.mem_iff_getElem?.mp hmem
  have hlt : n < (ledger t actions).frames.reverse.length := (List.getElem?_eq_some_iff.mp hn).1
  have hnodup := List.nodup_reverse.mpr (wellKept_ledger t actions).nodup
  refine ⟨fun line => (hsets line 0).mpr fun _ _ => rfl, n, fun m => ?_, ?_, ?_⟩
  · rw [← hn, eq_comm, List.getElem?_inj hlt hnodup, eq_comm]
  · exact fun caller reading hreading f hf => code_of_reading hn hreading hf
  · obtain ⟨stack, hstack⟩ := stack_of_current hnow
    have hblank := (kept_account actions).blank_iff t
    simp only [hsets, hblank, hstack, Option.mem_some_iff, forall_eq']
    exact CutStack.modify_line_iff stack.visible n

/-- A thread in a frame that it has entered from another one. -/
def nested : List (ThreadId × ThreadAction) :=
  [(1, .register), (1, .enter ⟨⟨"outer", "a.py"⟩, 1⟩), (1, .enter ⟨⟨"inner", "a.py"⟩, 2⟩)]

theorem setLine_own_iff_nested :
    ¬ (∀ line, (initial.run nested).SetsLineAt 1 0 line 1) ∧
      ∀ line, (initial.run nested).SetsLineAt 1 1 line 0 := by
  have horder : Ledger.initial.InOrder (initial.own 1 nested) := by decide +kernel
  have houter : (ledger 1 nested).guards[0]? = some ⟨0, some 0, ⟨"outer", "a.py"⟩⟩ := by
    decide +kernel
  have hinner : (ledger 1 nested).guards[1]? = some ⟨1, some 0, ⟨"inner", "a.py"⟩⟩ := by
    decide +kernel
  obtain ⟨-, n, hn, -, hiff⟩ := setLine_own_iff nested 1 horder houter (by decide +kernel)
  obtain rfl : 1 = n := (hn 1).mp (by decide +kernel)
  refine ⟨fun hall => ?_, (setLine_own_iff nested 1 horder hinner (by decide +kernel)).1⟩
  obtain hzero | hblank := hiff.mp hall
  · cases hzero
  · exact absurd (hblank none) (by decide +kernel)

/-- Setting a line through a guard can leave the frame of the guard alone and set the line of
another one: that of a frame that was entered later. -/
theorem exists_other_line_set :
    ¬ ∀ (actions : List (ThreadId × ThreadAction)) (t : ThreadId),
      Ledger.initial.InOrder (initial.own t actions) → ∀ i g n,
        (ledger t actions).guards[i]? = some g → g.IsCurrent (ledger t actions).registration →
        (ledger t actions).frames.reverse[n]? = some g →
        ∀ line, (initial.run actions).SetsLineAt t i line n := by
  intro hall
  have hsets := hall nested 1 (by decide +kernel) 0 ⟨0, some 0, ⟨"outer", "a.py"⟩⟩ 1
    (by decide +kernel) (by decide +kernel) (by decide +kernel) 9
  exact absurd (hsets.2 none 1) (by decide +kernel)

/-! ### Guards of earlier registrations -/

/-- Setting a line through a guard changes nothing exactly if the guard has recorded no frame, or no
frame can be read. -/
theorem untouched_setLine_iff {actions : List (ThreadId × ThreadAction)} {i : Nat} {g : Ticket}
    (hg : (ledger t actions).guards[i]? = some g) :
    (∀ line, (initial.run actions).Untouched ((initial.run actions).step t (.setLine i line))) ↔
      ¬ g.pushed ∨ (initial.run actions).registry.Blank t := by
  have hguard := guard_of_ticket hg
  have hk := kept_account actions
  have huntouched (line : UInt32) := hk.untouched_iff (t := t) (a := .setLine i line) (by simp [refuses])
  simp only [huntouched, hk.blank_iff]
  cases hpushed : g.pushed with
  | false => simp [Account.step, hguard, hpushed]
  | true =>
    have hstep (line : UInt32) : ((account t actions).step (.setLine i line)).stack =
        (account t actions).stack.map (CutStack.setLine · line) := by
      simp [Account.step, hguard, hpushed]
    cases hstack : (account t actions).stack with
    | none => simp [hstep, hstack]
    | some stack =>
      have hview (line : UInt32) : (stack.setLine line).reading = stack.reading ↔
          (stack.visible.modify 0 fun f => { f with line := line }) = stack.visible := by
        rw [CutStack.reading_setLine, Prod.ext_iff]
        simp
      simpa [hstep, hstack, hview] using CutStack.modify_eq_self_iff stack.visible

/-- Dropping a guard changes nothing exactly if the guard has recorded no frame, or there is none on
the stack. -/
theorem untouched_drop_iff {actions : List (ThreadId × ThreadAction)} {i : Nat} {g : Ticket}
    (hg : (ledger t actions).guards[i]? = some g) :
    (initial.run actions).Untouched ((initial.run actions).step t (.drop i)) ↔
      ¬ g.pushed ∨ (ledger t actions).frames = [] := by
  have hguard := guard_of_ticket hg
  have hk := kept_account actions
  have hframes : (account t actions).frames = [] ↔ (ledger t actions).frames = [] := by
    rw [← List.map_eq_nil_iff (f := Frame.code), (agrees_account t actions).codes, List.map_eq_nil_iff]
  rw [hk.untouched_iff (t := t) (a := .drop i) (by simp [refuses]), ← hframes, Account.frames]
  cases hpushed : g.pushed with
  | false => simp [Account.step, hguard, hpushed]
  | true =>
    have hstep : ((account t actions).step (.drop i)).stack =
        (account t actions).stack.map CutStack.leave := by
      simp [Account.step, hguard, hpushed]
    rw [hstep]
    have hshows := hk.shows t
    cases hstack : (account t actions).stack with
    | none => simp
    | some stack =>
      generalize (initial.run actions).registry.ringOf? t = ring? at hshows
      rw [hstack] at hshows
      cases hshows with
      | some hs => simpa using CutStack.leave_same_iff hs.cut_le

theorem blank_of_frames_eq_nil {actions : List (ThreadId × ThreadAction)}
    (h : (ledger t actions).frames = []) : (initial.run actions).registry.Blank t := by
  have hcodes := (agrees_account t actions).codes
  rw [(kept_account actions).blank_iff]
  intro stack hstack
  have hstack : (account t actions).stack = some stack := hstack
  have hnil : stack.frames = [] := by simpa [h, Account.frames, hstack] using hcodes
  simp [CutStack.visible, hnil]

/-- A condition on all guards that were not made in the present registration. -/
theorem outlived_iff {guards : List Ticket} {now : Option Nat} {idle : Prop} :
    (∀ (i : Nat) (g : Ticket), guards[i]? = some g → ¬ g.IsCurrent now → ¬ g.pushed ∨ idle) ↔
      idle ∨ ∀ g ∈ guards, g.pushed → g.IsCurrent now := by
  constructor
  · intro h
    by_contra! hne
    obtain ⟨hidle, g, hg, hpushed, hold⟩ := hne
    obtain ⟨i, hi⟩ := List.mem_iff_getElem?.mp hg
    exact (h i g hi hold).elim (fun hnot => hnot hpushed) hidle
  · rintro (hidle | hall) i g hg hold
    · exact .inr hidle
    · exact .inl fun hpushed => hold (hall g (List.mem_of_getElem? hg) hpushed)

/-- Guards that were not made in the present registration of their thread leave a frame and set a
line like any others, as long as their thread was registered when they were made. So all of them
are without effect exactly if there is no frame on the stack, or none of them has recorded one. To
set a line through them is without effect also if no frame can be read. -/
theorem inert_iff (actions : List (ThreadId × ThreadAction)) (t : ThreadId) :
    ((∀ i g, (ledger t actions).guards[i]? = some g →
        ¬ g.IsCurrent (ledger t actions).registration →
        (∀ line, (initial.run actions).Untouched
            ((initial.run actions).step t (.setLine i line))) ∧
          (initial.run actions).Untouched ((initial.run actions).step t (.drop i))) ↔
      (ledger t actions).frames = [] ∨
        ∀ g ∈ (ledger t actions).guards, g.pushed → g.IsCurrent (ledger t actions).registration) ∧
    ((∀ i g, (ledger t actions).guards[i]? = some g →
        ¬ g.IsCurrent (ledger t actions).registration →
        ∀ line, (initial.run actions).Untouched
          ((initial.run actions).step t (.setLine i line))) ↔
      (initial.run actions).registry.Blank t ∨
        ∀ g ∈ (ledger t actions).guards, g.pushed → g.IsCurrent (ledger t actions).registration) := by
  rw [← outlived_iff, ← outlived_iff]
  refine ⟨forall₄_congr fun i g hg _ => ?_,
    forall₄_congr fun i g hg _ => untouched_setLine_iff hg⟩
  rw [untouched_setLine_iff hg, untouched_drop_iff hg, ← or_and_left]
  exact or_congr_right (and_iff_right_of_imp blank_of_frames_eq_nil)

/-- A thread that registers again while it holds a guard of its first registration. -/
def returned : List (ThreadId × ThreadAction) :=
  [(1, .register), (1, .enter ⟨⟨"old", "a.py"⟩, 1⟩), (1, .unregister), (1, .register),
    (1, .enter ⟨⟨"new", "a.py"⟩, 2⟩)]

/-- A guard of an earlier registration can set the line of a frame of the present one. -/
theorem exists_guard_astray :
    ¬ ∀ (actions : List (ThreadId × ThreadAction)) (t : ThreadId) (i : Nat) (g : Ticket),
      (ledger t actions).guards[i]? = some g → ¬ g.IsCurrent (ledger t actions).registration →
      (∀ line, (initial.run actions).Untouched ((initial.run actions).step t (.setLine i line))) ∧
        (initial.run actions).Untouched ((initial.run actions).step t (.drop i)) := by
  intro hall
  have hinert := hall returned 1 0 ⟨0, some 0, ⟨"old", "a.py"⟩⟩ (by decide +kernel)
    (by decide +kernel)
  exact absurd ((hinert.1 9).2 none 1) (by decide +kernel)

end Recording

end CrashTrace
