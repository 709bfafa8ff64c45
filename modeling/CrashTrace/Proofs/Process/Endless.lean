import CrashTrace.Proofs.Process.BrokenPipe

/-!
# Deliveries without an end

Two ways in which a dumping handler sets itself off for ever. It chains for a signal that is not
registered any more, so there is no saved action to give way to; or it dumps for the signal of a
broken pipe to a broken pipe, and the signal waits until the guard has been given back.

## Main definitions

- `Process.Abandoned` — a handler that chains is in force for a signal that is not registered
- `Process.Echoes` — a dump for the signal of a broken pipe sends that signal again

## Main results

- `Process.Abandoned.raise`, `Process.Echoes.raise` — no budget is enough
-/

namespace CrashTrace

namespace Process

variable {p : Process} {s : Signal} {caller : Option ThreadId}

/-- The dumping handler is in force and chains, but its signal is not registered. -/
structure Abandoned (s : Signal) (p : Process) : Prop where
  action : (p.actions.get s).disposition = .handled .dump
  noDefer : (p.actions.get s).flags.noDefer
  chain : (p.userSignal s).chain
  unmarked : (p.userSignal s).saved.installed = false
  target : (p.userSignal s).target.load? = none

/-- The dumps for the signal of a broken pipe go to a broken pipe, and the signal is blocked
meanwhile. -/
structure Echoes (caller : Option ThreadId) (p : Process) : Prop where
  action : (p.actions.get Signal.pipe).disposition = .handled .dump
  deferred : ¬ (p.actions.get Signal.pipe).flags.noDefer
  unchained : (p.userSignal Signal.pipe).chain = false
  target : ∃ fd allThreads, (p.userSignal Signal.pipe).target.load? = some (fd, allThreads) ∧
    p.descriptors.Broken fd ∧ (p.dumpPieces caller allThreads).text ≠ []
  dumping : p.dumping = Exclusion.free

/-- The handler raises its signal, and that sets it off once more. -/
theorem Abandoned.raise (h : Abandoned s p) (hreserved : s.reserved = false)
    (hfree : s ∉ p.blocked) (caller : Option ThreadId) (budget : Nat) :
    Process.raise caller budget s p = .unfinished := by
  induction budget with
  | zero => rfl
  | succ budget ih =>
    have hdump : dumpForSignal (Process.raise caller budget) caller s p = .returned () p := by
      unfold dumpForSignal
      rw [Run.state_bind, h.target]
      rfl
    have hback : p.reinstate (p.userSignal s).saved s = p := by
      unfold reinstate
      rw [if_neg (by simp [h.unmarked])]
    have hpass : passOn (Process.raise caller budget) s p = .unfinished := by
      unfold passOn
      rw [Run.state_bind, if_pos h.chain, Run.change_bind, hback, Run.bind_apply, ih]
    have hhandle : handleDump (Process.raise caller budget) caller s p = .unfinished :=
      (Run.bind_of_returned hdump fun _ => passOn _ _).trans hpass
    rw [raise_free hreserved hfree]
    unfold takePlace invoke
    rw [Run.state_bind, h.action]
    dsimp only [handle]
    rw [Run.state_bind, Run.change_bind, if_pos h.noDefer, Run.bind_apply, hhandle]

-- ════════════════════════════════════════════════════════════════════════
-- Echoes
-- ════════════════════════════════════════════════════════════════════════

/-- The signal that a write to a broken pipe sends waits. -/
theorem write_echoes {fd : Int} {text : Text} (hbroken : p.descriptors.Broken fd)
    (htext : text ≠ []) (hblocked : Signal.pipe ∈ p.blocked) (hpending : Signal.pipe ∉ p.pending)
    (caller : Option ThreadId) (budget : Nat) :
    write (raise caller budget) fd text p = .unfinished ∨
      ∃ result, write (raise caller budget) fd text p =
        .returned result { p with pending := p.pending ++ [Signal.pipe] } := by
  rw [write_of_broken (DescriptorTable.offer_eq_pipeBroken.mpr ⟨htext, hbroken⟩)]
  cases budget with
  | zero => exact .inl rfl
  | succ budget =>
    rw [Run.bind_of_returned (raise_kept hblocked hpending (.inl rfl))]
    exact .inr ⟨_, rfl⟩

/-- The dump leaves one arrival of the signal waiting, and gives the guard back. -/
theorem Echoes.handleDump (h : Echoes caller p) (hblocked : Signal.pipe ∈ p.blocked)
    (hpending : Signal.pipe ∉ p.pending) (budget : Nat) :
    handleDump (Process.raise caller budget) caller Signal.pipe p = .unfinished ∨
      Process.handleDump (Process.raise caller budget) caller Signal.pipe p =
        .returned () { p with pending := p.pending ++ [Signal.pipe] } := by
  obtain ⟨fd, allThreads, htarget, hbroken, htext⟩ := h.target
  have hdump : dumpForSignal (Process.raise caller budget) caller Signal.pipe p =
      (write (Process.raise caller budget) fd (p.dumpPieces caller allThreads).text >>= fun _ =>
        Run.change fun p => { p with dumping := p.dumping.release })
          { p with dumping := ⟨1⟩ } := by
    unfold dumpForSignal
    rw [Run.state_bind, htarget, h.dumping]
    rfl
  show (dumpForSignal _ caller Signal.pipe >>= fun _ => passOn _ Signal.pipe) p = _ ∨
    (dumpForSignal _ caller Signal.pipe >>= fun _ => passOn _ Signal.pipe) p = _
  obtain hused | ⟨result, hwritten⟩ := write_echoes (p := { p with dumping := ⟨1⟩ })
    hbroken htext hblocked hpending caller budget
  · left
    rw [Run.bind_apply, hdump, Run.bind_apply, hused]
  · right
    have hreturned : dumpForSignal (Process.raise caller budget) caller Signal.pipe p =
        .returned () { p with pending := p.pending ++ [Signal.pipe] } := by
      rw [hdump, Run.bind_of_returned hwritten, Run.change_apply]
      simp only [h.dumping]
      rfl
    exact (Run.bind_of_returned hreturned _).trans (passOn_unchained _ h.unchained)

/-- The arrival is delivered when the handler has returned, in the state in which the signal was
raised. -/
theorem Echoes.raise (h : Echoes caller p) (hfree : Signal.pipe ∉ p.blocked)
    (hpending : Signal.pipe ∉ p.pending) (budget : Nat) :
    Process.raise caller budget Signal.pipe p = .unfinished := by
  induction budget with
  | zero => rfl
  | succ budget ih =>
    have hblocking : Echoes caller { p with blocked := Signal.pipe :: p.blocked } :=
      ⟨h.action, h.deferred, h.unchained, h.target, h.dumping⟩
    rw [raise_free (by decide) hfree]
    unfold takePlace invoke
    rw [Run.state_bind, h.action]
    dsimp only [handle]
    rw [Run.state_bind, Run.change_bind, if_neg h.deferred]
    obtain hused | hreturned :=
      hblocking.handleDump List.mem_cons_self hpending budget
    · rw [Run.bind_apply, hused]
    · have herase : (p.pending ++ [Signal.pipe]).erase Signal.pipe = p.pending := by
        rw [List.erase_append_right _ hpending]
        simp
      rw [Run.bind_of_returned hreturned, Run.change_bind]
      unfold deliverPending
      rw [Run.state_bind, if_pos (by simp [hfree]), Run.change_bind]
      dsimp only
      rw [herase]
      exact ih

end Process

end CrashTrace
