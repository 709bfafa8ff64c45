import CrashTrace.Proofs.Process.Coherent

/-!
# The end by a fatal signal

The fault handler reports once in the life of a process, puts the action back that was there
before, and raises the signal again. If that action returns, the default one is set and the signal
raised a third time. So the process dies of the signal whatever was there before.

## Main definitions

- `DescriptorTable.Works`, `DescriptorTable.textOf` — a file that takes reports, and its text
- `Process.faultText` — the report on a fatal signal
- `Action.Quiet` — an action that ends the process, does nothing, or returns without raising

## Main results

- `Process.raise_fatal`
-/

namespace CrashTrace

namespace DescriptorTable

/-- The descriptor of standard error leads there. -/
def LeadsToErrors (t : DescriptorTable) (fd : Int) : Prop :=
  fd = Sink.errorDescriptor ∧ t.kind? fd = some .errors

instance (t : DescriptorTable) (fd : Int) : Decidable (t.LeadsToErrors fd) :=
  inferInstanceAs (Decidable (_ ∧ _))

/-- Standard error, or a file that can be written. -/
def Works (t : DescriptorTable) (fd : Int) : Prop :=
  t.LeadsToErrors fd ∨ t.kind? fd = some .file ∨ t.kind? fd = some .readWrite

/-- What the file of a descriptor has received, or standard error if the descriptor is its own. -/
def textOf (t : DescriptorTable) (fd : Int) : String :=
  if t.LeadsToErrors fd then t.standardError
  else ((t.file? fd).getD FileText.empty).all

variable {t : DescriptorTable} {fd : Int}

theorem leadsToErrors_congr {t u : DescriptorTable} (h : u.kinds = t.kinds) (fd : Int) :
    u.LeadsToErrors fd ↔ t.LeadsToErrors fd := by
  unfold LeadsToErrors kind?
  rw [h]

theorem not_leadsToErrors {kind : DescriptorKind} (h : t.kind? fd = some kind)
    (hkind : kind ≠ .errors) : ¬ t.LeadsToErrors fd := fun herrors =>
  hkind (Option.some.inj (h.symm.trans herrors.2))

theorem textOf_append (hfd : ¬ t.LeadsToErrors fd) (text : Text) :
    (t.append fd text).textOf fd = t.textOf fd ++ String.ofList text := by
  have hfd' : ¬ (t.append fd text).LeadsToErrors fd := hfd
  unfold textOf
  rw [if_neg hfd, if_neg hfd']
  unfold append file?
  dsimp only
  rw [Entries.find?_put, if_pos rfl]
  exact String.append_assoc.symm

theorem textOf_addErrors (hfd : t.LeadsToErrors fd) (text : Text) :
    (t.addErrors text).textOf fd = t.textOf fd ++ String.ofList text := by
  have hfd' : (t.addErrors text).LeadsToErrors fd := hfd
  unfold textOf
  rw [if_pos hfd, if_pos hfd']
  rfl

/-- A descriptor that works takes a text. It ends up at the end of what it leads to, and no other
descriptor shows it. -/
theorem offer_of_works (h : t.Works fd) (text : Text) :
    ∃ table, t.offer fd text = .taken table ∧
      table.textOf fd = t.textOf fd ++ String.ofList text ∧
      ∀ other, fd ≠ other → table.textOf other = t.textOf other := by
  unfold offer
  by_cases htext : text = []
  · subst htext
    exact ⟨t, if_pos rfl, String.append_empty.symm, fun _ _ => rfl⟩
  · rw [if_neg htext]
    have happend : ∀ other, fd ≠ other → (t.append fd text).textOf other = t.textOf other := by
      intro other hother
      have hkinds : (t.append fd text).LeadsToErrors other ↔ t.LeadsToErrors other := Iff.rfl
      unfold textOf
      simp only [hkinds]
      unfold append file?
      dsimp only
      rw [Entries.find?_put, if_neg hother]
    obtain herrors | hfile | hboth := h
    · rw [herrors.2]
      refine ⟨_, rfl, textOf_addErrors herrors text, fun other hother => ?_⟩
      have hother' : ¬ t.LeadsToErrors other := fun h => hother (herrors.1.trans h.1.symm)
      unfold textOf
      rw [if_neg hother', if_neg (show ¬ (t.addErrors text).LeadsToErrors other from hother')]
      rfl
    · rw [hfile]
      exact ⟨_, rfl, textOf_append (not_leadsToErrors hfile nofun) text, happend⟩
    · rw [hboth]
      exact ⟨_, rfl, textOf_append (not_leadsToErrors hboth nofun) text, happend⟩

/-- The table after a report has been offered, if there is one. -/
def reported (t : DescriptorTable) : Option (Int × Text) → DescriptorTable
  | none => t
  | some (fd, text) =>
    match t.offer fd text with
    | .taken table => table
    | .refused _ => t
    | .pipeBroken => t

theorem reported_of_taken {text : Text} {table : DescriptorTable}
    (h : t.offer fd text = .taken table) : t.reported (some (fd, text)) = table := by
  simp only [reported, h]

theorem offer_reported (h : t.Works fd) (text : Text) :
    t.offer fd text = .taken (t.reported (some (fd, text))) := by
  obtain ⟨table, hoffer, -, -⟩ := offer_of_works h text
  rw [reported_of_taken hoffer, hoffer]

theorem textOf_reported (h : t.Works fd) (text : Text) :
    (t.reported (some (fd, text))).textOf fd = t.textOf fd ++ String.ofList text := by
  obtain ⟨table, hoffer, htable, -⟩ := offer_of_works h text
  rw [reported_of_taken hoffer, htable]

/-- A text for one file or for standard error reaches no other one. -/
theorem textOf_reported_of_ne {other : Int} (h : t.Works fd) (hother : fd ≠ other)
    (text : Text) : (t.reported (some (fd, text))).textOf other = t.textOf other := by
  obtain ⟨table, hoffer, -, htable⟩ := offer_of_works h text
  rw [reported_of_taken hoffer, htable other hother]

theorem kinds_reported (t : DescriptorTable) (fd : Int) (text : Text) :
    (t.reported (some (fd, text))).kinds = t.kinds := by
  unfold reported offer
  by_cases htext : text = []
  · simp only [htext, if_true]
  · simp only [htext, if_false]
    cases t.kind? fd with
    | none => rfl
    | some kind => cases kind <;> rfl

theorem checkSink_congr {t u : DescriptorTable} (h : u.kinds = t.kinds) (fd : Int) :
    u.checkSink fd = t.checkSink fd := by
  unfold checkSink kind?
  rw [h]

theorem Works.congr {t u : DescriptorTable} {fd : Int} (h : u.kinds = t.kinds)
    (ht : t.Works fd) : u.Works fd := by
  unfold Works at ht ⊢
  rw [leadsToErrors_congr h]
  unfold kind? at ht ⊢
  rw [h]
  exact ht

/-- A pipe that nobody reads. -/
def Broken (t : DescriptorTable) (fd : Int) : Prop := t.kind? fd = some .broken

instance (t : DescriptorTable) (fd : Int) : Decidable (t.Broken fd) :=
  inferInstanceAs (Decidable (_ = _))

theorem broken_congr {t u : DescriptorTable} (h : u.kinds = t.kinds) (fd : Int) :
    u.Broken fd ↔ t.Broken fd := by
  unfold Broken kind?
  rw [h]

theorem offer_eq_pipeBroken {text : Text} :
    t.offer fd text = .pipeBroken ↔ text ≠ [] ∧ t.Broken fd := by
  unfold offer Broken
  by_cases htext : text = []
  · simp [htext]
  · simp only [htext, if_false, ne_eq, not_false_eq_true, true_and]
    cases t.kind? fd with
    | none => simp
    | some kind => cases kind <;> simp

end DescriptorTable

/-- The action ends the process, does nothing, or runs a handler of the observed program that
returns without raising anything. -/
def Action.Quiet (a : Action) : Prop :=
  a.disposition = .byDefault ∨ a.disposition = .ignored ∨
    a.disposition = .handled (.own .counts) ∨ a.disposition = .handled (.own .unregisters)

def Action.runsHandler (a : Action) : Bool :=
  match a.disposition with
  | .handled _ => true
  | _ => false

namespace Process

variable {p q : Process} {s : Signal} {name : String} {raise : Raise}
  {caller : Option ThreadId} {fd : Int} {allThreads : Bool}

-- ════════════════════════════════════════════════════════════════════════
-- The report
-- ════════════════════════════════════════════════════════════════════════

/-- The report on a fatal signal: its name, the phase of the interpreter unless it runs normally,
a blank line, the stacks, and the native modules if there are any. -/
def faultText (p : Process) (name : String) (caller : Option ThreadId) (allThreads : Bool) :
    Text :=
  "Fatal Python error: ".toList ++ name.toList ++ ['\n']
    ++ (if p.interpreter.phase = .initialized then []
      else "Python runtime state: ".toList ++ p.interpreter.phase.word.toList ++ ['\n'])
    ++ ['\n']
    ++ (Report.dump p.registry caller allThreads p.interpreter.collecting).text
    ++ (match p.interpreter.modulesLine? with
      | some line => '\n' :: line
      | none => [])

theorem text_phaseLine (i : Interpreter) :
    (Report.phaseLine i.unusualPhase?).text =
      (if i.phase = .initialized then []
        else "Python runtime state: ".toList ++ i.phase.word.toList ++ ['\n']) ++ ['\n'] := by
  unfold Report.phaseLine Interpreter.unusualPhase?
  generalize "Python runtime state: ".toList = title
  by_cases husual : i.phase = .initialized
  · rw [if_pos husual, if_pos husual]
    rfl
  · rw [if_neg husual, if_neg husual]
    simp only [Pieces.text_append, Pieces.text_cons, Pieces.text_nil, List.append_nil,
      List.append_assoc]

theorem text_modules (i : Interpreter) :
    (Report.modules i).text =
      match i.modulesLine? with
      | some line => '\n' :: line
      | none => [] := by
  unfold Report.modules
  cases i.modulesLine? with
  | none => rfl
  | some line =>
    simp only [Pieces.text_cons, Pieces.text_nil, List.append_nil, List.cons_append,
      List.nil_append]

theorem text_reportPieces (p : Process) (name : String) (caller : Option ThreadId)
    (allThreads : Bool) :
    (p.reportPieces (faultHeader name p) caller allThreads).text =
      p.faultText name caller allThreads := by
  unfold reportPieces faultHeader faultText dumpPieces Report.fatalHeader
  generalize "Fatal Python error: ".toList = title
  simp only [Pieces.text_append, Pieces.text_cons, text_phaseLine, text_modules,
    List.nil_append, List.append_assoc, List.cons_append]

/-- What the fault report would be if it were made now, and where it would go. -/
def report? (p : Process) (caller : Option ThreadId) (header : Process → Pieces) :
    Option (Int × Text) :=
  p.faults.target.load?.map fun target =>
    (target.1, (p.reportPieces (header p) caller target.2).text)

/-- The one fault report has been made, unless one was made before, and is used up. -/
def told (p : Process) (report : Option (Int × Text)) : Process :=
  { p with
    faults := { p.faults with spent := true }
    descriptors := if p.faults.spent then p.descriptors else p.descriptors.reported report }

theorem reportPieces_ne_nil {header : Pieces} (hheader : header.text ≠ []) (p : Process)
    (caller : Option ThreadId) (allThreads : Bool) :
    (p.reportPieces header caller allThreads).text ≠ [] := by
  unfold reportPieces
  rw [Pieces.text_append, Pieces.text_append]
  exact List.append_ne_nil_of_left_ne_nil (List.append_ne_nil_of_left_ne_nil hheader _) _

theorem faultHeader_ne_nil (name : String) (p : Process) : (faultHeader name p).text ≠ [] := by
  have htitle : "Fatal Python error: ".toList ≠ [] := by decide
  unfold faultHeader Report.fatalHeader
  rw [List.cons_append, List.cons_append, Pieces.text_cons]
  exact List.append_ne_nil_of_left_ne_nil htitle _

theorem reportFault_of_works (raise : Raise) (caller : Option ThreadId)
    (header : Process → Pieces)
    (hworks : p.faults.spent = false → ∀ fd allThreads,
      p.faults.target.load? = some (fd, allThreads) → p.descriptors.Works fd) :
    reportFault raise caller header p = .returned () (p.told (p.report? caller header)) := by
  unfold reportFault told
  rw [Run.state_bind]
  cases hspent : p.faults.spent with
  | true =>
    have hsame : ({ p.faults with spent := true } : FaultReporting) = p.faults := by
      rw [← hspent]
    rw [hsame]
    rfl
  | false =>
    rw [if_neg (by decide), if_neg (by decide), Run.change_bind]
    unfold report?
    cases htarget : p.faults.target.load? with
    | none => rfl
    | some target =>
      obtain ⟨fd, allThreads⟩ := target
      have hoffer : (p.changeFaults fun f => { f with spent := true }).descriptors.offer fd
          (p.reportPieces (header p) caller allThreads).text = .taken (p.descriptors.reported
            (some (fd, (p.reportPieces (header p) caller allThreads).text))) :=
        DescriptorTable.offer_reported (hworks hspent fd allThreads htarget) _
      have hwrite : write raise fd (p.reportPieces (header p) caller allThreads).text
          (p.changeFaults fun f => { f with spent := true }) =
            .returned (.ok ())
              { p with
                faults := { p.faults with spent := true }
                descriptors := p.descriptors.reported
                  (some (fd, (p.reportPieces (header p) caller allThreads).text)) } := by
        unfold write
        rw [Run.state_bind, hoffer]
        rfl
      dsimp only
      rw [Run.bind_of_returned hwrite]
      rfl

theorem reportNamed_told (raise : Raise) (caller : Option ThreadId)
    (hname : s.faultName? = some name)
    (hworks : p.faults.spent = false → ∀ fd allThreads,
      p.faults.target.load? = some (fd, allThreads) → p.descriptors.Works fd) :
    reportNamed raise caller s p =
      .returned () (p.told (p.report? caller (faultHeader name))) := by
  unfold reportNamed
  rw [hname]
  exact reportFault_of_works raise caller (faultHeader name) hworks

/-- The report is made if none was made before; from then on it is used up. -/
theorem textOf_told (caller : Option ThreadId) (name : String)
    (htarget : p.faults.target.load? = some (fd, allThreads)) (hworks : p.descriptors.Works fd) :
    (p.told (p.report? caller (faultHeader name))).descriptors.textOf fd =
      p.descriptors.textOf fd ++
        if p.faults.spent then "" else String.ofList (p.faultText name caller allThreads) := by
  have hreport : p.report? caller (faultHeader name) =
      some (fd, p.faultText name caller allThreads) := by
    rw [report?, htarget, Option.map_some, text_reportPieces]
  rw [hreport]
  unfold told
  cases p.faults.spent with
  | true => exact (String.append_empty).symm
  | false => exact DescriptorTable.textOf_reported hworks _

-- ════════════════════════════════════════════════════════════════════════
-- The previous action
-- ════════════════════════════════════════════════════════════════════════

def callsAfter (p : Process) (s : Signal) (a : Action) : SignalTable Nat :=
  match a.disposition with
  | .handled _ => p.calls.put s (p.calls.get s + 1)
  | _ => p.calls

theorem callsAfter_get (p : Process) (s u : Signal) (a : Action) :
    (p.callsAfter s a).get u = p.calls.get u + if s = u ∧ a.runsHandler then 1 else 0 := by
  obtain ⟨disposition, flags⟩ := a
  cases disposition with
  | byDefault => simp [callsAfter, Action.runsHandler]
  | ignored => simp [callsAfter, Action.runsHandler]
  | handled k =>
    simp only [callsAfter, Action.runsHandler, SignalTable.get_put]
    by_cases hu : s = u
    · subst hu
      simp
    · simp [hu]

theorem deliverPending_absent (h : s ∉ p.pending) : deliverPending raise s p = .returned () p := by
  unfold deliverPending
  rw [Run.state_bind, if_neg (by simp [h])]
  rfl

theorem unregister_fatal (hs : s.faultName?.isSome) : (p.unregister s.number).2 = p := by
  have hpos : s.val ≠ 0 := by
    intro hzero
    obtain rfl : s = 0 := Fin.ext hzero
    exact absurd hs (by decide)
  have hfatal : Signal.registrable s.number = .error (.fatalSignal s.number) := by
    unfold Signal.registrable
    rw [Signal.ofInt?_number hpos]
    exact if_pos hs
  unfold unregister
  rw [hfatal]

/-- A handler of the observed program has run: its call is counted, and it may have unregistered
its signal. -/
def ran (p : Process) (s : Signal) (k : OwnHandler) : Process :=
  let counted := { p with calls := p.calls.put s (p.calls.get s + 1) }
  match k with
  | .unregisters => (counted.unregister s.number).2
  | _ => counted

/-- Unregistering refuses a fatal signal, so every handler of one only counts. -/
theorem ran_fatal (hs : s.faultName?.isSome) (p : Process) (k : OwnHandler) :
    p.ran s k = { p with calls := p.calls.put s (p.calls.get s + 1) } := by
  unfold ran
  cases k with
  | unregisters => exact unregister_fatal hs
  | _ => rfl

/-- A handler that returns without raising anything. What is blocked while it runs does not matter,
and nothing is left to deliver afterwards. -/
theorem invoke_own (hpending : s ∉ p.pending) {k : OwnHandler}
    (hk : k = .counts ∨ k = .unregisters) (sent : Bool) (flags : ActionFlags) :
    invoke raise caller s sent flags (.own k) p = .returned () (p.ran s k) := by
  unfold invoke
  rw [Run.state_bind, Run.change_bind]
  dsimp only [handle]
  obtain rfl | rfl := hk
  · exact deliverPending_absent hpending
  · set counted : Process := { p with calls := p.calls.put s (p.calls.get s + 1) } with hcounted
    have hran : handleOwn raise s .unregisters
        { p with blocked := if flags.noDefer then p.blocked else s :: p.blocked } =
          .returned () { (counted.unregister s.number).2 with
            blocked := if flags.noDefer then p.blocked else s :: p.blocked } := by
      rw [← unregister_withBlocked]
      rfl
    have hblocked : (counted.unregister s.number).2.blocked = p.blocked := by
      obtain ⟨actions, pending, userSignals, log, h, -⟩ := counted.exists_unregister s.number
      rw [h]
    rw [Run.bind_of_returned hran, Run.change_bind, ← hblocked]
    exact deliverPending_absent fun hmem =>
      hpending ((counted.unregister_pending s.number).subset hmem)

/-- A quiet action of a fatal signal ends the process by the signal or returns. -/
theorem raise_quiet (hs : s.faultName?.isSome) (hfree : s ∉ p.blocked) (hpending : s ∉ p.pending)
    (hquiet : (p.actions.get s).Quiet) (caller : Option ThreadId) (budget : Nat) :
    let q := { p with calls := p.callsAfter s (p.actions.get s) }
    Process.raise caller (budget + 1) s p = .ended (.signal s) q ∨
      Process.raise caller (budget + 1) s p = .returned () q := by
  intro q
  rw [raise_free (Signal.not_reserved_of_fault s hs) hfree]
  unfold takePlace
  rw [Run.state_bind]
  obtain haction | haction | haction | haction := hquiet
  · have hcalls : q = p := by
      simp only [q, callsAfter, haction]
    rw [haction, hcalls]
    dsimp only
    rw [if_neg (by simp [Signal.not_ignored_of_fault s hs])]
    exact .inl rfl
  · have hcalls : q = p := by
      simp only [q, callsAfter, haction]
    rw [haction, hcalls]
    exact .inr rfl
  · have hcalls : q = { p with calls := p.calls.put s (p.calls.get s + 1) } := by
      simp only [q, callsAfter, haction]
    rw [haction, hcalls, ← ran_fatal hs p .counts]
    exact .inr (invoke_own hpending (.inl rfl) true _)
  · have hcalls : q = { p with calls := p.calls.put s (p.calls.get s + 1) } := by
      simp only [q, callsAfter, haction]
    rw [haction, hcalls, ← ran_fatal hs p .unregisters]
    exact .inr (invoke_own hpending (.inr rfl) true _)

-- ════════════════════════════════════════════════════════════════════════
-- The end
-- ════════════════════════════════════════════════════════════════════════

theorem uninstallFault_get (hs : s.faultName?.isSome)
    (hmark : (p.faults.saved.get s).installed) :
    (p.uninstallFault s).actions.get s = (p.faults.saved.get s).previous := by
  rw [uninstallFault_eq]
  show (p.reinstate (p.faults.saved.get s) s).actions.get s = _
  rw [reinstate_get, if_pos ⟨rfl, Signal.changeable_of_fault s hs, hmark⟩]

theorem uninstallFault_calls (p : Process) (s : Signal) : (p.uninstallFault s).calls = p.calls := by
  rw [uninstallFault_eq]
  obtain ⟨actions, pending, hreinstate, -⟩ := p.exists_reinstate s (p.faults.saved.get s)
  rw [hreinstate]
  rfl

theorem uninstallFault_descriptors (p : Process) (s : Signal) :
    (p.uninstallFault s).descriptors = p.descriptors := by
  rw [uninstallFault_eq]
  obtain ⟨actions, pending, hreinstate, -⟩ := p.exists_reinstate s (p.faults.saved.get s)
  rw [hreinstate]
  rfl

/-- Whatever a quiet action does, the process dies of the signal. The action is raised from inside
the handler, and the default one after it if it returns. -/
theorem handleFault_ends (hs : s.faultName?.isSome) (hfree : s ∉ p.blocked)
    (hpending : s ∉ p.pending) (hmark : (p.faults.saved.get s).installed)
    (hquiet : (p.faults.saved.get s).previous.Quiet) {r : Process} {budget : Nat}
    (hreport : reportNamed (Process.raise caller (budget + 1)) caller s p = .returned () r)
    (hr : Alike p r) (hcalls : r.calls = p.calls) :
    ∃ q, handleFault (Process.raise caller (budget + 1)) caller s true p =
        .ended (.signal s) q ∧
      q.calls = p.callsAfter s (p.faults.saved.get s).previous ∧
      q.descriptors = r.descriptors := by
  rw [handleFault_eq, Run.bind_of_returned hreport, Run.change_bind, if_pos hs]
  have hrmark : (r.faults.saved.get s).installed := by
    rw [hr.saved]
    exact hmark
  have haction : (r.uninstallFault s).actions.get s = (p.faults.saved.get s).previous := by
    rw [uninstallFault_get hs hrmark, hr.saved]
  have hblocked : s ∉ (r.uninstallFault s).blocked := by
    rw [(Undisturbed.uninstallFault r s).blocked, hr.blocked]
    exact hfree
  have hpending' : s ∉ (r.uninstallFault s).pending := by
    intro hmem
    have hmem := (r.uninstallFault_pending s).subset hmem
    rw [hr.pending] at hmem
    exact hpending hmem
  have hcalls' : (r.uninstallFault s).calls = p.calls := (r.uninstallFault_calls s).trans hcalls
  have hdescriptors := r.uninstallFault_descriptors s
  have hafter : (r.uninstallFault s).callsAfter s (p.faults.saved.get s).previous =
      p.callsAfter s (p.faults.saved.get s).previous := by
    unfold callsAfter
    rw [hcalls']
  obtain hended | hreturned := raise_quiet hs hblocked hpending'
    (by rw [haction]; exact hquiet) caller budget
  · rw [Run.bind_of_ended hended]
    exact ⟨_, rfl, by rw [haction]; exact hafter, hdescriptors⟩
  · rw [Run.bind_of_returned hreturned, if_pos rfl, Run.change_bind]
    rw [raise_default (Signal.not_reserved_of_fault s hs) (Signal.not_ignored_of_fault s hs)
      (by rw [trySetAction_blocked]; exact hblocked) ?_ caller budget]
    · refine ⟨_, rfl, ?_, ?_⟩
      · rw [trySetAction_calls, haction]
        exact hafter
      · rw [trySetAction_descriptors]
        exact hdescriptors
    · rw [trySetAction_get, if_pos ⟨rfl, Signal.changeable_of_fault s hs⟩]
      rfl

/-- A fatal signal is sent while the reporting handler is in force, and the report has been made
without anything else that concerns signals. -/
theorem raise_reported (hs : s.faultName?.isSome) (hfree : s ∉ p.blocked)
    (hpending : s ∉ p.pending) {flags : ActionFlags}
    (haction : p.actions.get s = ⟨.handled .report, flags⟩) (hdefer : flags.noDefer)
    (hmark : (p.faults.saved.get s).installed)
    (hquiet : (p.faults.saved.get s).previous.Quiet) {r : Process} {budget : Nat}
    (hreport : reportNamed (Process.raise caller (budget + 1)) caller s p = .returned () r)
    (hr : Alike p r) (hcalls : r.calls = p.calls) :
    ∃ q, Process.raise caller (budget + 2) s p = .ended (.signal s) q ∧
      q.calls = p.callsAfter s (p.faults.saved.get s).previous ∧
      q.descriptors = r.descriptors := by
  obtain ⟨q, hended, hq⟩ :=
    handleFault_ends hs hfree hpending hmark hquiet hreport hr hcalls
  refine ⟨q, ?_, hq⟩
  rw [raise_free (Signal.not_reserved_of_fault s hs) hfree]
  unfold takePlace
  rw [Run.state_bind, haction]
  show invoke _ caller s true flags .report p = _
  unfold invoke
  rw [Run.state_bind, Run.change_bind, if_pos hdefer]
  exact Run.bind_of_ended hended _

theorem raise_fatal {settings : FaultSettings} (hname : s.faultName? = some name)
    (hfree : s ∉ p.blocked) (hpending : s ∉ p.pending)
    (haction : p.actions.get s = reportAction settings)
    (hmark : (p.faults.saved.get s).installed)
    (hquiet : (p.faults.saved.get s).previous.Quiet)
    (htarget : p.faults.target.load? = some (fd, allThreads)) (hworks : p.descriptors.Works fd)
    (caller : Option ThreadId) (budget : Nat) :
    ∃ q, Process.raise caller (budget + 2) s p = .ended (.signal s) q ∧
      q.calls = p.callsAfter s (p.faults.saved.get s).previous ∧
      q.descriptors.textOf fd = p.descriptors.textOf fd ++
        if p.faults.spent then "" else String.ofList (p.faultText name caller allThreads) := by
  have hs : s.faultName?.isSome := by
    rw [hname]
    rfl
  have hreport := reportNamed_told (Process.raise caller (budget + 1)) caller hname
    (p := p) fun _ fd' allThreads' htarget' => by
      obtain ⟨rfl, -⟩ := Prod.mk.inj (Option.some.inj (htarget.symm.trans htarget'))
      exact hworks
  obtain ⟨q, hended, hcalls, hdescriptors⟩ := raise_reported hs hfree hpending haction rfl hmark
    hquiet hreport ⟨rfl, rfl, rfl, rfl, rfl, rfl, rfl⟩ rfl
  refine ⟨q, hended, hcalls, ?_⟩
  rw [hdescriptors]
  exact textOf_told caller name htarget hworks

end Process

end CrashTrace
