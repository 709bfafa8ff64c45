import CrashTrace.Proofs.Process.Setup
import CrashTrace.Proofs.Session.Requests

/-!
# Reached sessions

The states between two requests of a session, together with the latest request that enabled fault
reports and succeeded. While fault reports are enabled they go where that request said.

## Main definitions

- `Session.enabling?` — what a request asks for that enables fault reports and succeeds
- `Session.Reached` — the states between two requests
- `Session.Sound` — what holds in all of them

## Main results

- `Session.Reached.sound`
-/

namespace CrashTrace

open Process (Undisturbed Settled EnableOutcome)

namespace Session

variable {s s' : Session} {latest : Option (Sink × FaultSettings)}

/-- The sink and the settings of a request that enables fault reports and succeeds. -/
def enabling? (s : Session) (step : Step) : Option (Sink × FaultSettings) :=
  match step.request with
  | .control (.enable choice settings supply) =>
    match s.chosenSink choice, FaultSettings.ofRequest settings with
    | .ok sink, .ok settings =>
      match (s.process.enable supply sink settings).1 with
      | .ok () => some (sink, settings)
      | .error _ => none
    | _, _ => none
  | _ => none

/-- The states between two requests, and what the latest request asked for that enabled fault
reports and succeeded. -/
inductive Reached : Option (Sink × FaultSettings) → Session → Prop
  | initial : Reached none Session.initial
  | step {latest : Option (Sink × FaultSettings)} {s s' : Session} {step : Step} {a : Answer} :
      Reached latest s → s.step step = .answered a s' →
      Reached ((s.enabling? step).or latest) s'.takeLog.2

/-- What holds between two requests. -/
structure Sound (latest : Option (Sink × FaultSettings)) (s : Session) : Prop where
  blocked : s.process.blocked = []
  settled : Settled s.process
  fatal : ∀ u, (s.process.faults.saved.get u).installed → u.faultName?.isSome
  enabled : ∀ u, (s.process.faults.saved.get u).installed → s.process.faults.enabled
  target : s.process.faults.enabled → ∃ sink settings, latest = some (sink, settings) ∧
    s.process.faults.target.load? = some (sink.descriptor, settings.allThreads)

namespace Sound

theorem initial : Sound none Session.initial := by
  refine ⟨rfl, ⟨nofun, fun u _ => Nat.zero_le 1⟩, ?_, ?_, nofun⟩
  · intro u hu
    simp [Session.initial, Process.initial, SavedAction.initial] at hu
  · intro u hu
    simp [Session.initial, Process.initial, SavedAction.initial] at hu

theorem undisturbed (hs : Sound latest s) (h : Undisturbed s.process s'.process) :
    Sound latest s' := by
  refine ⟨h.blocked.trans hs.blocked, h.settled hs.settled, fun u hu => hs.fatal u (h.marks u hu),
    fun u hu => ?_, fun hon => ?_⟩
  · rw [h.enabled]
    exact hs.enabled u (h.marks u hu)
  · rw [h.enabled] at hon
    rw [h.target]
    exact hs.target hon

theorem takeLog (hs : Sound latest s) : Sound latest s.takeLog.2 :=
  hs.undisturbed (.of_faults rfl (List.Sublist.refl _) rfl)

theorem enable (hs : Sound latest s) {sink : Sink} {settings : FaultSettings}
    {answered : Answered Unit}
    (h : EnableOutcome s.process sink settings answered) :
    Sound ((match answered.1 with
        | .ok () => some (sink, settings)
        | .error _ => none).or latest)
      (s.withProcess answered.2) := by
  cases h with
  | refused failure => exact hs
  | replaced hon =>
    refine ⟨hs.blocked, ?_, hs.fatal, hs.enabled, fun _ => ⟨sink, settings, rfl, rfl⟩⟩
    exact hs.settled.of_sublist (fun _ h => h) (List.Sublist.refl _)
  | noStack failure hoff =>
    refine ⟨hs.blocked, ?_, hs.fatal, hs.enabled, fun hon => ?_⟩
    · exact hs.settled.of_sublist (fun _ h => h) (List.Sublist.refl _)
    · exact absurd (hoff.symm.trans hon) (by decide)
  | enabled altStack installed hoff hinstalled =>
    have hsettled : Settled installed :=
      hinstalled.undisturbed (hs.settled.of_sublist (fun _ h => h) (List.Sublist.refl _))
    refine ⟨hinstalled.blocked.trans hs.blocked, ?_, fun u hu => ?_, fun _ _ => rfl,
      fun _ => ⟨sink, settings, rfl, ?_⟩⟩
    · exact hsettled.of_sublist (fun _ h => h) (List.Sublist.refl _)
    · by_contra hfatal
      have hu : (installed.faults.saved.get u).installed := hu
      have hsame := (hinstalled.others u fun hmem =>
        hfatal ((Process.mem_faultSignals u).mp hmem)).2
      rw [hsame] at hu
      exact hfatal (hs.fatal u hu)
    · show installed.faults.target.load? = _
      rw [hinstalled.target]
      rfl

theorem disable (hs : Sound latest s) : Sound latest (s.withProcess s.process.disable) := by
  obtain ⟨hsettled, hblocked⟩ := Process.disable_settled hs.settled
  have hunmarked : ∀ u, (s.process.disable.faults.saved.get u).installed = false := by
    intro u
    by_cases hon : s.process.faults.enabled
    · rw [(Process.disable_of_enabled hon).2.1]
      exact Process.uninstallFaults_unmarked hs.fatal u
    · by_contra hmark
      rw [Bool.not_eq_false, Process.disable, if_neg hon] at hmark
      exact hon (hs.enabled u hmark)
  have hoff : s.process.disable.faults.enabled = false := by
    unfold Process.disable
    split
    · rfl
    · next hoff => exact Bool.eq_false_iff.mpr hoff
  refine ⟨hblocked.trans hs.blocked, hsettled, fun u hu => ?_, fun u hu => ?_, fun hon => ?_⟩
  · exact absurd ((hunmarked u).symm.trans hu) (by decide)
  · exact absurd ((hunmarked u).symm.trans hu) (by decide)
  · exact absurd (hoff.symm.trans hon) (by decide)

theorem step (hs : Sound latest s) {step : Step} {a : Answer}
    (h : s.step step = .answered a s') : Sound ((s.enabling? step).or latest) s' := by
  by_cases hswitch : ∃ request, step.request = .control request ∧ request.Switches
  · obtain ⟨request, hrequest, hswitch⟩ := hswitch
    obtain ⟨t, _⟩ := step
    obtain rfl : _ = Request.control request := hrequest
    cases request with
    | enable choice settings supply =>
      have h : s.control t (.enable choice settings supply) = .answered a s' := h
      simp only [enabling?]
      obtain ⟨rfl, hnone⟩ | ⟨sink, settings, hchosen, hsettings, rfl⟩ := enable_answered h
      · split
        · next hchosen hsettings => exact absurd hsettings (hnone _ _ hchosen)
        · exact hs
      · rw [hchosen, hsettings]
        exact hs.enable (Process.enable_outcome s.process supply sink settings)
    | disable =>
      obtain ⟨-, rfl⟩ := Progress.answered.inj h
      exact hs.disable
    | _ => cases hswitch
  · have hnone : s.enabling? step = none := by
      obtain ⟨t, request⟩ := step
      unfold enabling?
      split
      · next hrequest => exact absurd ⟨_, hrequest, trivial⟩ hswitch
      · rfl
    rw [hnone, Option.none_or]
    exact hs.undisturbed (step_undisturbed (fun request hr hs => hswitch ⟨request, hr, hs⟩) h)

end Sound

theorem Reached.sound (h : Reached latest s) : Sound latest s := by
  induction h with
  | initial => exact .initial
  | step _ hstep ih => exact (ih.step hstep).takeLog

end Session

end CrashTrace
