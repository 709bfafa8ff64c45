import CrashTrace.Proofs.Process.Watchdog
import CrashTrace.Settings.Json

/-!
# The rules of settings

Each kind of settings has a rule that its checked constructor enforces. Reading settings from a text
does not, so settings that were read obey the rule exactly if what the text says does, and a timer is
armed with whatever settings it is given.

## Main definitions

- `FaultSettings.Lawful`, `TimerSettings.Lawful` — the rules of the constructors
- `FaultSettings.Describes`, `TimerSettings.Describes` — what a text says, in any of its forms
- `Timers.settings?` — the settings of the timer that is armed

## Main results

- `FaultSettings.ofJson?_eq_some_iff`, `TimerSettings.ofJson?_eq_some_iff` — which texts are accepted
- `settings_lawful_iff`
-/

namespace CrashTrace

-- ════════════════════════════════════════════════════════════════════════
-- Durations
-- ════════════════════════════════════════════════════════════════════════

namespace Duration

variable {secs nanos : Nat} {d : Duration}

theorem ofParts?_eq_some_iff :
    ofParts? secs nanos = some d ↔
      d.secs.toNat = secs + nanos / nanosPerSec ∧ d.nanos = nanos % nanosPerSec := by
  unfold ofParts?
  dsimp only
  constructor
  · intro h
    split at h
    · next hfits =>
      obtain rfl := Option.some.inj h
      exact ⟨UInt64.toNat_ofNat_of_lt' hfits, rfl⟩
    · cases h
  · rintro ⟨hsecs, hnanos⟩
    have hfits : secs + nanos / nanosPerSec < secsBound := by
      rw [← hsecs]
      exact d.secs.toNat_lt
    rw [if_pos hfits]
    obtain ⟨_, _, hlt⟩ := d
    subst hnanos
    have hsame := UInt64.toNat_inj.mp ((UInt64.toNat_ofNat_of_lt' hfits).trans hsecs.symm)
    simp only [hsame]

theorem eq_zero_iff (d : Duration) : d = zero ↔ d.secs.toNat = 0 ∧ d.nanos = 0 := by
  constructor
  · rintro rfl
    exact ⟨rfl, rfl⟩
  · obtain ⟨secs, nanos, hlt⟩ := d
    rintro ⟨hsecs, rfl⟩
    obtain rfl := UInt64.toNat_inj.mp (show secs.toNat = (0 : UInt64).toNat from hsecs)
    rfl

/-- Carrying nanoseconds into the seconds changes neither whether there is any time nor its
microseconds. -/
theorem ofParts?_zero_iff (h : ofParts? secs nanos = some d) :
    d = zero ↔ secs = 0 ∧ nanos = 0 := by
  obtain ⟨hsecs, hnanos⟩ := ofParts?_eq_some_iff.mp h
  rw [eq_zero_iff, hsecs, hnanos]
  unfold nanosPerSec
  omega

theorem ofParts?_micros (h : ofParts? secs nanos = some d) :
    d.micros = secs * 1000000 + nanos / 1000 := by
  obtain ⟨hsecs, hnanos⟩ := ofParts?_eq_some_iff.mp h
  unfold micros subsecMicros
  rw [hsecs, hnanos]
  unfold nanosPerSec
  omega

/-- A value is so many seconds and nanoseconds, in the form of an object or an array. -/
def Describes (v : Json) (secs nanos : Nat) : Prop :=
  ∃ s n, v.record? fieldNames true = some [s, n] ∧
    s.nat? UInt64.size = some secs ∧ n.nat? UInt32.size = some nanos

theorem ofValue?_eq_some_iff {v : Json} :
    ofValue? v = some d ↔ ∃ secs nanos, Describes v secs nanos ∧ ofParts? secs nanos = some d := by
  unfold ofValue? Describes
  constructor
  · intro h
    split at h
    · next s n hrecord =>
      simp only [Option.bind_eq_bind, Option.bind_eq_some_iff] at h
      obtain ⟨secs, hsecs, nanos, hnanos, hparts⟩ := h
      exact ⟨secs, nanos, ⟨s, n, hrecord, hsecs, hnanos⟩, hparts⟩
    · cases h
  · rintro ⟨secs, nanos, ⟨s, n, hrecord, hsecs, hnanos⟩, hparts⟩
    rw [hrecord]
    dsimp only
    rw [hsecs, hnanos]
    exact hparts

end Duration

theorem Json.bool?_eq_some_iff {v : Json} {b : Bool} : v.bool? = some b ↔ v = .bool b := by
  cases v with
  | bool value => simp [Json.bool?]
  | _ => exact ⟨nofun, nofun⟩

-- ════════════════════════════════════════════════════════════════════════
-- Fault reports
-- ════════════════════════════════════════════════════════════════════════

namespace FaultSettings

/-- No alternate stack is created without being used. -/
def Lawful (s : FaultSettings) : Prop := s.createAltStack → s.useAltStack

instance (s : FaultSettings) : Decidable s.Lawful := inferInstanceAs (Decidable (_ → _))

/-- A text says how faults are to be reported, in the form of an object or an array. -/
def Describes (text : Text) (allThreads create use : Bool) : Prop :=
  ∃ v, Json.ofText? text = some v ∧
    v.record? fieldNames false = some [.bool allThreads, .bool create, .bool use]

theorem lawful_of_make {allThreads create use : Bool} {s : FaultSettings}
    (h : make allThreads create use = .ok s) : s.Lawful := by
  unfold make at h
  split at h
  · cases h
  · next hrule =>
    obtain rfl := Except.ok.inj h
    intro hcreate
    simpa [show create = true from hcreate] using hrule

theorem lawful_of_request {request : Request} {s : FaultSettings}
    (h : ofRequest request = .ok s) : s.Lawful := by
  cases request with
  | standard =>
    obtain rfl := Except.ok.inj h
    exact fun _ => rfl
  | threads allThreads =>
    obtain rfl := Except.ok.inj h
    exact fun _ => rfl
  | explicit allThreads create use => exact lawful_of_make h

/-- A text is accepted exactly if it says how faults are to be reported, and nothing is checked. -/
theorem ofJson?_eq_some_iff {text : Text} {s : FaultSettings} :
    ofJson? text = some s ↔ Describes text s.allThreads s.createAltStack s.useAltStack := by
  unfold ofJson? ofValue? Describes
  rw [Option.bind_eq_some_iff]
  refine exists_congr fun v => and_congr_right fun _ => ?_
  constructor
  · intro h
    split at h
    · next a c u hrecord =>
      simp only [Option.bind_eq_bind, Option.bind_eq_some_iff, Json.bool?_eq_some_iff] at h
      obtain ⟨_, rfl, _, rfl, _, rfl, hs⟩ := h
      obtain rfl := Option.some.inj hs
      exact hrecord
    · cases h
  · intro h
    rw [h]
    rfl

/-- A text says one thing only. -/
theorem Describes.unique {text : Text} {a c u a' c' u' : Bool} (h : Describes text a c u)
    (h' : Describes text a' c' u') : a = a' ∧ c = c' ∧ u = u' := by
  obtain ⟨v, hv, hrecord⟩ := h
  obtain ⟨v', hv', hrecord'⟩ := h'
  obtain rfl : v = v' := Option.some.inj (hv.symm.trans hv')
  simpa using hrecord.symm.trans hrecord'

theorem lawful_iff {text : Text} {s : FaultSettings} (h : ofJson? text = some s) :
    s.Lawful ↔ ¬ ∃ allThreads, Describes text allThreads true false := by
  have hs := ofJson?_eq_some_iff.mp h
  constructor
  · rintro hlawful ⟨allThreads, hbroken⟩
    obtain ⟨-, hcreate, huse⟩ := hs.unique hbroken
    exact absurd (huse.symm.trans (hlawful hcreate)) (by decide)
  · intro hnone hcreate
    cases huse : s.useAltStack with
    | true => rfl
    | false =>
      rw [hcreate, huse] at hs
      exact absurd ⟨s.allThreads, hs⟩ hnone

end FaultSettings

-- ════════════════════════════════════════════════════════════════════════
-- Timers
-- ════════════════════════════════════════════════════════════════════════

namespace TimerSettings

/-- The timeout is above zero, and its microseconds fit into a word. -/
def Lawful (s : TimerSettings) : Prop :=
  s.timeout ≠ Duration.zero ∧ s.timeout.micros < UInt64.size

instance (s : TimerSettings) : Decidable s.Lawful := inferInstanceAs (Decidable (_ ∧ _))

/-- A text says how a timer is to dump, in the form of an object or an array. -/
def Describes (text : Text) (secs nanos : Nat) (repeats exits : Bool) : Prop :=
  ∃ v timeout, Json.ofText? text = some v ∧
    v.record? fieldNames false = some [timeout, .bool repeats, .bool exits] ∧
    Duration.Describes timeout secs nanos

theorem lawful_of_make {timeout : Duration} {repeats exits : Bool} {s : TimerSettings}
    (h : make timeout repeats exits = .ok s) : s.Lawful := by
  unfold make at h
  split at h
  · cases h
  · next hzero =>
    split at h
    · cases h
    · next hlarge =>
      obtain rfl := Except.ok.inj h
      exact ⟨hzero, Nat.not_le.mp hlarge⟩

/-- A text is accepted exactly if it says how a timer is to dump and its seconds fit into a word,
with those that its nanoseconds make. -/
theorem ofJson?_eq_some_iff {text : Text} {s : TimerSettings} :
    ofJson? text = some s ↔ ∃ secs nanos, Describes text secs nanos s.repeats s.exits ∧
      Duration.ofParts? secs nanos = some s.timeout := by
  unfold ofJson? ofValue? Describes
  rw [Option.bind_eq_some_iff]
  constructor
  · rintro ⟨v, hv, h⟩
    split at h
    · next timeout r e hrecord =>
      simp only [Option.bind_eq_bind, Option.bind_eq_some_iff, Json.bool?_eq_some_iff] at h
      obtain ⟨d, hd, _, rfl, _, rfl, hs⟩ := h
      obtain rfl := Option.some.inj hs
      obtain ⟨secs, nanos, hdescribes, hparts⟩ := Duration.ofValue?_eq_some_iff.mp hd
      exact ⟨secs, nanos, ⟨v, timeout, hv, hrecord, hdescribes⟩, hparts⟩
    · cases h
  · rintro ⟨secs, nanos, ⟨v, timeout, hv, hrecord, hdescribes⟩, hparts⟩
    refine ⟨v, hv, ?_⟩
    rw [hrecord]
    dsimp only
    rw [Duration.ofValue?_eq_some_iff.mpr ⟨secs, nanos, hdescribes, hparts⟩]
    rfl

theorem lawful_iff {secs nanos : Nat} {s : TimerSettings}
    (h : Duration.ofParts? secs nanos = some s.timeout) :
    s.Lawful ↔ (0 < secs ∨ 0 < nanos) ∧ secs * 1000000 + nanos / 1000 < UInt64.size := by
  unfold Lawful
  rw [Ne, Duration.ofParts?_zero_iff h, Duration.ofParts?_micros h]
  omega

end TimerSettings

/-- The settings of the timer that is armed, if there is one. -/
def Timers.settings? (t : Timers) : Option TimerSettings :=
  ((t.watchdog.bind (·.thread)).bind t.thread?).map (·.settings)

/-- A timer is armed with the settings that are given, whatever they are. -/
theorem Process.settings_arm {p q : Process} {sink : Sink} {settings : TimerSettings}
    {supply : ThreadSupply} (h : arm sink settings supply p = .returned (.ok ()) q) :
    q.timers.settings? = some settings := by
  unfold arm at h
  rw [Run.state_bind] at h
  cases hsink : p.descriptors.checkSink sink.descriptor with
  | error failure =>
    rw [hsink] at h
    cases h
  | ok _ =>
    rw [hsink] at h
    obtain ⟨_, replaced, -, h⟩ := Run.bind_returned.mp h
    obtain ⟨started, r, hstart, h⟩ := Run.bind_returned.mp h
    cases supply with
    | refused failure =>
      cases hstart
      cases h
    | available =>
      cases hstart
      cases h
      exact congrArg (Option.map (·.settings)) (Timers.thread?_start replaced.timers _)

/-- The checked constructors give lawful settings only. A text is accepted whatever it says in its
fields, as long as the seconds fit: the settings are lawful exactly if the text does not ask for an
alternate stack to be created and not used, and if the timeout that it gives is above zero and short
enough. And every timer that is armed has the settings that were given: only its sink is checked. -/
theorem settings_lawful_iff (request : FaultSettings.Request) (timeout : Duration)
    (repeats exits : Bool) (text : Text) (p : Process) (sink : Sink) (given : TimerSettings) :
    (∀ s, FaultSettings.ofRequest request = .ok s → s.Lawful) ∧
    (∀ s, TimerSettings.make timeout repeats exits = .ok s → s.Lawful) ∧
    (∀ s, (FaultSettings.ofJson? text = some s ↔
        FaultSettings.Describes text s.allThreads s.createAltStack s.useAltStack) ∧
      (FaultSettings.ofJson? text = some s →
        (s.Lawful ↔ ¬ ∃ allThreads, FaultSettings.Describes text allThreads true false))) ∧
    (∀ s, TimerSettings.ofJson? text = some s ↔
      ∃ secs nanos, TimerSettings.Describes text secs nanos s.repeats s.exits ∧
        Duration.ofParts? secs nanos = some s.timeout ∧
        (s.Lawful ↔
          (0 < secs ∨ 0 < nanos) ∧ secs * 1000000 + nanos / 1000 < UInt64.size)) ∧
    (∀ supply q, Process.arm sink given supply p = .returned (.ok ()) q →
      q.timers.settings? = some given) ∧
    (∀ o, p.timers.Shows o → p.descriptors.checkSink sink.descriptor = .ok () →
      ∃ q, Process.arm sink given .available p = .returned (.ok ()) q) := by
  refine ⟨fun _ => FaultSettings.lawful_of_request, fun _ => TimerSettings.lawful_of_make,
    fun _ => ⟨FaultSettings.ofJson?_eq_some_iff, FaultSettings.lawful_iff⟩, fun s => ?_,
    fun _ _ => Process.settings_arm, fun _ hshows hsink => ?_⟩
  · rw [TimerSettings.ofJson?_eq_some_iff]
    constructor
    · rintro ⟨secs, nanos, hdescribes, hparts⟩
      exact ⟨secs, nanos, hdescribes, hparts, TimerSettings.lawful_iff hparts⟩
    · rintro ⟨secs, nanos, hdescribes, hparts, -⟩
      exact ⟨secs, nanos, hdescribes, hparts⟩
  · obtain ⟨timers, -, -, harm⟩ := Process.arm_accepted hshows hsink given
    exact ⟨_, harm⟩

/-- Settings that no constructor gives are written and read back, and a timer is armed with them. -/
theorem exists_unlawful :
    (∃ s : FaultSettings, FaultSettings.ofJson? s.toJson = some s ∧ ¬ s.Lawful) ∧
    (∃ s : TimerSettings, TimerSettings.ofJson? s.toJson = some s ∧ s.timeout = Duration.zero ∧
      ∃ q, Process.arm Sink.standardError s .available Process.initial = .returned (.ok ()) q ∧
        q.timers.settings? = some s) ∧
    ∃ s : TimerSettings, TimerSettings.ofJson? s.toJson = some s ∧
      UInt64.size ≤ s.timeout.micros := by
  refine ⟨⟨⟨true, true, false⟩, ?_⟩, ⟨⟨Duration.zero, false, false⟩, ?_⟩,
    ⟨⟨18446744073709551615, 0, by decide⟩, false, false⟩, ?_⟩
  · decide +kernel
  · exact ⟨by decide +kernel, rfl, _, rfl, rfl⟩
  · decide +kernel

end CrashTrace
