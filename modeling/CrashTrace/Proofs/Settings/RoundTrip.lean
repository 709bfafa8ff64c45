import CrashTrace.Proofs.Json.Respelled
import CrashTrace.Proofs.Json.Written
import CrashTrace.Proofs.Settings.Lawful

/-!
# Settings written and read back

What is written for settings of any kind is read back as the same settings. A text that is accepted
may look otherwise: its record is spelled in another way, it has nanoseconds of a second and more,
or blanks around it. Once it has been read and written, it stays as it is.

## Main definitions

- `RoundTrips` — a writer and a reader that fit together
- `FaultSettings.Spelled`, `UserSignalSettings.Spelled`, `TimerSettings.Spelled`, `Phase.Spelled` —
  the texts that stand for a value

## Main results

- `settings_round_trip`
-/

namespace CrashTrace

open Json (Respelled Spells SpellsMember recordOf)

/-- Reading a text and writing what was read. -/
def rewrite? {α : Type} (toJson : α → Text) (ofJson? : Text → Option α) (text : Text) :
    Option Text :=
  (ofJson? text).map toJson

/-- A writer and a reader of JSON that fit together. -/
structure RoundTrips {α : Type} (toJson : α → Text) (ofJson? : Text → Option α) : Prop where
  /-- What was written is read back. -/
  reread (a : α) : ofJson? (toJson a) = some a
  /-- A text that is accepted is written anew as a text with the same value. -/
  settled {text : Text} {a : α} (h : ofJson? text = some a) :
    (rewrite? toJson ofJson? text).bind ofJson? = some a
  /-- Written anew once more, it stays as it is, accepted or not. -/
  idempotent (text : Text) :
    (rewrite? toJson ofJson? text).bind (rewrite? toJson ofJson?) = rewrite? toJson ofJson? text
  /-- Blanks around a text change nothing. -/
  padded {before after : Text} (hbefore : ∀ c ∈ before, Json.Token.isBlank c = true)
    (hafter : ∀ c ∈ after, Json.Token.isBlank c = true) (text : Text) :
    ofJson? (before ++ text ++ after) = ofJson? text

/-- It is enough that what was written is read back, if the reader goes through the value of a
text. -/
theorem roundTrips_of_reread {α : Type} {toJson : α → Text} {ofValue? : Json → Option α}
    {value : α → Json} (hspells : ∀ a, Spells (toJson a) (value a))
    (hvalue : ∀ a, ofValue? (value a) = some a) :
    RoundTrips toJson fun text => (Json.ofText? text).bind ofValue? := by
  have hreread (a : α) : (Json.ofText? (toJson a)).bind ofValue? = some a := by
    rw [Json.ofText?_of_spells (hspells a), Option.bind_some, hvalue]
  refine ⟨hreread, fun h => ?_, fun text => ?_, fun hbefore hafter text => ?_⟩
  · rw [rewrite?, h, Option.map_some, Option.bind_some, hreread]
  · unfold rewrite?
    dsimp only
    cases (Json.ofText? text).bind ofValue? with
    | none => rfl
    | some a => rw [Option.map_some, Option.bind_some, hreread, Option.map_some]
  · rw [Json.ofText?_padded hbefore hafter]

-- ════════════════════════════════════════════════════════════════════════
-- Fault reports and dumps on ordinary signals
-- ════════════════════════════════════════════════════════════════════════

namespace FaultSettings

variable {s : FaultSettings} {text : Text}

/-- The record of the settings. -/
def toValue (s : FaultSettings) : Json :=
  recordOf fieldNames [.bool s.allThreads, .bool s.createAltStack, .bool s.useAltStack]

/-- A text spells the record of the settings. -/
def Spelled (text : Text) (s : FaultSettings) : Prop :=
  ∃ v, Json.ofText? text = some v ∧ Respelled fieldNames false v s.toValue

theorem nodup_fieldNames : fieldNames.Nodup := by decide

theorem spells_toJson (s : FaultSettings) : Spells s.toJson s.toValue := by
  refine Json.spells_record (List.cons_ne_nil _ _) ?_
  refine .cons (.mk (by decide) (Json.spells_bool _)) ?_
  refine .cons (.mk (by decide) (Json.spells_bool _)) ?_
  exact .cons (.mk (by decide) (Json.spells_bool _)) .nil

theorem ofValue?_toValue (s : FaultSettings) : ofValue? s.toValue = some s := by
  rw [ofValue?, toValue, Json.record?_recordOf nodup_fieldNames rfl]
  rfl

theorem ofJson?_iff_spelled : ofJson? text = some s ↔ Spelled text s := by
  rw [ofJson?_eq_some_iff]
  refine exists_congr fun v => and_congr_right fun _ => ?_
  exact Json.record?_iff_respelled nodup_fieldNames rfl

theorem roundTrips : RoundTrips toJson ofJson? :=
  roundTrips_of_reread spells_toJson ofValue?_toValue

end FaultSettings

namespace UserSignalSettings

variable {s : UserSignalSettings} {text : Text}

/-- The record of the settings. -/
def toValue (s : UserSignalSettings) : Json :=
  recordOf fieldNames [.bool s.allThreads, .bool s.chain]

/-- A text spells the record of the settings. -/
def Spelled (text : Text) (s : UserSignalSettings) : Prop :=
  ∃ v, Json.ofText? text = some v ∧ Respelled fieldNames false v s.toValue

theorem nodup_fieldNames : fieldNames.Nodup := by decide

theorem spells_toJson (s : UserSignalSettings) : Spells s.toJson s.toValue := by
  refine Json.spells_record (List.cons_ne_nil _ _) ?_
  refine .cons (.mk (by decide) (Json.spells_bool _)) ?_
  exact .cons (.mk (by decide) (Json.spells_bool _)) .nil

theorem ofValue?_toValue (s : UserSignalSettings) : ofValue? s.toValue = some s := by
  rw [ofValue?, toValue, Json.record?_recordOf nodup_fieldNames rfl]
  rfl

theorem ofValue?_eq_some_iff {v : Json} : ofValue? v = some s ↔
    v.record? fieldNames false = some [.bool s.allThreads, .bool s.chain] := by
  unfold ofValue?
  constructor
  · intro h
    split at h
    · next allThreads chain hrecord =>
      simp only [Option.bind_eq_bind, Option.bind_eq_some_iff, Json.bool?_eq_some_iff] at h
      obtain ⟨_, rfl, _, rfl, hs⟩ := h
      obtain rfl := Option.some.inj hs
      exact hrecord
    · cases h
  · intro h
    rw [h]
    rfl

theorem ofJson?_iff_spelled : ofJson? text = some s ↔ Spelled text s := by
  rw [ofJson?, Option.bind_eq_some_iff]
  refine exists_congr fun v => and_congr_right fun _ => ?_
  exact ofValue?_eq_some_iff.trans (Json.record?_iff_respelled nodup_fieldNames rfl)

theorem roundTrips : RoundTrips toJson ofJson? :=
  roundTrips_of_reread spells_toJson ofValue?_toValue

end UserSignalSettings

-- ════════════════════════════════════════════════════════════════════════
-- Timers
-- ════════════════════════════════════════════════════════════════════════

namespace Duration

variable {d : Duration} {v : Json}

/-- The record of the duration. -/
def toValue (d : Duration) : Json :=
  recordOf fieldNames [.number (Numeral.decimal d.secs.toNat), .number (Numeral.decimal d.nanos)]

/-- A value spells a record of so many seconds and nanoseconds, and they make the duration when the
nanoseconds are carried. -/
def Spelled (v : Json) (d : Duration) : Prop :=
  ∃ s n secs nanos, Respelled fieldNames true v (recordOf fieldNames [s, n]) ∧
    s.nat? UInt64.size = some secs ∧ n.nat? UInt32.size = some nanos ∧
    d.secs.toNat = secs + nanos / nanosPerSec ∧ d.nanos = nanos % nanosPerSec

theorem nodup_fieldNames : fieldNames.Nodup := by decide

theorem spells_toJson (d : Duration) : Spells d.toJson d.toValue := by
  refine Json.spells_record (List.cons_ne_nil _ _) ?_
  refine .cons (.mk (by decide) (Json.spells_decimal _)) ?_
  exact .cons (.mk (by decide) (Json.spells_decimal _)) .nil

theorem ofValue?_iff_spelled : ofValue? v = some d ↔ Spelled v d := by
  rw [ofValue?_eq_some_iff]
  have hrecord (s n : Json) : v.record? fieldNames true = some [s, n] ↔
      Respelled fieldNames true v (recordOf fieldNames [s, n]) :=
    Json.record?_iff_respelled nodup_fieldNames rfl
  unfold Describes Spelled
  simp only [hrecord, ofParts?_eq_some_iff]
  constructor
  · rintro ⟨secs, nanos, ⟨s, n, hspelled, hsecs, hnanos⟩, hparts⟩
    exact ⟨s, n, secs, nanos, hspelled, hsecs, hnanos, hparts⟩
  · rintro ⟨s, n, secs, nanos, hspelled, hsecs, hnanos, hparts⟩
    exact ⟨secs, nanos, ⟨s, n, hspelled, hsecs, hnanos⟩, hparts⟩

theorem ofValue?_toValue (d : Duration) : ofValue? d.toValue = some d := by
  have hnanos : d.nanos < nanosPerSec := d.nanos_lt
  refine ofValue?_iff_spelled.mpr ⟨_, _, d.secs.toNat, d.nanos, .refl _,
    Json.nat?_decimal d.secs.toNat_lt, Json.nat?_decimal (hnanos.trans (by decide)), ?_, ?_⟩
  · rw [Nat.div_eq_of_lt hnanos, Nat.add_zero]
  · rw [Nat.mod_eq_of_lt hnanos]

end Duration

namespace TimerSettings

variable {s : TimerSettings} {text : Text}

/-- The record of the settings. -/
def toValue (s : TimerSettings) : Json :=
  recordOf fieldNames [s.timeout.toValue, .bool s.repeats, .bool s.exits]

/-- A text spells a record of the settings, with a value in it that spells the timeout. -/
def Spelled (text : Text) (s : TimerSettings) : Prop :=
  ∃ v timeout, Json.ofText? text = some v ∧
    Respelled fieldNames false v (recordOf fieldNames [timeout, .bool s.repeats, .bool s.exits]) ∧
    Duration.Spelled timeout s.timeout

theorem nodup_fieldNames : fieldNames.Nodup := by decide

theorem spells_toJson (s : TimerSettings) : Spells s.toJson s.toValue := by
  refine Json.spells_record (List.cons_ne_nil _ _) ?_
  refine .cons (.mk (by decide) s.timeout.spells_toJson) ?_
  refine .cons (.mk (by decide) (Json.spells_bool _)) ?_
  exact .cons (.mk (by decide) (Json.spells_bool _)) .nil

theorem ofValue?_toValue (s : TimerSettings) : ofValue? s.toValue = some s := by
  rw [ofValue?, toValue, Json.record?_recordOf nodup_fieldNames rfl]
  dsimp only
  rw [Duration.ofValue?_toValue]
  rfl

theorem ofJson?_iff_spelled : ofJson? text = some s ↔ Spelled text s := by
  rw [ofJson?_eq_some_iff]
  have hrecord (v timeout : Json) :
      v.record? fieldNames false = some [timeout, .bool s.repeats, .bool s.exits] ↔
        Respelled fieldNames false v
          (recordOf fieldNames [timeout, .bool s.repeats, .bool s.exits]) :=
    Json.record?_iff_respelled nodup_fieldNames rfl
  unfold Describes Spelled
  simp only [hrecord, ← Duration.ofValue?_iff_spelled, Duration.ofValue?_eq_some_iff]
  constructor
  · rintro ⟨secs, nanos, ⟨v, timeout, hv, hspelled, htimeout⟩, hparts⟩
    exact ⟨v, timeout, hv, hspelled, secs, nanos, htimeout, hparts⟩
  · rintro ⟨v, timeout, hv, hspelled, secs, nanos, htimeout, hparts⟩
    exact ⟨secs, nanos, ⟨v, timeout, hv, hspelled, htimeout⟩, hparts⟩

example :
    ofJson? " \x7b\"exit\":false,\"x\":0,\"timeout\":[1,2500000000],\"repeat\":true\x7d\n".toList =
      some ⟨⟨3, 500000000, by decide⟩, true, false⟩ := by decide +kernel

theorem roundTrips : RoundTrips toJson ofJson? :=
  roundTrips_of_reread spells_toJson ofValue?_toValue

end TimerSettings

-- ════════════════════════════════════════════════════════════════════════
-- Phases
-- ════════════════════════════════════════════════════════════════════════

namespace Phase

variable {p : Phase} {text : Text}

/-- A text spells the name of a phase, or an object whose only key is the name and whose only member
is null. -/
def Spelled (text : Text) (p : Phase) : Prop :=
  ∃ v, Json.ofText? text = some v ∧
    (v = .string (some p.name.toList) ∨ v = .object [(some p.name.toList, .null)])

theorem ofName?_eq_some_iff {name : Text} : ofName? name = some p ↔ name = p.name.toList := by
  constructor
  · intro h
    have hname := List.find?_some (p := fun phase : Phase => phase.name.toList = name) h
    exact (of_decide_eq_true hname).symm
  · rintro rfl
    cases p <;> decide

theorem spells_toJson (p : Phase) : Spells p.toJson (.string (some p.name.toList)) :=
  Json.spells_quoted (by cases p <;> decide)

theorem ofValue?_eq_some_iff {v : Json} : ofValue? v = some p ↔
    v = .string (some p.name.toList) ∨ v = .object [(some p.name.toList, .null)] := by
  constructor
  · intro h
    unfold ofValue? at h
    split at h
    · rw [ofName?_eq_some_iff.mp h]
      exact .inl rfl
    · rw [ofName?_eq_some_iff.mp h]
      exact .inr rfl
    · cases h
  · rintro (rfl | rfl)
    · exact ofName?_eq_some_iff.mpr rfl
    · exact ofName?_eq_some_iff.mpr rfl

theorem ofJson?_iff_spelled : ofJson? text = some p ↔ Spelled text p := by
  rw [ofJson?, Option.bind_eq_some_iff]
  exact exists_congr fun v => and_congr_right fun _ => ofValue?_eq_some_iff

theorem roundTrips : RoundTrips toJson ofJson? :=
  roundTrips_of_reread spells_toJson fun _ => ofValue?_eq_some_iff.mpr (.inl rfl)

end Phase

/-- For settings of every kind, and for phases, what is written is read back as it was, and a text
that is accepted is written anew as a text with the same value, which stays as it is. The texts that
are accepted are those that spell a value: the record with its fields in any order, with further
members, or as an array; in a timeout, no further members, but nanoseconds that are carried into the
seconds; the name of a phase, or an object in its place. -/
theorem settings_round_trip :
    (RoundTrips FaultSettings.toJson FaultSettings.ofJson? ∧
      ∀ text s, FaultSettings.ofJson? text = some s ↔ FaultSettings.Spelled text s) ∧
    (RoundTrips UserSignalSettings.toJson UserSignalSettings.ofJson? ∧
      ∀ text s, UserSignalSettings.ofJson? text = some s ↔ UserSignalSettings.Spelled text s) ∧
    (RoundTrips TimerSettings.toJson TimerSettings.ofJson? ∧
      ∀ text s, TimerSettings.ofJson? text = some s ↔ TimerSettings.Spelled text s) ∧
    (RoundTrips Phase.toJson Phase.ofJson? ∧
      ∀ text p, Phase.ofJson? text = some p ↔ Phase.Spelled text p) :=
  ⟨⟨FaultSettings.roundTrips, fun _ _ => FaultSettings.ofJson?_iff_spelled⟩,
    ⟨UserSignalSettings.roundTrips, fun _ _ => UserSignalSettings.ofJson?_iff_spelled⟩,
    ⟨TimerSettings.roundTrips, fun _ _ => TimerSettings.ofJson?_iff_spelled⟩,
    ⟨Phase.roundTrips, fun _ _ => Phase.ofJson?_iff_spelled⟩⟩

end CrashTrace
