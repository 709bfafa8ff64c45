import CrashTrace.Json.Value
import Mathlib.Data.List.Forall2
import Mathlib.Data.List.Nodup
import Mathlib.Data.List.Perm.Basic
import Mathlib.Logic.Relation

/-!
# One record, many values

A record may be an object, with its members in any order and with members that are skipped, or an
array. The ways to spell a record are generated by three steps, and they are all that is accepted:
a value is read as a record exactly if it is a respelling of the object that has the fields in
order and nothing else.

## Main definitions

- `Json.recordOf` — the object that has the fields of a record in order
- `Json.Respelling` — one step from a spelling of a record to another
- `Json.Respelled` — any number of steps

## Main results

- `Json.Respelled.record?_eq` — respelling a record does not change what is read
- `Json.record?_eq_some_iff`
-/

namespace CrashTrace.Json

/-- The object with these fields in order. -/
def recordOf (names : List Text) (values : List Json) : Json :=
  .object ((names.map some).zip values)

/-- One step that changes how a record is spelled, and not what it says. -/
inductive Respelling (names : List Text) (closed : Bool) : Json → Json → Prop
  /-- The members of an object change places. -/
  | reorder {members members' : List (Option Text × Json)} (h : members.Perm members') :
    Respelling names closed (.object members) (.object members')
  /-- A member that is no field is skipped. -/
  | skip {members : List (Option Text × Json)} {key : Text} {value : Json}
    (hopen : closed = false) (hkey : key ∉ names) :
    Respelling names closed (.object ((some key, value) :: members)) (.object members)
  /-- The items of an array are the fields in order. -/
  | listed {values : List Json} (hlength : values.length = names.length) :
    Respelling names closed (.array values) (recordOf names values)

/-- Two spellings of one record. -/
def Respelled (names : List Text) (closed : Bool) : Json → Json → Prop :=
  Relation.EqvGen (Respelling names closed)

variable {names : List Text} {closed : Bool} {members members' : List (Option Text × Json)}
  {values : List Json} {v v' : Json} {name : Text} {value : Json}

-- ════════════════════════════════════════════════════════════════════════
-- A field among the members
-- ════════════════════════════════════════════════════════════════════════

theorem field?_eq_some_iff :
    field? members name = some value ↔
      members.filter (fun member => member.1 = some name) = [(some name, value)] := by
  unfold field?
  constructor
  · intro h
    split at h
    · next key found hfound =>
      obtain rfl := Option.some.inj h
      have hmem : (key, found) ∈ members.filter fun member => member.1 = some name := by
        rw [hfound]
        exact List.mem_singleton_self _
      obtain rfl : key = some name := of_decide_eq_true (List.mem_filter.mp hmem).2
      exact hfound
    · cases h
  · intro h
    rw [h]

theorem field?_perm (h : members.Perm members') : field? members name = field? members' name := by
  refine Option.ext fun value => ?_
  rw [field?_eq_some_iff, field?_eq_some_iff, ← List.perm_singleton, ← List.perm_singleton]
  have hfilter := h.filter fun member => member.1 = some name
  exact ⟨hfilter.symm.trans, hfilter.trans⟩

theorem field?_cons_of_ne {other : Text} (h : other ≠ name) :
    field? ((some name, value) :: members) other = field? members other := by
  unfold field?
  rw [List.filter_cons_of_neg (by simpa using h.symm)]

/-- A field is found among the members with other names as well as among all. -/
theorem field?_filter_ne {other : Text} (h : other ≠ name) :
    field? (members.filter fun member => ¬ member.1 = some name) other = field? members other := by
  unfold field?
  rw [List.filter_filter, List.filter_congr]
  intro member _
  by_cases hkey : member.1 = some other
  · simp [hkey, h]
  · simp [hkey]

/-- The member with the name of a field comes first, the others after it. -/
theorem perm_of_field? (h : field? members name = some value) :
    members.Perm ((some name, value) :: members.filter fun member => ¬ member.1 = some name) := by
  have hparts := List.filter_append_perm (fun member => decide (member.1 = some name)) members
  rw [field?_eq_some_iff.mp h] at hparts
  simpa using hparts.symm

-- ════════════════════════════════════════════════════════════════════════
-- All fields
-- ════════════════════════════════════════════════════════════════════════

theorem mapM_eq_some_iff {f : Text → Option Json} :
    names.mapM f = some values ↔
      List.Forall₂ (fun name value => f name = some value) names values := by
  induction names generalizing values with
  | nil => simp [eq_comm]
  | cons name names ih =>
    rw [List.mapM_cons, List.forall₂_cons_left_iff]
    simp only [Option.bind_eq_bind, Option.bind_eq_some_iff, Option.pure_def, Option.some.injEq]
    constructor
    · rintro ⟨value, hvalue, rest, hrest, rfl⟩
      exact ⟨value, rest, hvalue, ih.mp hrest, rfl⟩
    · rintro ⟨value, rest, hvalue, hrest, rfl⟩
      exact ⟨value, hvalue, rest, ih.mpr hrest, rfl⟩

/-- The fields after the first have other names than the first. -/
theorem forall₂_of_ne {R : Text → Json → Prop} (hname : name ∉ names)
    (h : List.Forall₂ R names values) :
    List.Forall₂ (fun other value => other ≠ name ∧ R other value) names values :=
  (List.forall₂_and_left _ _).mpr ⟨fun _ hother heq => hname (heq ▸ hother), h⟩

/-- The members that are no field. -/
def skipped (names : List Text) (members : List (Option Text × Json)) :
    List (Option Text × Json) :=
  members.filter fun member => member.1 ∉ names.map some

theorem skipped_cons (name : Text) (names : List Text) (members : List (Option Text × Json)) :
    skipped (name :: names) members =
      skipped names (members.filter fun member => ¬ member.1 = some name) := by
  unfold skipped
  rw [List.filter_filter]
  refine List.filter_congr fun member _ => ?_
  rw [List.map_cons, Bool.eq_iff_iff]
  simp only [List.mem_cons, not_or, Bool.and_eq_true, decide_eq_true_eq]
  exact and_comm

/-- An object that has each field once has the members that are no field, and the fields. -/
theorem perm_of_fields (hnames : names.Nodup)
    (h : List.Forall₂ (fun name value => field? members name = some value) names values) :
    members.Perm (skipped names members ++ (names.map some).zip values) := by
  -- Each field takes the member with its name away, and the others are as they were.
  induction names generalizing members values with
  | nil => simp [skipped]
  | cons name names ih =>
    obtain ⟨hname, hnames⟩ := List.nodup_cons.mp hnames
    obtain ⟨value, values, hvalue, hrest, rfl⟩ := List.forall₂_cons_left_iff.mp h
    have hothers : List.Forall₂ (fun other value =>
        field? (members.filter fun member => ¬ member.1 = some name) other = some value)
        names values :=
      (forall₂_of_ne hname hrest).imp fun _ _ ⟨hne, hfield⟩ => (field?_filter_ne hne).trans hfield
    have hperm := ih hnames hothers
    rw [skipped_cons, List.map_cons, List.zip_cons_cons]
    exact ((perm_of_field? hvalue).trans (hperm.cons _)).trans List.perm_middle.symm

/-- The object that has the fields in order has each of them once. -/
theorem fields_recordOf (hnames : names.Nodup) (hlength : values.length = names.length) :
    List.Forall₂ (fun name value => field? ((names.map some).zip values) name = some value)
      names values := by
  induction names generalizing values with
  | nil =>
    obtain rfl := List.length_eq_zero_iff.mp hlength
    exact .nil
  | cons name names ih =>
    obtain ⟨hname, hnames⟩ := List.nodup_cons.mp hnames
    obtain ⟨value, values, rfl⟩ := List.exists_cons_of_length_eq_add_one hlength
    have hrest := ih hnames (Nat.succ.inj hlength)
    rw [List.map_cons, List.zip_cons_cons]
    refine .cons ?_ ((forall₂_of_ne hname hrest).imp fun _ _ ⟨hne, hfield⟩ => ?_)
    · rw [field?_eq_some_iff, List.filter_cons_of_pos (by simp), List.filter_eq_nil_iff.mpr]
      intro member hmember
      obtain ⟨other, hother, hkey⟩ := List.mem_map.mp (List.of_mem_zip hmember).1
      rw [← hkey, decide_eq_true_eq]
      exact fun heq => hname (Option.some.inj heq ▸ hother)
    · exact (field?_cons_of_ne hne).trans hfield

-- ════════════════════════════════════════════════════════════════════════
-- Records
-- ════════════════════════════════════════════════════════════════════════

/-- Every key stands for a text, and for the name of a field if the record is closed. -/
def Admitted (names : List Text) (closed : Bool) (members : List (Option Text × Json)) : Prop :=
  ∀ member ∈ members, ∃ key, member.1 = some key ∧ (closed = true → key ∈ names)

theorem record?_object_eq_some_iff :
    record? names closed (.object members) = some values ↔
      Admitted names closed members ∧
        List.Forall₂ (fun name value => field? members name = some value) names values := by
  rw [record?, ← mapM_eq_some_iff]
  split
  · next h =>
    have hadmitted : Admitted names closed members := by
      intro member hmember
      have hmember := List.all_eq_true.mp h member hmember
      cases hkey : member.1 with
      | none => simp [hkey] at hmember
      | some key => exact ⟨key, rfl, fun hclosed => by simpa [hkey, hclosed] using hmember⟩
    rw [and_iff_right hadmitted]
  · next h =>
    have hrefused : ¬ Admitted names closed members := by
      intro hadmitted
      refine h (List.all_eq_true.mpr fun member hmember => ?_)
      obtain ⟨key, hkey, hfield⟩ := hadmitted member hmember
      cases closed with
      | false => simp [hkey]
      | true => simp [hkey, hfield rfl]
    simp [hrefused]

theorem record?_recordOf (hnames : names.Nodup) (hlength : values.length = names.length) :
    record? names closed (recordOf names values) = some values := by
  refine record?_object_eq_some_iff.mpr ⟨fun member hmember => ?_, fields_recordOf hnames hlength⟩
  obtain ⟨key, hmem, hkey⟩ := List.mem_map.mp (List.of_mem_zip hmember).1
  exact ⟨key, hkey.symm, fun _ => hmem⟩

/-- One step does not change what is read. -/
theorem Respelling.record?_eq (hnames : names.Nodup) (h : Respelling names closed v v') :
    record? names closed v = record? names closed v' := by
  cases h with
  | reorder h =>
    refine Option.ext fun values => ?_
    rw [record?_object_eq_some_iff, record?_object_eq_some_iff]
    refine and_congr (forall_congr' fun member => ?_) ?_
    · rw [h.mem_iff]
    · simp only [field?_perm h]
  | @skip members key value hopen hkey =>
    refine Option.ext fun values => ?_
    rw [record?_object_eq_some_iff, record?_object_eq_some_iff]
    refine and_congr ?_ ?_
    · rw [Admitted, List.forall_mem_cons, hopen]
      exact and_iff_right ⟨key, rfl, nofun⟩
    · constructor
      · intro hfields
        refine (forall₂_of_ne hkey hfields).imp fun _ _ ⟨hne, hfield⟩ => ?_
        exact (field?_cons_of_ne hne).symm.trans hfield
      · intro hfields
        refine (forall₂_of_ne hkey hfields).imp fun _ _ ⟨hne, hfield⟩ => ?_
        exact (field?_cons_of_ne hne).trans hfield
  | listed hlength =>
    rw [record?_recordOf hnames hlength, record?, if_pos hlength]

/-- Respelling a record does not change what is read. -/
theorem Respelled.record?_eq (hnames : names.Nodup) (h : Respelled names closed v v') :
    record? names closed v = record? names closed v' := by
  induction h with
  | rel _ _ h => exact h.record?_eq hnames
  | refl _ => rfl
  | symm _ _ _ ih => exact ih.symm
  | trans _ _ _ _ _ ih ih' => exact ih.trans ih'

/-- Members that are no field are skipped one after the other. -/
theorem respelled_append (hopen : closed = false) {others : List (Option Text × Json)}
    (hothers : ∀ member ∈ others, ∃ key, member.1 = some key ∧ key ∉ names) :
    Respelled names closed (.object (others ++ members)) (.object members) := by
  induction others with
  | nil => exact .refl _
  | cons member others ih =>
    obtain ⟨⟨key, hkey, hnew⟩, hrest⟩ := List.forall_mem_cons.mp hothers
    obtain ⟨_, value⟩ := member
    obtain rfl := hkey
    exact .trans _ _ _ (.rel _ _ (.skip hopen hnew)) (ih hrest)

/-- What is read as a record is a spelling of it. -/
theorem respelled_of_record? (hnames : names.Nodup) (h : record? names closed v = some values) :
    values.length = names.length ∧ Respelled names closed v (recordOf names values) := by
  cases v with
  | array items =>
    rw [record?] at h
    split at h
    · next hlength =>
      obtain rfl := Option.some.inj h
      exact ⟨hlength, .rel _ _ (.listed hlength)⟩
    · cases h
  | object members =>
    obtain ⟨hadmitted, hfields⟩ := record?_object_eq_some_iff.mp h
    have hperm := perm_of_fields hnames hfields
    refine ⟨hfields.length_eq.symm, .trans _ _ _ (.rel _ _ (.reorder hperm)) ?_⟩
    have hskipped : ∀ member ∈ skipped names members, ∃ key, member.1 = some key ∧ key ∉ names := by
      intro member hmember
      obtain ⟨hmem, hnew⟩ := List.mem_filter.mp hmember
      obtain ⟨key, hkey, -⟩ := hadmitted member hmem
      refine ⟨key, hkey, fun hfield => of_decide_eq_true hnew ?_⟩
      rw [hkey]
      exact List.mem_map_of_mem hfield
    cases closed with
    | false => exact respelled_append rfl hskipped
    | true =>
      -- In a closed record every key is the name of a field.
      have hnone : skipped names members = [] := by
        refine List.eq_nil_iff_forall_not_mem.mpr fun member hmember => ?_
        obtain ⟨key, hkey, hnew⟩ := hskipped member hmember
        obtain ⟨key', hkey', hfield⟩ := hadmitted member (List.mem_of_mem_filter hmember)
        obtain rfl := Option.some.inj (hkey.symm.trans hkey')
        exact hnew (hfield rfl)
      rw [hnone]
      exact .refl _
  | _ => cases h

/-- A value is read as a record exactly if it is a spelling of it. -/
theorem record?_eq_some_iff (hnames : names.Nodup) :
    record? names closed v = some values ↔
      values.length = names.length ∧ Respelled names closed v (recordOf names values) := by
  constructor
  · exact respelled_of_record? hnames
  · rintro ⟨hlength, h⟩
    rw [h.record?_eq hnames, record?_recordOf hnames hlength]

/-- The same for values that are as many as the names. -/
theorem record?_iff_respelled (hnames : names.Nodup) (hlength : values.length = names.length) :
    record? names closed v = some values ↔ Respelled names closed v (recordOf names values) :=
  (record?_eq_some_iff hnames).trans (and_iff_right hlength)

end CrashTrace.Json
