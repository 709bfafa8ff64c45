/-!
# Entries by key

Lists of entries, each with a key that no other entry has. New entries are put at the end.

## Main definitions

- `Entries` — the lists
- `Entries.find?`, `Entries.put`, `Entries.erase`
-/

namespace CrashTrace

/-- Entries by key. -/
abbrev Entries (κ α : Type) := List (κ × α)

namespace Entries

variable {κ α : Type} [DecidableEq κ]

/-- The entry for a key. -/
def find? : Entries κ α → κ → Option α
  | [], _ => none
  | entry :: rest, key => if entry.1 = key then some entry.2 else find? rest key

/-- Sets the entry for a key. -/
def put : Entries κ α → κ → α → Entries κ α
  | [], key, value => [(key, value)]
  | entry :: rest, key, value =>
    if entry.1 = key then (key, value) :: rest else entry :: put rest key value

/-- Removes the entry for a key. -/
def erase : Entries κ α → κ → Entries κ α
  | [], _ => []
  | entry :: rest, key => if entry.1 = key then rest else entry :: erase rest key

theorem find?_put (entries : Entries κ α) (key other : κ) (value : α) :
    (entries.put key value).find? other = if key = other then some value else entries.find? other := by
  induction entries with
  | nil => rfl
  | cons entry rest ih =>
    by_cases hk : entry.1 = key
    · by_cases ho : key = other
      · simp [put, find?, hk, ho]
      · simp [put, find?, hk, ho]
    · by_cases ho : key = other
      · subst ho
        simp [put, find?, hk, ih]
      · simp only [put, hk, if_false, find?, ih, ho]

end Entries

end CrashTrace
