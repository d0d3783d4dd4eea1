/-!
# Ordered entries

`Entries` pairs keys with values in the order in which the keys first appeared. Storing under a
known key replaces the value and keeps the place.
-/

namespace Stringify

universe u v

/-- Keys with their values, in the order of the first appearance of each key. -/
abbrev Entries (κ : Type u) (α : Type v) := List (κ × α)

namespace Entries

variable {κ : Type u} {α : Type v} [DecidableEq κ]

/-- The value stored under a key. -/
def get? : Entries κ α → κ → Option α
  | [], _ => none
  | (key, value) :: rest, wanted => if key = wanted then some value else get? rest wanted

/-- Store a value under a key. -/
def put : Entries κ α → κ → α → Entries κ α
  | [], key, value => [(key, value)]
  | (known, old) :: rest, key, value =>
    if known = key then (known, value) :: rest else (known, old) :: put rest key value

/-- The keys in order. -/
def keys (entries : Entries κ α) : List κ :=
  entries.map Prod.fst

/-- The keys are what a value is stored under. -/
theorem isSome_get?_iff {entries : Entries κ α} {wanted : κ} :
    (entries.get? wanted).isSome = true ↔ wanted ∈ entries.keys := by
  induction entries with
  | nil => simp [get?, keys]
  | cons entry rest ih =>
    obtain ⟨known, value⟩ := entry
    by_cases found : known = wanted
    · simp [get?, keys, found]
    · have other : ¬wanted = known := fun equal => found equal.symm
      simpa [get?, keys, found, other] using ih

@[simp] theorem get?_nil (wanted : κ) : get? ([] : Entries κ α) wanted = none := rfl

/-- A stored value is found under its key, and every other key keeps its value. -/
theorem get?_put (entries : Entries κ α) (key : κ) (value : α) (wanted : κ) :
    (entries.put key value).get? wanted =
      if key = wanted then some value else entries.get? wanted := by
  induction entries with
  | nil => simp [put, get?]
  | cons entry rest ih =>
    obtain ⟨known, old⟩ := entry
    by_cases same : known = key
    · by_cases found : key = wanted <;> simp [put, get?, same, found]
    · by_cases found : known = wanted
      · subst found
        have other : ¬key = known := fun equal => same equal.symm
        simp [put, get?, same, other]
      · simp [put, get?, same, found, ih]

/-- A new key goes to the end, and a known one keeps its place. -/
theorem keys_put (entries : Entries κ α) (key : κ) (value : α) :
    (entries.put key value).keys =
      if key ∈ entries.keys then entries.keys else entries.keys ++ [key] := by
  induction entries with
  | nil => simp [put, keys]
  | cons entry rest ih =>
    obtain ⟨known, old⟩ := entry
    by_cases same : known = key
    · simp [put, keys, same]
    · have other : ¬key = known := fun equal => same equal.symm
      simp only [put, same, if_false, keys, List.map_cons, List.mem_cons, other, false_or]
      simp only [keys] at ih
      rw [ih]
      split <;> simp_all

end Entries

end Stringify
