import Mathlib.Data.List.Basic

/-!
# Dictionaries

A dictionary as a list of entries, read with `List.lookup`. An update replaces the entry in its
place, or appends one.

## Main definitions

* `Dictionary.updateValue` — assign a value to a key.
* `Dictionary.updateIfSome` — the same for a value that may be missing.

## Main results

* `Dictionary.lookup_updateValue`, `Dictionary.lookup_updateIfSome` — what a key reads after an
  update.
-/

variable {κ α : Type*} [DecidableEq κ]

namespace Dictionary

def updateValue (entries : List (κ × α)) (value : α) (key : κ) : List (κ × α) :=
  match entries with
  | [] => [(key, value)]
  | entry :: entries =>
    if key = entry.1 then (key, value) :: entries else entry :: updateValue entries value key

/-- Nothing is assigned where there is no value. -/
def updateIfSome (entries : List (κ × α)) (value : Option α) (key : κ) : List (κ × α) :=
  match value with
  | none => entries
  | some value => updateValue entries value key

theorem lookup_cons (key key' : κ) (value : α) (entries : List (κ × α)) :
    ((key, value) :: entries).lookup key' =
      if key' = key then some value else entries.lookup key' := by
  by_cases same : key' = key
  · simp [same]
  · rw [List.lookup_cons, beq_eq_false_iff_ne.mpr same, if_neg same]

theorem lookup_updateValue (entries : List (κ × α)) (value : α) (key key' : κ) :
    (updateValue entries value key).lookup key' =
      if key' = key then some value else entries.lookup key' := by
  induction entries with
  | nil => exact lookup_cons key key' value []
  | cons entry entries ih =>
    obtain ⟨k, v⟩ := entry
    by_cases here : key = k
    · subst here
      simp only [updateValue, if_true, lookup_cons]
      split_ifs <;> rfl
    · simp only [updateValue, here, if_false, lookup_cons, ih]
      by_cases same : key' = key
      · simp [same, here]
      · simp [same]

theorem lookup_updateIfSome (entries : List (κ × α)) (value : Option α) (key key' : κ) :
    (updateIfSome entries value key).lookup key' =
      if key' = key then value.or (entries.lookup key') else entries.lookup key' := by
  cases value with
  | none => simp [updateIfSome]
  | some value => simp [updateIfSome, lookup_updateValue]

end Dictionary
