/-!
# Keyed lists

A small map kept as a list of pairs in the order in which its keys were first set. Setting a key
that is present replaces its value in place, so a list that holds each key once keeps doing so.
-/

namespace FleetControl

/-- A list of keys with their values. -/
abbrev Keyed (κ α : Type) := List (κ × α)

namespace Keyed

variable {κ α : Type} [DecidableEq κ]

/-- The value of the first entry with the given key. -/
def find? (entries : Keyed κ α) (key : κ) : Option α :=
  match entries with
  | [] => none
  | (k, a) :: rest => if k = key then some a else find? rest key

/-- Gives the key a value, in place if the key is present and as the last entry otherwise. -/
def set (entries : Keyed κ α) (key : κ) (value : α) : Keyed κ α :=
  match entries with
  | [] => [(key, value)]
  | (k, a) :: rest => if k = key then (k, value) :: rest else (k, a) :: set rest key value

/-- Changes the value of a key, starting from `initial` where the key is absent. -/
def modify (entries : Keyed κ α) (key : κ) (initial : α) (f : α → α) : Keyed κ α :=
  set entries key (f ((find? entries key).getD initial))

/-- Removes every entry with the key. -/
def erase (entries : Keyed κ α) (key : κ) : Keyed κ α :=
  entries.filter fun entry => entry.1 ≠ key

@[simp] theorem find?_nil (key : κ) : find? ([] : Keyed κ α) key = none := rfl

@[simp] theorem find?_set_self (entries : Keyed κ α) (key : κ) (value : α) :
    find? (set entries key value) key = some value := by
  induction entries with
  | nil => simp [set, find?]
  | cons entry rest ih =>
      obtain ⟨k, a⟩ := entry
      by_cases h : k = key
      · simp [set, find?, h]
      · simp [set, find?, h, ih]

theorem find?_set_of_ne (entries : Keyed κ α) {key other : κ} (value : α) (hne : key ≠ other) :
    find? (set entries key value) other = find? entries other := by
  induction entries with
  | nil => simp [set, find?, hne]
  | cons entry rest ih =>
      obtain ⟨k, a⟩ := entry
      by_cases h : k = key
      · subst h
        simp [set, find?, hne]
      · by_cases ho : k = other
        · subst ho
          simp [set, find?, h]
        · simp [set, find?, h, ho, ih]

theorem set_eq_append {entries : Keyed κ α} {key : κ} (hnone : find? entries key = none) (value : α) :
    set entries key value = entries ++ [(key, value)] := by
  induction entries with
  | nil => rfl
  | cons entry rest ih =>
      obtain ⟨k, a⟩ := entry
      by_cases h : k = key
      · simp [find?, h] at hnone
      · simp only [find?, if_neg h] at hnone
        simp [set, h, ih hnone]

theorem find?_ne_none_iff {entries : Keyed κ α} {key : κ} :
    find? entries key ≠ none ↔ ∃ entry ∈ entries, entry.1 = key := by
  induction entries with
  | nil => simp
  | cons entry rest ih =>
      obtain ⟨k, a⟩ := entry
      by_cases h : k = key
      · simp [find?, h]
      · rw [find?, if_neg h, ih]
        simp [h]

end Keyed

end FleetControl
