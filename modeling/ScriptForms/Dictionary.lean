/-!
# Dictionaries

A list of entries serves as a dictionary. It keeps its names in the order in which they came in, and
a name that comes in again keeps its place and gets the new value.
-/

namespace ScriptForms.Dictionary

variable {α : Type}

/-- Stores a value under a name: in place if the name is there already, and at the end if not. -/
def store (name : String) (value : α) : List (String × α) → List (String × α)
  | [] => [(name, value)]
  | entry :: rest =>
    if entry.1 = name then (name, value) :: rest else entry :: store name value rest

/-- The dictionary that stores the given entries, one after the other. -/
def ofEntries (entries : List (String × α)) : List (String × α) :=
  entries.foldl (fun stored entry ↦ store entry.1 entry.2 stored) []

/-- A new name comes behind the others. -/
theorem store_of_lookup_eq_none {name : String} (value : α) {entries : List (String × α)}
    (h : entries.lookup name = none) : store name value entries = entries ++ [(name, value)] := by
  induction entries with
  | nil => rfl
  | cons entry rest ih =>
    rw [List.lookup_cons] at h
    by_cases hname : entry.1 = name
    · simp [hname] at h
    · have hbeq : (name == entry.1) = false := beq_eq_false_iff_ne.2 fun heq ↦ hname heq.symm
      rw [hbeq] at h
      rw [store, if_neg hname, ih h, List.cons_append]

end ScriptForms.Dictionary
