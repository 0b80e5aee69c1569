/-!
# Tables

Finite tables as lists of entries, one per key. Setting a key changes its value and no other.
-/

namespace BrowserWait

/-- A list of keys with their values. -/
abbrev Table (κ α : Type) := List (κ × α)

namespace Table

variable {κ α : Type} [BEq κ]

/-- The value of a key. -/
def get? (table : Table κ α) (key : κ) : Option α := table.lookup key

/-- The table with the value of one key changed. -/
def set (key : κ) (value : α) : Table κ α → Table κ α
  | [] => [(key, value)]
  | (k, v) :: more => if key == k then (key, value) :: more else (k, v) :: set key value more

/-- The table without a key. -/
def erase (table : Table κ α) (key : κ) : Table κ α := table.filter fun (k, _) => !(key == k)

/-- The table of entries given one after another; the last one for a key counts. -/
def ofEntries (entries : List (κ × α)) : Table κ α := entries.foldl (fun table (key, value) => set key value table) []

theorem get?_set_self [LawfulBEq κ] (table : Table κ α) (key : κ) (value : α) :
    get? (set key value table) key = some value := by
  induction table with
  | nil => simp [set, get?]
  | cons entry more ih =>
    obtain ⟨k, v⟩ := entry
    by_cases same : key = k
    · simp [set, get?, same]
    · have different : (key == k) = false := by simpa using same
      simpa [set, get?, List.lookup_cons, different] using ih

theorem get?_set_of_ne [LawfulBEq κ] (table : Table κ α) {key other : κ} (value : α) (differ : other ≠ key) :
    get? (set key value table) other = get? table other := by
  have unlike : (other == key) = false := by simpa using differ
  induction table with
  | nil => simp [set, get?, List.lookup_cons, unlike]
  | cons entry more ih =>
    obtain ⟨k, v⟩ := entry
    by_cases same : key = k
    · subst same
      simp [set, get?, List.lookup_cons, unlike]
    · have different : (key == k) = false := by simpa using same
      simp only [set, different, Bool.false_eq_true, if_false, get?, List.lookup_cons] at ih ⊢
      cases other == k <;> simp [ih]

end Table

end BrowserWait
