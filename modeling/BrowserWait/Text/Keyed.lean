/-!
# Entries by key

Lists of entries by increasing key, each key once. The order of keys is that of their characters' numbers, which is
also the order of their UTF-8 bytes.
-/

namespace BrowserWait.Keyed

variable {α : Type}

/-- The entries with the value of one key set; an earlier value of the key is replaced. -/
def set (key : String) (value : α) : List (String × α) → List (String × α)
  | [] => [(key, value)]
  | (k, v) :: more =>
    if key = k then (key, value) :: more
    else if key < k then (key, value) :: (k, v) :: more
    else (k, v) :: set key value more

/-- The entries given one after another; of two with the same key the later one counts. -/
def ofEntries (entries : List (String × α)) : List (String × α) :=
  entries.foldl (fun sorted (key, value) => set key value sorted) []

theorem lookup_set_self (key : String) (value : α) (entries : List (String × α)) :
    (set key value entries).lookup key = some value := by
  induction entries with
  | nil => simp [set]
  | cons entry more ih =>
    obtain ⟨k, v⟩ := entry
    unfold set
    split
    · simp
    · split
      · simp
      · next different _ => simp only [List.lookup_cons, beq_false_of_ne different]; exact ih

theorem lookup_set_of_ne {key other : String} (value : α) (entries : List (String × α)) (differ : other ≠ key) :
    (set key value entries).lookup other = entries.lookup other := by
  have unlike : (other == key) = false := beq_false_of_ne differ
  induction entries with
  | nil => simp [set, List.lookup_cons, unlike]
  | cons entry more ih =>
    obtain ⟨k, v⟩ := entry
    unfold set
    split
    · next same => subst same; simp [List.lookup_cons, unlike]
    · split
      · simp [List.lookup_cons, unlike]
      · simp only [List.lookup_cons]
        cases other == k <;> simp [ih]

/-! ## Order -/

/-- Entries stand by increasing key, each key once. -/
def Sorted (entries : List (String × α)) : Prop := entries.Pairwise fun first second => first.1 < second.1

theorem mem_of_mem_set {key : String} {value : α} {entries : List (String × α)} {entry : String × α}
    (member : entry ∈ set key value entries) : entry = (key, value) ∨ entry ∈ entries := by
  induction entries with
  | nil => exact .inl (List.mem_singleton.mp member)
  | cons head more ih =>
    obtain ⟨k, v⟩ := head
    unfold set at member
    split at member
    · exact (List.mem_cons.mp member).imp_right (List.mem_cons_of_mem _)
    · split at member
      · exact List.mem_cons.mp member
      · rcases List.mem_cons.mp member with rfl | later
        · exact .inr List.mem_cons_self
        · exact (ih later).imp_right (List.mem_cons_of_mem _)

theorem Sorted.set {entries : List (String × α)} (sorted : Sorted entries) (key : String) (value : α) :
    Sorted (Keyed.set key value entries) := by
  induction entries with
  | nil => exact List.pairwise_singleton _ _
  | cons head more ih =>
    obtain ⟨k, v⟩ := head
    obtain ⟨first, rest⟩ := List.pairwise_cons.mp sorted
    unfold Keyed.set
    split
    · next same => exact List.pairwise_cons.mpr ⟨same ▸ first, rest⟩
    · next differ =>
      split
      · next before =>
        refine List.pairwise_cons.mpr ⟨fun entry member => ?_, sorted⟩
        rcases List.mem_cons.mp member with rfl | later
        · exact before
        · exact String.lt_trans before (first entry later)
      · next notBefore =>
        have behind : k < key := Std.lt_of_le_of_ne notBefore (Ne.symm differ)
        refine List.pairwise_cons.mpr ⟨fun entry member => ?_, ih rest⟩
        rcases mem_of_mem_set member with rfl | later
        · exact behind
        · exact first entry later

theorem sorted_ofEntries (entries : List (String × α)) : Sorted (ofEntries entries) := by
  have each (sorted : List (String × α)) (holds : Sorted sorted) :
      Sorted (entries.foldl (fun sorted (key, value) => set key value sorted) sorted) := by
    induction entries generalizing sorted with
    | nil => exact holds
    | cons entry more ih => exact ih _ (holds.set entry.1 entry.2)
  exact each [] List.Pairwise.nil

/-- A key has the value it was given last. -/
theorem lookup_ofEntries (key : String) (entries : List (String × α)) :
    (ofEntries entries).lookup key = entries.reverse.lookup key := by
  have each (sorted : List (String × α)) :
      (entries.foldl (fun sorted (key, value) => set key value sorted) sorted).lookup key =
        (entries.reverse.lookup key).or (sorted.lookup key) := by
    induction entries generalizing sorted with
    | nil => rfl
    | cons entry more ih =>
      obtain ⟨k, v⟩ := entry
      rw [List.foldl_cons, ih, List.reverse_cons, List.lookup_append, Option.or_assoc]
      congr 1
      by_cases same : key = k
      · subst same
        simp [lookup_set_self]
      · have unlike : (key == k) = false := beq_false_of_ne same
        simp [lookup_set_of_ne v sorted same, List.lookup_cons, unlike]
  rw [ofEntries, each, List.lookup_nil, Option.or_none]

theorem mem_iff_lookup {entries : List (String × α)} (sorted : Sorted entries) {key : String} {value : α} :
    (key, value) ∈ entries ↔ entries.lookup key = some value := by
  induction entries with
  | nil => simp
  | cons head more ih =>
    obtain ⟨k, v⟩ := head
    obtain ⟨first, rest⟩ := List.pairwise_cons.mp sorted
    rw [List.mem_cons, List.lookup_cons]
    by_cases same : key = k
    · subst same
      have later : (key, value) ∉ more := fun member => String.lt_irrefl key (first _ member)
      simp [later, eq_comm]
    · have unlike : (key == k) = false := beq_false_of_ne same
      simp [same, unlike, ih rest]

/-- An entry given last under its key is one of the sorted ones. -/
theorem mem_ofEntries_iff {entries : List (String × α)} {key : String} {value : α} :
    (key, value) ∈ ofEntries entries ↔ entries.reverse.lookup key = some value := by
  rw [mem_iff_lookup (sorted_ofEntries entries), lookup_ofEntries]

end BrowserWait.Keyed
