import DatabaseLifecycle.Document.Table

/-!
Lookups in a table after insertions, and in a table that another one overrides; and how a table is
determined: by its entries in any order, or by what is found in it.
-/

namespace DatabaseLifecycle.Table

variable {α : Type}

/-- Nothing is found under a key that no entry has. -/
theorem lookup_eq_none {entries : List (String × α)} {key : String}
    (unlike : key ∉ entries.map (·.1)) : entries.lookup key = none := by
  rw [List.lookup_eq_none_iff]
  intro entry listed
  rw [bne_iff_ne]
  exact fun same => unlike (List.mem_map.mpr ⟨entry, listed, same.symm⟩)

/-- What is found under a key does not depend on the order of entries with distinct keys. -/
theorem lookup_perm {first second : List (String × α)} (moved : first.Perm second)
    (distinct : (first.map (·.1)).Nodup) (key : String) : first.lookup key = second.lookup key := by
  induction moved with
  | nil => rfl
  | cons entry _ step =>
    obtain ⟨other, value⟩ := entry
    rw [List.lookup_cons, List.lookup_cons, step (List.nodup_cons.mp distinct).2]
  | swap first second rest =>
    obtain ⟨other, value⟩ := first
    obtain ⟨another, _⟩ := second
    -- At most one of the two entries that change places has the key.
    have unlike : another ≠ other := fun same => (List.nodup_cons.mp distinct).1 (by simp [same])
    by_cases here : key = other
    · subst here
      simp [List.lookup_cons, beq_eq_false_iff_ne.mpr unlike.symm]
    · simp [List.lookup_cons, beq_eq_false_iff_ne.mpr here]
  | trans earlier _ first second =>
    rw [first distinct, second ((earlier.map (·.1)).nodup_iff.mp distinct)]

/-- With distinct keys it does not matter from which end an entry is looked for. -/
theorem lookup_reverse {entries : List (String × α)} (distinct : (entries.map (·.1)).Nodup)
    (key : String) : entries.reverse.lookup key = entries.lookup key :=
  (lookup_perm entries.reverse_perm.symm distinct key).symm

/-- An inserted entry is found, and all others are found as before. -/
theorem lookup_insertEntry (key wanted : String) (value : α) (entries : List (String × α)) :
    (insertEntry key value entries).lookup wanted =
      if wanted = key then some value else entries.lookup wanted := by
  -- The new entry goes in front of the first, takes its place, or goes behind it.
  induction entries with
  | nil =>
    by_cases same : wanted = key
    · simp [insertEntry, same]
    · simp [insertEntry, List.lookup_cons, same, beq_eq_false_iff_ne.mpr same]
  | cons entry rest found =>
    obtain ⟨other, kept⟩ := entry
    by_cases before : key < other
    · rw [insertEntry, if_pos before, List.lookup_cons]
      by_cases same : wanted = key
      · simp [same]
      · simp [same, beq_eq_false_iff_ne.mpr same]
    · by_cases replaced : key = other
      · -- The first entry gives way, so what was under its key is the new value.
        rw [insertEntry, if_neg before, if_pos replaced, List.lookup_cons, List.lookup_cons,
          ← replaced]
        by_cases same : wanted = key
        · simp [same]
        · simp [same, beq_eq_false_iff_ne.mpr same]
      · rw [insertEntry, if_neg before, if_neg replaced, List.lookup_cons, List.lookup_cons, found]
        by_cases here : wanted = other
        · have different : ¬ wanted = key := fun same => replaced (same.symm.trans here)
          simp [here, Ne.symm replaced]
        · simp [beq_eq_false_iff_ne.mpr here]

/-- An inserted value is found under its key, and all others are found as before. -/
theorem find?_insert (table : Table α) (key wanted : String) (value : α) :
    (table.insert key value).find? wanted =
      if wanted = key then some value else table.find? wanted :=
  lookup_insertEntry key wanted value table.entries

/-- An entry with a new key is inserted somewhere. -/
theorem insertEntry_perm {key : String} {entries : List (String × α)}
    (unlike : key ∉ entries.map (·.1)) (value : α) :
    (insertEntry key value entries).Perm ((key, value) :: entries) := by
  induction entries with
  | nil => exact .refl _
  | cons entry rest step =>
    obtain ⟨other, kept⟩ := entry
    simp only [List.map_cons, List.mem_cons, not_or] at unlike
    rw [insertEntry, if_neg unlike.1]
    split
    · exact .refl _
    · -- The entry goes further down, past the one that stands here.
      exact ((step unlike.2).cons _).trans (.swap _ _ _)

/-- The keys of a table are distinct. -/
theorem entries_nodup (table : Table α) : (table.entries.map (·.1)).Nodup := by
  refine List.pairwise_map.mpr (table.ordered.imp fun less same => ?_)
  exact String.lt_irrefl _ (same ▸ less)

/-- Tables with the same entries are equal. -/
theorem eq_of_entries {first second : Table α} (same : first.entries = second.entries) :
    first = second := by
  cases first
  cases second
  cases same
  rfl

/-- Tables whose entries are the same in some order are equal. -/
theorem eq_of_perm {first second : Table α} (moved : first.entries.Perm second.entries) :
    first = second := by
  -- Two lists in increasing order that are permutations of each other are the same.
  apply eq_of_entries
  apply List.Perm.eq_of_pairwise _ first.ordered second.ordered moved
  intro entry other _ _ below above
  exact absurd (String.lt_trans below above) (String.lt_irrefl _)

/-- The entries of a table make up the table in whatever order they come. -/
theorem ofList_perm {entries : List (String × α)} {table : Table α}
    (moved : entries.Perm table.entries) : ofList entries = table := by
  -- The entries go in one after another, and none of them has the key of one that is in already.
  have gather : ∀ (rest : List (String × α)) (inside : Table α),
      ((rest ++ inside.entries).map (·.1)).Nodup →
        (rest.foldl (fun table entry => table.insert entry.1 entry.2) inside).entries.Perm
          (rest ++ inside.entries) := by
    intro rest
    induction rest with
    | nil => exact fun inside _ => .refl _
    | cons entry rest step =>
      intro inside distinct
      obtain ⟨unlike, _⟩ := List.nodup_cons.mp distinct
      have new : entry.1 ∉ inside.entries.map (·.1) := fun listed => unlike (by simp_all)
      have entered : (rest ++ (inside.insert entry.1 entry.2).entries).Perm
          (entry :: (rest ++ inside.entries)) :=
        ((insertEntry_perm new entry.2).append_left rest).trans List.perm_middle
      have following := step (inside.insert entry.1 entry.2)
        ((entered.map (·.1)).nodup_iff.mpr distinct)
      exact following.trans entered
  have distinct := (moved.map (·.1)).nodup_iff.mpr table.entries_nodup
  have whole := gather entries empty (by simpa [empty] using distinct)
  exact eq_of_perm (whole.trans (by simpa [empty] using moved))

/-- What is found under a key is the entry with that key. -/
theorem find?_eq_some_iff {table : Table α} {key : String} {value : α} :
    table.find? key = some value ↔ (key, value) ∈ table.entries := by
  constructor
  · intro found
    obtain ⟨before, after, split, _⟩ := List.lookup_eq_some_iff.mp found
    rw [split]
    exact List.mem_append_right before List.mem_cons_self
  · intro listed
    obtain ⟨before, after, split⟩ := List.append_of_mem listed
    refine List.lookup_eq_some_iff.mpr ⟨before, after, split, fun entry earlier => ?_⟩
    -- An entry before this one has a smaller key.
    have ordered := table.ordered
    rw [split, List.pairwise_append] at ordered
    have less : entry.1 < key := ordered.2.2 entry earlier (key, value) List.mem_cons_self
    have different : key ≠ entry.1 := fun same => String.lt_irrefl key (same ▸ less)
    simpa using different

/-- Tables that give the same under every key are equal. -/
theorem eq_of_find? {first second : Table α} (same : ∀ key, first.find? key = second.find? key) :
    first = second := by
  have distinct (table : Table α) : table.entries.Nodup := by
    apply table.ordered.imp
    intro entry other less same
    subst same
    exact String.lt_irrefl entry.1 less
  -- Each table has exactly the entries that it gives.
  apply eq_of_perm
  apply (List.perm_ext_iff_of_nodup (distinct first) (distinct second)).mpr
  intro entry
  rw [← find?_eq_some_iff, ← find?_eq_some_iff, same]

/-- Of the values that go into a table one after another the last under a key is found, and where
there is none the table's own. -/
theorem find?_inserted (values : List (String × α)) (table : Table α) (key : String) :
    (values.foldl (fun table entry => table.insert entry.1 entry.2) table).find? key
      = (values.reverse.lookup key).or (table.find? key) := by
  induction values generalizing table with
  | nil => rfl
  | cons entry rest found =>
    obtain ⟨other, value⟩ := entry
    rw [List.foldl_cons, found, find?_insert, List.reverse_cons, List.lookup_append, Option.or_assoc,
      List.lookup_cons, List.lookup_nil]
    -- The first value counts only if no later one has its key.
    by_cases here : key = other
    · simp [here]
    · simp [here, beq_eq_false_iff_ne.mpr here]

/-- A table that is overridden gives what the other has, and its own values elsewhere. -/
theorem find?_overriddenBy (first second : Table α) (key : String) :
    (first.overriddenBy second).find? key = (second.find? key).or (first.find? key) := by
  have inserted := find?_inserted second.entries first key
  rw [lookup_reverse second.entries_nodup] at inserted
  exact inserted

/-- What is found after a change of all values is the changed value. -/
theorem find?_map {β : Type} (image : α → β) (table : Table α) (key : String) :
    (table.map image).find? key = (table.find? key).map image := by
  obtain ⟨entries, ordered⟩ := table
  show (entries.map fun entry => (entry.1, image entry.2)).lookup key
    = (entries.lookup key).map image
  clear ordered
  induction entries with
  | nil => rfl
  | cons entry rest found =>
    rw [List.map_cons, List.lookup_cons, List.lookup_cons, found]
    cases key == entry.1 <;> rfl

end DatabaseLifecycle.Table
