import DatabaseLifecycle.Store.Records

/-! Lookups in a record map after a change see the change at its own key and nothing else. -/

namespace DatabaseLifecycle

namespace RecordMap

variable {α : Type} {map : RecordMap} {kind : Kind} {key : RecordKey}

/-- An inserted entry is found, and all others are found as before. -/
theorem lookup_insertEntry (key wanted : RecordKey) (record : α) (entries : List (RecordKey × α)) :
    (insertEntry key record entries).lookup wanted =
      if wanted = key then some record else entries.lookup wanted := by
  -- The new entry either replaces the first one or is put before or after it.
  induction entries with
  -- In an empty list the new entry is all there is.
  | nil =>
    by_cases same : wanted = key
    · simp [insertEntry, same]
    · simp [insertEntry, List.lookup_cons, same, beq_eq_false_iff_ne.mpr same]
  | cons entry rest found =>
    obtain ⟨other, kept⟩ := entry
    by_cases replaced : other = key
    · -- The first entry gives way, so what was under its key is the new record.
      by_cases same : wanted = key
      · simp [insertEntry, replaced, same]
      · simp [insertEntry, replaced, List.lookup_cons, same, beq_eq_false_iff_ne.mpr same]
    · by_cases later : other.isBefore key = true
      · -- The new entry goes behind the first, which is still found first.
        rw [insertEntry, if_neg replaced, if_pos later, List.lookup_cons, List.lookup_cons, found]
        by_cases here : wanted = other
        · have different : ¬ wanted = key := by rw [here]; exact replaced
          simp [here, replaced]
        · simp [beq_eq_false_iff_ne.mpr here]
      · -- The new entry goes in front, and what follows is as it was.
        rw [insertEntry, if_neg replaced, if_neg later, List.lookup_cons]
        by_cases same : wanted = key
        · simp [same]
        · simp [same, beq_eq_false_iff_ne.mpr same]

/-- An erased entry is not found, and all others are found as before. -/
theorem lookup_filter_ne (key wanted : RecordKey) (entries : List (RecordKey × α)) :
    (entries.filter (·.1 != key)).lookup wanted =
      if wanted = key then none else entries.lookup wanted := by
  -- Every entry under the key is dropped, however often the key occurs.
  induction entries with
  | nil => simp
  | cons entry rest found =>
    obtain ⟨other, kept⟩ := entry
    by_cases erased : other = key
    · -- A dropped entry could only have been found under the key that is erased.
      rw [List.filter_cons_of_neg (by simp [erased]), found, List.lookup_cons]
      by_cases same : wanted = key
      · simp [same]
      · have different : ¬ wanted = other := by rw [erased]; exact same
        simp [same, beq_eq_false_iff_ne.mpr different]
    · rw [List.filter_cons_of_pos (by simpa using erased), List.lookup_cons, List.lookup_cons, found]
      by_cases here : wanted = other
      · simp [here, erased]
      · simp [beq_eq_false_iff_ne.mpr here]

/-- New entries are those of their kind. -/
theorem entries_withEntries (entries : List (RecordKey × kind.Record)) :
    (map.withEntries kind entries).entries kind = entries := by
  simp [withEntries]

/-- Entries of other kinds stay. -/
theorem entries_withEntries_of_ne {other : Kind} (different : kind ≠ other)
    (entries : List (RecordKey × kind.Record)) :
    (map.withEntries kind entries).entries other = map.entries other := by
  simp [withEntries, different]

/-- An inserted record is found under its key. -/
theorem get?_insert (record : kind.Record) (wanted : RecordKey) :
    (map.insert kind key record).get? kind wanted =
      if wanted = key then some record else map.get? kind wanted := by
  -- Both lookups are in the entries of one kind, so the list lemma applies.
  rw [get?, insert, entries_withEntries, lookup_insertEntry]
  rfl

/-- Inserting a record leaves the records of other kinds. -/
theorem get?_insert_of_ne {other : Kind} (different : kind ≠ other) (record : kind.Record)
    (wanted : RecordKey) : (map.insert kind key record).get? other wanted = map.get? other wanted := by
  rw [get?, insert, entries_withEntries_of_ne different]
  rfl

/-- An erased record is not found under its key. -/
theorem get?_erase (wanted : RecordKey) :
    (map.erase kind key).get? kind wanted =
      if wanted = key then none else map.get? kind wanted := by
  -- Erasing filters the entries of one kind and leaves the others.
  rw [get?, erase, entries_withEntries, lookup_filter_ne]
  rfl

/-- Erasing a record leaves the records of other kinds. -/
theorem get?_erase_of_ne {other : Kind} (different : kind ≠ other) (wanted : RecordKey) :
    (map.erase kind key).get? other wanted = map.get? other wanted := by
  rw [get?, erase, entries_withEntries_of_ne different]
  rfl

/-- A record that is there already stays. -/
theorem create_of_some {record kept : kind.Record}
    (taken : map.get? kind (.ofMetadata (kind.metadata record)) = some kept) :
    map.create kind record = (none, map) := by
  simp [create, taken]

/-- A record that is not there yet is inserted. -/
theorem create_of_none {record : kind.Record}
    (free : map.get? kind (.ofMetadata (kind.metadata record)) = none) :
    map.create kind record
      = (some record, map.insert kind (.ofMetadata (kind.metadata record)) record) := by
  simp [create, free]

/-- A submitted record is found under its key unless there was one already. -/
theorem get?_create (record : kind.Record) (wanted : RecordKey) :
    (map.create kind record).2.get? kind wanted =
      if wanted = .ofMetadata (kind.metadata record) then (map.get? kind wanted).or (some record)
      else map.get? kind wanted := by
  by_cases here : wanted = .ofMetadata (kind.metadata record)
  · subst here
    cases held : map.get? kind (.ofMetadata (kind.metadata record)) with
    | some kept => simp [create_of_some held, held]
    | none => simp [create_of_none held, get?_insert]
  · cases held : map.get? kind (.ofMetadata (kind.metadata record)) with
    | some kept => simp [create_of_some held, here]
    | none => simp [create_of_none held, get?_insert, here]

/-- Submitting a record leaves the records of other kinds. -/
theorem get?_create_of_ne {other : Kind} (different : kind ≠ other) (record : kind.Record)
    (wanted : RecordKey) : (map.create kind record).2.get? other wanted = map.get? other wanted := by
  cases held : map.get? kind (.ofMetadata (kind.metadata record)) with
  | some kept => rw [create_of_some held]
  | none => rw [create_of_none held, get?_insert_of_ne different]

end RecordMap

end DatabaseLifecycle
