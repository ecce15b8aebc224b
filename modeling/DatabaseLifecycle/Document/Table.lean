/-!
Tables: values under texts, in increasing order of the texts. Two tables with the same entries are
equal, because the order is part of the type.
-/

namespace DatabaseLifecycle

/-- Values under texts, each text at most once and all in increasing order. -/
structure Table (α : Type) where
  /-- The texts with their values. -/
  entries : List (String × α)
  /-- Every text comes before those that follow it. -/
  ordered : entries.Pairwise fun first second => first.1 < second.1

namespace Table

variable {α : Type}

/-- The entries with one more, in its place; the value of an equal key is replaced. -/
def insertEntry (key : String) (value : α) : List (String × α) → List (String × α)
  | [] => [(key, value)]
  | (other, kept) :: rest =>
    if key < other then (key, value) :: (other, kept) :: rest
    else if key = other then (key, value) :: rest
    else (other, kept) :: insertEntry key value rest

/-- An entry after an insertion is the new one or was there before. -/
theorem mem_insertEntry {key : String} {value : α} {entries : List (String × α)}
    {entry : String × α} (member : entry ∈ insertEntry key value entries) :
    entry = (key, value) ∨ entry ∈ entries := by
  induction entries with
  | nil => simpa [insertEntry] using member
  | cons head rest step =>
    obtain ⟨other, kept⟩ := head
    unfold insertEntry at member
    split at member
    · simpa using member
    · split at member
      · rcases List.mem_cons.1 member with same | old
        · exact .inl same
        · exact .inr (List.mem_cons_of_mem _ old)
      · rcases List.mem_cons.1 member with same | old
        · exact .inr (same ▸ List.mem_cons_self)
        · exact (step old).imp_right (List.mem_cons_of_mem _)

/-- An insertion keeps the order. -/
theorem insertEntry_ordered {key : String} {value : α} {entries : List (String × α)}
    (ordered : entries.Pairwise fun first second => first.1 < second.1) :
    (insertEntry key value entries).Pairwise fun first second => first.1 < second.1 := by
  induction entries with
  | nil => simp [insertEntry]
  | cons head rest step =>
    obtain ⟨other, kept⟩ := head
    obtain ⟨before, inner⟩ := List.pairwise_cons.1 ordered
    unfold insertEntry
    split
    case isTrue less =>
      refine List.pairwise_cons.2 ⟨fun entry member => ?_, ordered⟩
      rcases List.mem_cons.1 member with rfl | old
      · exact less
      · exact String.lt_trans less (before entry old)
    case isFalse notLess =>
      split
      case isTrue same =>
        refine List.pairwise_cons.2 ⟨fun entry member => ?_, inner⟩
        exact same ▸ before entry member
      case isFalse different =>
        -- A key that is neither less nor equal is greater.
        have greater : other < key := by
          rcases String.le_total key other with below | above
          · exact absurd (String.le_antisymm below (String.not_lt.1 notLess)) different
          · exact String.not_le.1 fun below => different (String.le_antisymm below above)
        refine List.pairwise_cons.2 ⟨fun entry member => ?_, step inner⟩
        rcases mem_insertEntry member with rfl | old
        · exact greater
        · exact before entry old

/-- The table without entries. -/
def empty : Table α := ⟨[], .nil⟩

/-- The table with a value under a key, in place of what was there. -/
def insert (table : Table α) (key : String) (value : α) : Table α :=
  ⟨insertEntry key value table.entries, insertEntry_ordered table.ordered⟩

/-- The value under a key. -/
def find? (table : Table α) (key : String) : Option α := table.entries.lookup key

/-- The table of the entries, the last value of a repeated key kept. -/
def ofList (entries : List (String × α)) : Table α :=
  entries.foldl (fun table entry => table.insert entry.1 entry.2) empty

/-- The table with every value replaced by its image. -/
def map {β : Type} (image : α → β) (table : Table α) : Table β :=
  ⟨table.entries.map fun entry => (entry.1, image entry.2),
    List.pairwise_map.2 table.ordered⟩

/-- The first table with the entries of the second, which win. -/
def overriddenBy (first second : Table α) : Table α :=
  second.entries.foldl (fun table entry => table.insert entry.1 entry.2) first

instance : Inhabited (Table α) := ⟨empty⟩

end Table

end DatabaseLifecycle
