import DatabaseLifecycle.Document.Record
import DatabaseLifecycle.Proofs.Document.Json
import DatabaseLifecycle.Proofs.Document.Table

/-!
What is written as an object with distinct keys is read back field by field: a strict and a lenient
record both find under each key the value that was written for it, if any.
-/

namespace DatabaseLifecycle

/-- What is read from the value of a field that may be missing or stand for nothing. -/
def Record.field? {α : Type} (read : Document → Option α) (value : Option Document) :
    Option (Option α) :=
  value.elim (some none) (Source.orAbsent? read)

namespace Document

variable {fields : List (String × Option Document)}

/-- The fields that have a value. -/
def given (fields : List (String × Option Document)) : List (String × Document) :=
  fields.filterMap fun field => field.2.map (field.1, ·)

/-- An object is made of fields that all have a value. -/
theorem object_eq_ofFields (entries : List (String × Document)) :
    object entries = ofFields (entries.map fun entry => (entry.1, some entry.2)) := by
  rw [ofFields, List.filterMap_map]
  exact congrArg object List.filterMap_some.symm

/-- The entries of an object are the fields that have a value. -/
theorem fields?_ofFields : Source.fields? (ofFields fields) = some (given fields) := rfl

/-- A field that has a value is one of the fields. -/
theorem mem_given {field : String × Document} :
    field ∈ given fields ↔ (field.1, some field.2) ∈ fields := by
  constructor
  · intro listed
    obtain ⟨⟨key, value⟩, member, held⟩ := List.mem_filterMap.mp listed
    obtain ⟨value, rfl, rfl⟩ := Option.map_eq_some_iff.mp held
    exact member
  · exact fun member => List.mem_filterMap.mpr ⟨_, member, rfl⟩

/-- The keys of the fields that have a value are distinct when all keys are. -/
theorem given_nodup (distinct : (fields.map (·.1)).Nodup) : ((given fields).map (·.1)).Nodup := by
  -- Leaving fields out keeps the order of the others.
  refine distinct.sublist ?_
  induction fields with
  | nil => exact .slnil
  | cons field rest step =>
    obtain ⟨key, value⟩ := field
    have shorter := step (List.nodup_cons.mp distinct).2
    cases value with
    | none => exact shorter.cons key
    | some value => exact shorter.cons_cons key

/-- Under a key stands the value of its field. -/
theorem lookup_given (distinct : (fields.map (·.1)).Nodup) (key : String) :
    (given fields).lookup key = (fields.lookup key).join := by
  induction fields with
  | nil => rfl
  | cons field rest step =>
    obtain ⟨other, value⟩ := field
    have later := step (List.nodup_cons.mp distinct).2
    by_cases here : key = other
    · subst here
      cases value with
      | some value => simp [given]
      | none =>
        -- No later field has this key.
        rw [show given ((key, none) :: rest) = given rest from rfl, later,
          Table.lookup_eq_none (List.nodup_cons.mp distinct).1]
        simp
    · cases value <;> simpa [given, List.lookup_cons, beq_eq_false_iff_ne.mpr here] using later

/-- The value found under a key is the value of its field. -/
theorem find?_ofFields (distinct : (fields.map (·.1)).Nodup) (key : String) :
    (ofFields fields).find? key = (fields.lookup key).join := by
  show (given fields).reverse.lookup key = _
  rw [Table.lookup_reverse (given_nodup distinct), lookup_given distinct]

/-- Whether a field has a plain value or none. -/
def IsPlainField (depth : Nat) (value : Option Document) : Prop :=
  ∀ document ∈ value, document.isPlain depth = true

/-- An object without empty fields is plain when the values of its fields are. -/
theorem isPlain_ofFields {depth : Nat} (plain : ∀ field ∈ fields, IsPlainField depth field.2) :
    (ofFields fields).isPlain (depth + 1) = true := by
  simp only [ofFields, isPlain, Bool.and_eq_true, arePlainFields_iff]
  exact ⟨by simp, fun field listed => plain _ (mem_given.mp listed) field.2 rfl⟩

/-- An object is plain when the values of its fields are. -/
theorem isPlain_object {entries : List (String × Document)} {depth : Nat}
    (plain : ∀ entry ∈ entries, IsPlainField depth (some entry.2)) :
    (object entries).isPlain (depth + 1) = true := by
  rw [object_eq_ofFields]
  refine isPlain_ofFields fun field listed => ?_
  obtain ⟨entry, member, rfl⟩ := List.mem_map.mp listed
  exact plain entry member

/-- A way of reading that undoes a way of writing, where no value is written as nothing and none
needs more than `depth` lists and objects inside one another. -/
structure Restores {α : Type} (read : Document → Option α) (write : α → Document) (depth : Nat) :
    Prop where
  /-- A written value is read back. -/
  read_write : ∀ value, read (write value) = some value
  /-- A written value does not stand for nothing. -/
  present : ∀ value, Source.isAbsent? (write value) = some false
  /-- A written value is plain. -/
  plain : ∀ value, (write value).isPlain depth = true

/-- How deep a plain document is does not matter as long as it is no deeper than allowed. -/
theorem isPlain_mono (document : Document) {depth deeper : Nat} (more : depth ≤ deeper)
    (plain : document.isPlain depth = true) : document.isPlain deeper = true := by
  -- The room left inside a list or an object grows with the room outside.
  induction document using byParts generalizing depth deeper with
  | list items step =>
    simp only [isPlain, Bool.and_eq_true, decide_eq_true_eq, arePlainItems_iff] at plain ⊢
    exact ⟨by omega, fun item listed =>
      step item listed (Nat.sub_le_sub_right more 1) (plain.2 item listed)⟩
  | object fields step =>
    simp only [isPlain, Bool.and_eq_true, decide_eq_true_eq, arePlainFields_iff] at plain ⊢
    exact ⟨by omega, fun field listed =>
      step field listed (Nat.sub_le_sub_right more 1) (plain.2 field listed)⟩
  | _ => exact plain

/-- The items are readable when each of them is. -/
theorem areItemsReadable_iff {depth : Nat} {items : List Document} :
    areItemsReadable depth items = true ↔ ∀ item ∈ items, item.isReadable depth = true := by
  induction items with
  | nil => simp [areItemsReadable]
  | cons item rest step => simp [areItemsReadable, step]

/-- The fields are readable when each of their values is. -/
theorem areFieldsReadable_iff {depth : Nat} {fields : List (String × Document)} :
    areFieldsReadable depth fields = true ↔ ∀ field ∈ fields, field.2.isReadable depth = true := by
  induction fields with
  | nil => simp [areFieldsReadable]
  | cons field rest step => simp [areFieldsReadable, step]

/-- A plain document is readable. -/
theorem isReadable_of_isPlain (document : Document) {depth : Nat}
    (plain : document.isPlain depth = true) : document.isReadable depth = true := by
  -- Both go down through lists and objects alike, and only values without parts differ.
  induction document using byParts generalizing depth with
  | unreadable => exact plain
  | list items step =>
    simp only [isPlain, isReadable, Bool.and_eq_true, arePlainItems_iff,
      areItemsReadable_iff] at plain ⊢
    exact ⟨plain.1, fun item listed => step item listed (plain.2 item listed)⟩
  | object fields step =>
    simp only [isPlain, isReadable, Bool.and_eq_true, arePlainFields_iff,
      areFieldsReadable_iff] at plain ⊢
    exact ⟨plain.1, fun field listed => step field listed (plain.2 field listed)⟩
  | _ => rfl

/-- A plain document that is not too deep is kept whole. -/
theorem document?_of_isPlain {document : Document} {depth around : Nat} (shape : Shape)
    (plain : document.isPlain depth = true) (shallow : depth ≤ openDepth - around) :
    Source.document? around shape document = some document :=
  if_pos (isReadable_of_isPlain document (isPlain_mono document shallow plain))

namespace Restores

variable {α : Type} {read : Document → Option α} {write : α → Document} {depth : Nat}

/-- A field that is there is read back. -/
theorem field?_some (restores : Restores read write depth) (value : α) :
    Record.field? read (some (write value)) = some (some value) := by
  simp [Record.field?, Source.orAbsent?, restores.present, restores.read_write]

/-- A field that is there is plain. -/
theorem plain_some (restores : Restores read write depth) {deeper : Nat} (more : depth ≤ deeper)
    (value : α) : IsPlainField deeper (some (write value)) := by
  intro document held
  cases held
  exact isPlain_mono _ more (restores.plain value)

/-- A field that may be missing is plain. -/
theorem plain_map (restores : Restores read write depth) {deeper : Nat} (more : depth ≤ deeper)
    (value : Option α) : IsPlainField deeper (value.map write) := by
  cases value with
  | none => exact fun _ held => nomatch held
  | some value => exact restores.plain_some more value

/-- Texts are read back. -/
theorem text : Restores Source.text? Document.text 0 :=
  ⟨fun _ => rfl, fun _ => rfl, fun _ => rfl⟩

/-- Truth values are read back. -/
theorem bool : Restores Source.bool? Document.bool 0 :=
  ⟨fun _ => rfl, fun _ => rfl, fun _ => rfl⟩

end Restores

end Document

namespace Record

variable {α : Type} {fields : List (String × Option Document)} {key : String}
  {read : Document → Option α}

/-- Keys that are distinct do not repeat. -/
theorem hasRepeats_eq_false {keys : List String} (distinct : keys.Nodup) :
    hasRepeats keys = false := by
  induction keys with
  | nil => rfl
  | cons key rest step =>
    obtain ⟨unlike, later⟩ := List.nodup_cons.mp distinct
    rw [hasRepeats, step later, Bool.or_false]
    simpa using unlike

/-- With distinct keys, an entry is the only one under its key. -/
theorem filter_key {entries : List (String × Document)} (distinct : (entries.map (·.1)).Nodup)
    (key : String) :
    entries.filter (·.1 == key) = ((entries.lookup key).map (key, ·)).toList := by
  induction entries with
  | nil => rfl
  | cons entry rest step =>
    obtain ⟨other, value⟩ := entry
    obtain ⟨unlike, later⟩ := List.nodup_cons.mp distinct
    -- Behind an entry with the key there is no other one.
    by_cases here : other = key
    · subst here
      have none_left : rest.filter (·.1 == other) = [] := by
        rw [List.filter_eq_nil_iff]
        intro entry listed same
        exact unlike (List.mem_map.mpr ⟨entry, listed, by simpa using same⟩)
      simp [none_left]
    · simp [here, List.lookup_cons, beq_eq_false_iff_ne.mpr (Ne.symm here), step later]

/-- The entries of declared fields are found as before. -/
theorem lookup_filter {ν : Type} {entries : List (String × ν)} {declared : List String}
    (listed : key ∈ declared) :
    (entries.filter fun entry => declared.contains entry.1).lookup key = entries.lookup key := by
  induction entries with
  | nil => rfl
  | cons entry rest step =>
    obtain ⟨other, value⟩ := entry
    -- Only entries with other keys are left out.
    by_cases here : key = other
    · subst here
      simp [listed]
    · by_cases kept : other ∈ declared <;>
        simpa [kept, List.lookup_cons, beq_eq_false_iff_ne.mpr here] using step

/-- The strict record that is read from written fields. -/
def written (declared : List String) (fields : List (String × Option Document)) : Record Document :=
  ⟨(Document.given fields).filter fun field => declared.contains field.1⟩

/-- Fields with distinct keys are read as a strict record. -/
theorem read?_ofFields (declared : List String) (distinct : (fields.map (·.1)).Nodup) :
    Record.read? declared (Document.ofFields fields) = some (written declared fields) := by
  -- A strict record refuses repeated keys, and there are none.
  have once : hasRepeats ((written declared fields).given.map (·.1)) = false := by
    refine hasRepeats_eq_false ((Document.given_nodup distinct).sublist ?_)
    exact List.filter_sublist.map _
  show ofEntries? declared (Document.given fields) = _
  exact if_neg (by simpa [written] using once)

/-- Fields are read as a lenient record. -/
theorem lenient?_ofFields : Record.lenient? (Document.ofFields fields)
    = some ⟨Document.given fields⟩ := rfl

/-- The last value of a written field is the one that was written. -/
theorem last?_given (distinct : (fields.map (·.1)).Nodup) (key : String) :
    last? ⟨Document.given fields⟩ key read
      = field? read (fields.lookup key).join := by
  rw [last?, filter_key (Document.given_nodup distinct), Document.lookup_given distinct]
  cases (fields.lookup key).join with
  | none => rfl
  | some value => cases shown : Source.orAbsent? read value <;> simp [field?, shown]

/-- A written field that states a text states it always. -/
theorem always_given (distinct : (fields.map (·.1)).Nodup) {text : String}
    (stated : (fields.lookup key).join = some (.text text)) :
    always ⟨Document.given fields⟩ key text = true := by
  rw [always, List.all_eq_true]
  intro field listed
  by_cases same : field.1 = key
  · have only : field ∈ (Document.given fields).filter (·.1 == key) :=
      List.mem_filter.mpr ⟨listed, by simpa using same⟩
    rw [filter_key (Document.given_nodup distinct), Document.lookup_given distinct, stated] at only
    have known : field = (key, .text text) := by simpa using only
    simp [known, Source.text?]
  · simp [same]

/-- A required field has the value that was written. -/
theorem required?_written {declared : List String} (distinct : (fields.map (·.1)).Nodup)
    (listed : key ∈ declared) :
    (written declared fields).required? key read = (fields.lookup key).join.bind read := by
  rw [required?, written, lookup_filter listed, Document.lookup_given distinct]
  rfl

/-- A field with a default has the value that was written, if any. -/
theorem orDefault?_written {declared : List String} (distinct : (fields.map (·.1)).Nodup)
    (listed : key ∈ declared) (default : α) :
    (written declared fields).orDefault? key default read
      = (fields.lookup key).join.elim (some default) read := by
  rw [orDefault?, written, lookup_filter listed, Document.lookup_given distinct]
  cases (fields.lookup key).join <;> rfl

/-- An optional field has the value that was written, if any. -/
theorem optional?_written {declared : List String} (distinct : (fields.map (·.1)).Nodup)
    (listed : key ∈ declared) :
    (written declared fields).optional? key read = field? read (fields.lookup key).join :=
  orDefault?_written distinct listed none

end Record

end DatabaseLifecycle
