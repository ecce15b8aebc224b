import DatabaseLifecycle.Document.Source
import DatabaseLifecycle.Document.Table

/-!
Records: the values given for a fixed set of fields. A strict record gives each declared field at
most once; a lenient record may repeat fields, and what is given last counts. Neither minds fields
that are not declared.
-/

namespace DatabaseLifecycle

/-- The values that a record gives, each with the key of its field. -/
structure Record (ν : Type) where
  /-- The given fields in the order they were written. -/
  given : List (String × ν)

namespace Record

variable {ν : Type} {α : Type}

/-- Whether some text occurs twice. -/
def hasRepeats : List String → Bool
  | [] => false
  | key :: rest => rest.contains key || hasRepeats rest

/-- The declared fields among the entries of an object, each given at most once. -/
def ofEntries? (declared : List String) (entries : List (String × ν)) : Option (Record ν) :=
  let given := entries.filter fun entry => declared.contains entry.1
  if hasRepeats (given.map (·.1)) then none else some ⟨given⟩

/-- A record from its values in the order of declaration; the last ones may be left out. -/
def ofPositions? (declared : List String) (values : List ν) : Option (Record ν) :=
  if values.length ≤ declared.length then some ⟨declared.zip values⟩ else none

/-- A record with these declared fields, written with keys or, where the notation admits it, by
position. -/
def read? [Source ν] (declared : List String) (value : ν) : Option (Record ν) :=
  match Source.fields? value with
  | some entries => ofEntries? declared entries
  | none => Source.positions? value >>= ofPositions? declared

/-- The value of a field that must be given. -/
def required? (record : Record ν) (key : String) (read : ν → Option α) : Option α :=
  record.given.lookup key >>= read

/-- The value of a field, or a default when it is not given. -/
def orDefault? (record : Record ν) (key : String) (default : α) (read : ν → Option α) : Option α :=
  match record.given.lookup key with
  | some value => read value
  | none => some default

/-- The value of a field that may be missing or stand for nothing. -/
def optional? [Source ν] (record : Record ν) (key : String) (read : ν → Option α) :
    Option (Option α) :=
  record.orDefault? key none (Source.orAbsent? read)

/-- A record whose fields may be repeated. -/
def lenient? [Source ν] (value : ν) : Option (Record ν) :=
  (Source.fields? value).map Record.mk

/-- The value given last for a field that may be missing or stand for nothing; every value given for
it must be readable. -/
def last? [Source ν] (record : Record ν) (key : String) (read : ν → Option α) :
    Option (Option α) := do
  let values ← (record.given.filter (·.1 == key)).mapM fun entry => Source.orAbsent? read entry.2
  return values.getLast?.join

/-- Whether every value given for a field is this text. -/
def always [Source ν] (record : Record ν) (key text : String) : Bool :=
  record.given.all fun entry => entry.1 != key || Source.text? entry.2 == some text

end Record

/-- A table of texts, the last value of a repeated key kept. -/
def Table.texts? {ν : Type} [Source ν] (value : ν) : Option (Table String) :=
  (Source.entries? Source.text? value).map Table.ofList

/-- The object whose entries are those of the table. -/
def Table.write (table : Table String) : Document :=
  .object (table.entries.map fun entry => (entry.1, .text entry.2))

end DatabaseLifecycle
