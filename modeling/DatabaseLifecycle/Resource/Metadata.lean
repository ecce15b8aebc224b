import DatabaseLifecycle.Document.Record

/-! What every record of the cluster says about itself: its name, its namespace and its labels. -/

namespace DatabaseLifecycle

/-- The namespace of records that name none. -/
def defaultNamespace : String := "default"

/-- What a record says about itself. -/
structure Metadata where
  /-- The name. -/
  name : Option String := none
  /-- The namespace. -/
  namespaceName : Option String := none
  /-- The text that a name is to be made from. -/
  generateName : Option String := none
  /-- The labels. -/
  labels : Option (Table String) := none
  deriving Inhabited

namespace Metadata

/-- The name, or the text it is to be made from, or nothing. -/
def effectiveName (metadata : Metadata) : String :=
  (metadata.name <|> metadata.generateName).getD ""

/-- The namespace, or another one when the record names none. -/
def namespaceOr (metadata : Metadata) (fallback : String) : String :=
  match metadata.namespaceName with
  | some name => if name.isEmpty then fallback else name
  | none => fallback

/-- The metadata with its own namespace, or with this one when it names none. -/
def withNamespace (metadata : Metadata) (fallback : String) : Metadata :=
  { metadata with namespaceName := some (metadata.namespaceOr fallback) }

/-- Metadata as it is read. -/
def read? {ν : Type} [Source ν] (value : ν) : Option Metadata := do
  let record ← Record.lenient? value
  return {
    name := ← record.last? "name" Source.text?
    namespaceName := ← record.last? "namespace" Source.text?
    generateName := ← record.last? "generateName" Source.text?
    labels := ← record.last? "labels" Table.texts? }

/-- Metadata as it is written. -/
def write (metadata : Metadata) : Document :=
  .ofFields [
    ("generateName", metadata.generateName.map .text),
    ("labels", metadata.labels.map Table.write),
    ("name", metadata.name.map .text),
    ("namespace", metadata.namespaceName.map .text)]

end Metadata

end DatabaseLifecycle
