import DatabaseLifecycle.Resource.Metadata
import DatabaseLifecycle.Text.Base64
import DatabaseLifecycle.Text.Utf8

/-! Secrets: credential records, with values given as bytes or as texts. -/

namespace DatabaseLifecycle

/-- A credential record. -/
structure Secret where
  /-- What the secret says about itself. -/
  metadata : Metadata := {}
  /-- Values given as bytes. -/
  data : Option (Table (List UInt8)) := none
  /-- Values given as texts. -/
  stringData : Option (Table String) := none
  /-- The use of the secret. -/
  type : Option String := none
  /-- Whether the values may not be changed. -/
  immutable : Option Bool := none
  deriving Inhabited

namespace Secret

/-- The version of the records' form. -/
def apiVersion : String := "v1"

/-- The name of the kind. -/
def kindName : String := "Secret"

/-- Bytes written in base 64; nothing stands for no bytes. -/
def bytes? {ν : Type} [Source ν] (value : ν) : Option (List UInt8) := do
  match ← Source.orAbsent? Source.text? value with
  | some text => Text.Base64.decode? text
  | none => return []

/-- A secret as it is read. -/
def read? {ν : Type} [Source ν] (value : ν) : Option Secret := do
  let record ← Record.lenient? value
  if record.always "apiVersion" apiVersion && record.always "kind" kindName then
    return {
      metadata := (← record.last? "metadata" Metadata.read?).getD {}
      data := ← record.last? "data" fun table => (Source.entries? bytes? table).map Table.ofList
      stringData := ← record.last? "stringData" Table.texts?
      type := ← record.last? "type" Source.text?
      immutable := ← record.last? "immutable" Source.bool? }
  else none

/-- A secret as it is written. -/
def write (secret : Secret) : Document :=
  .ofFields [
    ("apiVersion", some (.text apiVersion)),
    ("kind", some (.text kindName)),
    ("data", secret.data.map fun table => (table.map Text.Base64.encode).write),
    ("immutable", secret.immutable.map .bool),
    ("metadata", some secret.metadata.write),
    ("stringData", secret.stringData.map Table.write),
    ("type", secret.type.map .text)]

/-- The values of a secret as texts; a value given as a text wins over one given as bytes. -/
def values (secret : Secret) : Table String :=
  ((secret.data.getD .empty).map Text.Utf8.decodeLossy).overriddenBy
    (secret.stringData.getD .empty)

/-- The secret with these values given as texts. -/
def inject (secret : Secret) (values : List (String × String)) : Secret :=
  let table := secret.stringData.getD .empty
  { secret with
    stringData := some (values.foldl (fun table entry => table.insert entry.1 entry.2) table) }

end Secret

end DatabaseLifecycle
