/-!
Documents: the trees of values that templates, requests and answers are made of. Fields keep the
order in which they were written, and a key may occur more than once.
-/

namespace DatabaseLifecycle

/-- A tree of values. -/
inductive Document where
  /-- Nothing. -/
  | null
  /-- A truth value. -/
  | bool (value : Bool)
  /-- A number written without fraction and exponent. -/
  | integer (value : Int)
  /-- Any other number, as it was written. -/
  | decimal (literal : String)
  /-- A text. -/
  | text (value : String)
  /-- A value that has a place in the tree but cannot be read: a text with half a surrogate pair, a
  number past all bounds, or an object with such a key. -/
  | unreadable
  /-- Values in order. -/
  | list (items : List Document)
  /-- Values under keys, in the order they were written. -/
  | object (fields : List (String × Document))
  deriving Inhabited

namespace Document

/-- The fields with one more in front of the first greater key; a key that is there already keeps
its value. -/
def insertField (key : String) (value : Document) :
    List (String × Document) → List (String × Document)
  | [] => [(key, value)]
  | (other, kept) :: rest =>
    if key < other then (key, value) :: (other, kept) :: rest
    else if key = other then (other, kept) :: rest
    else (other, kept) :: insertField key value rest

mutual

/-- The document with the fields of every object in increasing order of their keys, the last value
of a repeated key kept. -/
def sorted : Document → Document
  | .list items => .list (sortedItems items)
  | .object fields => .object (sortedFields fields)
  | other => other

/-- The items, each with sorted fields. -/
def sortedItems : List Document → List Document
  | [] => []
  | item :: rest => sorted item :: sortedItems rest

/-- The fields in increasing order of their keys, the last value of a repeated key kept. -/
def sortedFields : List (String × Document) → List (String × Document)
  | [] => []
  | (key, value) :: rest => insertField key (sorted value) (sortedFields rest)

end

mutual

/-- Whether every value of the document can be read and no more than `depth` lists and objects lie
inside one another. -/
def isReadable (depth : Nat) : Document → Bool
  | .unreadable => false
  | .list items => 0 < depth && areItemsReadable (depth - 1) items
  | .object fields => 0 < depth && areFieldsReadable (depth - 1) fields
  | _ => true

/-- Whether every item can be read within the depth. -/
def areItemsReadable (depth : Nat) : List Document → Bool
  | [] => true
  | item :: rest => isReadable depth item && areItemsReadable depth rest

/-- Whether every field's value can be read within the depth. -/
def areFieldsReadable (depth : Nat) : List (String × Document) → Bool
  | [] => true
  | (_, value) :: rest => isReadable depth value && areFieldsReadable depth rest

end

/-- The value last written under a key of an object. -/
def find? (key : String) : Document → Option Document
  | .object fields => fields.reverse.lookup key
  | _ => none

/-- An object without the fields that have no value. -/
def ofFields (fields : List (String × Option Document)) : Document :=
  .object (fields.filterMap fun field => field.2.map (field.1, ·))

end Document

end DatabaseLifecycle
