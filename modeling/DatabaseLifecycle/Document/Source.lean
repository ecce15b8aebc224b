import DatabaseLifecycle.Document.Basic

/-!
Notations that records are read from. A notation says which of its values can stand for a text, a
number, a list or a record; every record is then read in the same way from all of them.
-/

namespace DatabaseLifecycle

/-- What a value that is kept whole is going to be read as, as far as it matters for the keys in it. -/
inductive Shape where
  /-- Anything. -/
  | any
  /-- A record with these declared fields. -/
  | record (fields : List (String × Shape))
  deriving Inhabited

namespace Shape

/-- The declared fields, if there are any. -/
def fields : Shape → List (String × Shape)
  | any => []
  | record fields => fields

/-- The shape of a record none of whose fields is a record. -/
def flat (declared : List String) : Shape := record (declared.map (·, any))

end Shape

/-- How the values of one notation are read. Each reading fails on a value of another shape. -/
class Source (ν : Type) where
  /-- The value as a text. -/
  text? : ν → Option String
  /-- The value as a truth value. -/
  bool? : ν → Option Bool
  /-- The value as a whole number. -/
  integer? : ν → Option Int
  /-- Whether the value stands for nothing, where something or nothing may stand. -/
  isAbsent? : ν → Option Bool
  /-- The items of a list. -/
  items? : ν → Option (List ν)
  /-- The entries of an object in the order they were written. -/
  fields? : ν → Option (List (String × ν))
  /-- The values of a record written without its keys, in the order of its declaration. -/
  positions? : ν → Option (List ν)
  /-- The value as a document that is kept whole until it is read as something of a shape, inside as many
  lists and objects as are open around it. -/
  document? : (around : Nat) → Shape → ν → Option Document

namespace Document

/-- How many lists and objects may lie inside one another in a text of which a part is kept whole. -/
def openDepth : Nat := 127

instance : Source Document where
  text?
    | .text value => some value
    | _ => none
  bool?
    | .bool value => some value
    | _ => none
  integer?
    | .integer value => some value
    | _ => none
  isAbsent?
    | .null => some true
    | _ => some false
  items?
    | .list items => some items
    | _ => none
  fields?
    | .object fields => some fields
    | _ => none
  positions?
    | .list items => some items
    | _ => none
  document? around _ value := if value.isReadable (openDepth - around) then some value else none

end Document

namespace Source

variable {ν : Type} [Source ν] {α : Type}

/-- The value as a number of 32 bits without sign. -/
def natural32? (value : ν) : Option UInt32 := do
  let number ← integer? value
  if 0 ≤ number && number < UInt32.size then some number.toNat.toUInt32 else none

/-- The value as a number of 16 bits without sign. -/
def natural16? (value : ν) : Option UInt16 := do
  let number ← integer? value
  if 0 ≤ number && number < UInt16.size then some number.toNat.toUInt16 else none

/-- The value as a number of 32 bits with sign. -/
def integer32? (value : ν) : Option Int32 := do
  let number ← integer? value
  if -2147483648 ≤ number && number ≤ 2147483647 then some (Int32.ofInt number) else none

/-- The items of a list, each read in the same way. -/
def list? (read : ν → Option α) (value : ν) : Option (List α) := do
  (← items? value).mapM read

/-- The entries of an object, each value read in the same way. -/
def entries? (read : ν → Option α) (value : ν) : Option (List (String × α)) := do
  (← fields? value).mapM fun entry => (read entry.2).map (entry.1, ·)

/-- What is read from the value, or nothing when it stands for nothing. -/
def orAbsent? (read : ν → Option α) (value : ν) : Option (Option α) := do
  if ← isAbsent? value then return none else (read value).map some

end Source

end DatabaseLifecycle
