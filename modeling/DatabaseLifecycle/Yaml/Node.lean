import DatabaseLifecycle.Document.Source
import DatabaseLifecycle.Yaml.Scalar
import DatabaseLifecycle.Yaml.Token

/-!
Nodes: the values of a YAML text, as they are written and as records are read from them. What a
scalar without quotes stands for is decided only when it is read: as a text it is its own text,
whatever else it may write.
-/

namespace DatabaseLifecycle.Yaml

/-- A value as it is written. -/
inductive Node where
  /-- A scalar. -/
  | scalar (tag : Option String) (style : Style) (text : String)
  /-- Values in order. -/
  | sequence (tag : Option String) (items : List Node)
  /-- Values under keys. -/
  | mapping (tag : Option String) (entries : List (Node × Node))
  /-- The value under the mark with this number. -/
  | alias (number : Nat)
  /-- A value with the number of its mark. -/
  | anchored (number : Nat) (node : Node)
  deriving Inhabited

/-- The beginning of the tags that YAML itself defines. -/
def ownTags : String := "tag:yaml.org,2002:"

namespace Node

/-- The empty scalar that stands where nothing is written. -/
def empty (tag : Option String) : Node := .scalar tag .plain ""

mutual

/-- The marked values, in the order of their marks. -/
def marked : Node → List (Nat × Node)
  | .anchored number node => (number, node) :: marked node
  | .sequence _ items => markedItems items
  | .mapping _ entries => markedEntries entries
  | _ => []

/-- The marked values among items. -/
def markedItems : List Node → List (Nat × Node)
  | [] => []
  | item :: rest => marked item ++ markedItems rest

/-- The marked values among entries. -/
def markedEntries : List (Node × Node) → List (Nat × Node)
  | [] => []
  | (key, value) :: rest => marked key ++ marked value ++ markedEntries rest

end

end Node

/-- A value without marks, in which every mark is replaced by what it stands for. -/
inductive Value where
  /-- A scalar. -/
  | scalar (tag : Option String) (style : Style) (text : String)
  /-- Values in order. -/
  | sequence (tag : Option String) (items : List Value)
  /-- Values under keys. -/
  | mapping (tag : Option String) (entries : List (Value × Value))
  /-- A value that contains itself. -/
  | endless
  deriving Inhabited

mutual

/-- The value of a node, given the values that marks stand for. -/
def Node.value (marks : Nat → Value) : Node → Value
  | .scalar tag style text => .scalar tag style text
  | .sequence tag items => .sequence tag (Node.values marks items)
  | .mapping tag entries => .mapping tag (Node.entryValues marks entries)
  | .alias number => marks number
  | .anchored _ node => Node.value marks node

/-- The values of items. -/
def Node.values (marks : Nat → Value) : List Node → List Value
  | [] => []
  | item :: rest => Node.value marks item :: Node.values marks rest

/-- The values of entries. -/
def Node.entryValues (marks : Nat → Value) : List (Node × Node) → List (Value × Value)
  | [] => []
  | (key, value) :: rest =>
    (Node.value marks key, Node.value marks value) :: Node.entryValues marks rest

end

/-- What a mark stands for, when marks are followed at most as many times in a row. Of several
values with the same number the last counts. -/
def markValue (table : List (Nat × Node)) : Nat → Nat → Value
  | 0, _ => .endless
  | depth + 1, number =>
    match table.reverse.lookup number with
    | some node => node.value (markValue table depth)
    | none => .endless

/-- The value of a whole text. -/
def Node.toValue (node : Node) : Value :=
  let table := node.marked
  node.value (markValue table table.length)

namespace Value

/-- The text of a scalar. -/
def text? : Value → Option String
  | .scalar _ _ text => some text
  | _ => none

/-- Whether a scalar is read by its text: it has no quotes, or the tag asks for it. -/
def isOpen (expected : String) (tag : Option String) (style : Style) : Bool :=
  style == .plain || style == .literal && tag == some (ownTags ++ expected)

/-- Whether a tag names a type of its own. -/
def isOwnType (tag : Option String) : Bool := tag.any (·.startsWith "!")

/-- The field that a key stands for, if it is a text or a number without sign: a number counts the
declared fields from zero. -/
def fieldName? (declared : List (String × Shape)) : Document → Option String
  | .text name => some name
  | .integer number =>
    if 0 ≤ number then some ((declared[number.toNat]?.map (·.1)).getD (toString number)) else none
  | _ => none

mutual

/-- The value as a document of a shape, in which scalars without quotes stand for what they write. -/
def document? : Shape → Value → Option Document
  | _, .scalar tag style text =>
    if isOwnType tag then none
    else if tag == some (ownTags ++ "bool") then (bool? text).map .bool
    else if tag == some (ownTags ++ "int") then
      ((integer? text).filter isKept).map .integer
    else if tag == some (ownTags ++ "float") then
      if isDecimal text then some (.decimal text) else none
    else if tag == some (ownTags ++ "null") then
      if nullSpellings.contains text then some .null else none
    else if tag.isNone && style == .plain then resolved text
    else some (.text text)
  | shape, .sequence tag items =>
    if isOwnType tag then none else (documents? (shape.fields.map (·.2)) items).map .list
  | shape, .mapping tag entries =>
    if isOwnType tag then none else (fields? shape.fields entries).map Json.ofPairs
  | _, .endless => none

/-- The items as documents, the first ones of these shapes. -/
def documents? : List Shape → List Value → Option (List Document)
  | _, [] => some []
  | shapes, item :: rest => do
    return (← document? (shapes.headD .any) item) :: (← documents? shapes.tail rest)

/-- The entries as fields of a record that declares some. -/
def fields? (declared : List (String × Shape)) :
    List (Value × Value) → Option (List (Option String × Document))
  | [] => some []
  | (key, value) :: rest => do
    let name := fieldName? declared (← document? .any key)
    let shape := (name.bind (declared.lookup ·)).getD .any
    return (name, ← document? shape value) :: (← fields? declared rest)

end

mutual

/-- Whether no more than `depth` lists and objects lie inside one another. -/
def fits (depth : Nat) : Value → Bool
  | .sequence _ items => 0 < depth && itemsFit (depth - 1) items
  | .mapping _ entries => 0 < depth && entriesFit (depth - 1) entries
  | _ => true

/-- Whether every item fits into the depth. -/
def itemsFit (depth : Nat) : List Value → Bool
  | [] => true
  | item :: rest => fits depth item && itemsFit depth rest

/-- Whether every key and value fits into the depth. -/
def entriesFit (depth : Nat) : List (Value × Value) → Bool
  | [] => true
  | (key, value) :: rest => fits depth key && fits depth value && entriesFit depth rest

end

/-- How many lists and objects may lie inside one another in a text of which a part is kept whole. -/
def openDepth : Nat := 128

/-- Whether a value is the empty scalar. -/
def isEmpty : Value → Bool
  | .scalar _ .plain "" => true
  | _ => false

instance : Source Value where
  text? := text?
  bool?
    | .scalar tag style text => if isOpen "bool" tag style then Yaml.bool? text else none
    | _ => none
  integer?
    | .scalar tag style text => if isOpen "int" tag style then Yaml.integer? text else none
    | _ => none
  isAbsent?
    | .scalar tag .plain text =>
      if tag == some (ownTags ++ "null") then
        if nullSpellings.contains text then some true else none
      else some (tag.isNone && (text.isEmpty || nullSpellings.contains text))
    | .endless => none
    | _ => some false
  items?
    | .sequence _ items => some items
    | value => if value.isEmpty then some [] else none
  fields?
    | .mapping _ entries => entries.mapM fun entry => entry.1.text?.map (·, entry.2)
    | value => if value.isEmpty then some [] else none
  positions? _ := none
  document? around shape value :=
    if value.fits (openDepth - around) then value.document? shape else none

end Value

end DatabaseLifecycle.Yaml
