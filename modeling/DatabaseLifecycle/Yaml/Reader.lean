import DatabaseLifecycle.Yaml.Node

/-!
Reading of YAML texts. A text holds one document; a text without any stands for the empty scalar.
-/

namespace DatabaseLifecycle.Yaml

/-- What is still to be read of a document, and the numbers of the marks so far. -/
structure Reading where
  /-- The tokens. -/
  tokens : List Token
  /-- The number that each name of a mark stands for at present. -/
  marks : List (String × Nat) := []
  /-- The texts that handles of tags stand for. -/
  handles : List (String × String) := [("!", "!"), ("!!", ownTags)]

/-- A step of reading. -/
abbrev Reader : Type → Type := StateT Reading Option

namespace Reader

/-- The next token. -/
def peek : Reader Token := do
  return (← get).tokens.headD .streamEnd

/-- Goes past the next token. -/
def skip : Reader Unit := modify fun reading => { reading with tokens := reading.tokens.drop 1 }

/-- Goes past the next token if it is this one. -/
def skipIf (token : Token) : Reader Bool := do
  if (← peek) == token then
    skip
    return true
  else return false

/-- Goes past the next token, which must be this one. -/
def expect (token : Token) : Reader Unit := do
  if ← skipIf token then return () else failure

/-- The number for a mark. A name that is used again gets the number of how many names there are. -/
def mark (name : String) : Reader Nat := do
  let reading ← get
  let number := reading.marks.length
  set { reading with marks := (name, number) :: reading.marks.filter (·.1 != name) }
  return number

/-- The full text of a tag. -/
def fullTag (tag : Tag) : Reader String := do
  if tag.handle.isEmpty then return tag.suffix
  else
    match (← get).handles.lookup tag.handle with
    | some replacement => return replacement ++ tag.suffix
    | none => failure

/-- The mark and the tag in front of a node, in either order. -/
def properties : Reader (Option String × Option String) := do
  match ← peek with
  | .anchor name =>
    skip
    match ← peek with
    | .tag tag =>
      skip
      return (some name, some (← fullTag tag))
    | _ => return (some name, none)
  | .tag tag =>
    skip
    match ← peek with
    | .anchor name =>
      skip
      return (some name, some (← fullTag tag))
    | _ => return (none, some (← fullTag tag))
  | _ => return (none, none)

/-- A node with its number, if it has one. -/
def numbered (number : Option Nat) (node : Node) : Node :=
  match number with
  | some number => .anchored number node
  | none => node

/-- Whether the next token is one of these. -/
def isNext (tokens : List Token) : Reader Bool := do
  return tokens.contains (← peek)

mutual

/-- A node. Block style is admitted outside brackets, and there a list may stand under a key without
being indented. -/
def node (block flush : Bool) : Nat → Reader Node
  | 0 => failure
  | fuel + 1 => do
    match ← peek with
    | .alias name =>
      skip
      match (← get).marks.lookup name with
      | some number => return .alias number
      | none => failure
    | _ =>
      let (name, tag) ← properties
      let number ← name.mapM mark
      match ← peek with
      | .scalar style text =>
        skip
        return numbered number (.scalar (tag.filter (· != "!")) style text)
      | .blockEntry =>
        if flush then return numbered number (.sequence tag (← flushItems fuel))
        else bare number tag
      | .flowSequenceStart =>
        skip
        return numbered number (.sequence tag (← flowItems true fuel))
      | .flowMappingStart =>
        skip
        return numbered number (.mapping tag (← flowEntries true fuel))
      | .blockSequenceStart =>
        if block then
          skip
          return numbered number (.sequence tag (← blockItems fuel))
        else bare number tag
      | .blockMappingStart =>
        if block then
          skip
          return numbered number (.mapping tag (← blockEntries fuel))
        else bare number tag
      | _ => bare number tag

/-- The node that a mark or tag in front of nothing makes. -/
def bare (number : Option Nat) (tag : Option String) : Reader Node :=
  if number.isNone && tag.isNone then failure
  else return numbered number (.empty tag)

/-- A node, or the empty scalar before one of these tokens. -/
def nodeUnless (block flush : Bool) (ends : List Token) : Nat → Reader Node
  | 0 => failure
  | fuel + 1 => do
    if ← isNext ends then return .empty none else node block flush fuel

/-- The items of an indented list. -/
def blockItems : Nat → Reader (List Node)
  | 0 => failure
  | fuel + 1 => do
    if ← skipIf .blockEntry then
      let item ← nodeUnless true false [.blockEntry, .blockEnd] fuel
      return item :: (← blockItems fuel)
    else
      expect .blockEnd
      return []

/-- The items of a list that is not indented. -/
def flushItems : Nat → Reader (List Node)
  | 0 => failure
  | fuel + 1 => do
    if ← skipIf .blockEntry then
      let item ← nodeUnless true false [.blockEntry, .key, .value, .blockEnd] fuel
      return item :: (← flushItems fuel)
    else return []

/-- The entries of an indented object. -/
def blockEntries : Nat → Reader (List (Node × Node))
  | 0 => failure
  | fuel + 1 => do
    if ← skipIf .key then
      let key ← nodeUnless true true [.key, .value, .blockEnd] fuel
      let value ← blockValue fuel
      return (key, value) :: (← blockEntries fuel)
    else
      expect .blockEnd
      return []

/-- The value after a key of an indented object. -/
def blockValue : Nat → Reader Node
  | 0 => failure
  | fuel + 1 => do
    if ← skipIf .value then nodeUnless true true [.key, .value, .blockEnd] fuel
    else return .empty none

/-- The items of a list within brackets. -/
def flowItems (first : Bool) : Nat → Reader (List Node)
  | 0 => failure
  | fuel + 1 => do
    if ← skipIf .flowSequenceEnd then return []
    else
      unless first do expect .flowEntry
      if ← skipIf .flowSequenceEnd then return []
      else if ← skipIf .key then
        let entry ← flowPair fuel
        return .mapping none [entry] :: (← flowItems false fuel)
      else
        let item ← node false false fuel
        return item :: (← flowItems false fuel)

/-- The only entry of an object that stands for an item of a list within brackets. Where its key is
missing, the token after it is passed over. -/
def flowPair : Nat → Reader (Node × Node)
  | 0 => failure
  | fuel + 1 => do
    let key ← do
      if ← isNext [.value, .flowEntry, .flowSequenceEnd] then
        skip
        pure (.empty none)
      else node false false fuel
    if ← skipIf .value then
      return (key, ← nodeUnless false false [.flowEntry, .flowSequenceEnd] fuel)
    else return (key, .empty none)

/-- The entries of an object within brackets. -/
def flowEntries (first : Bool) : Nat → Reader (List (Node × Node))
  | 0 => failure
  | fuel + 1 => do
    if ← skipIf .flowMappingEnd then return []
    else
      unless first do expect .flowEntry
      if ← skipIf .flowMappingEnd then return []
      else if ← skipIf .key then
        let key ← nodeUnless false false [.value, .flowEntry, .flowMappingEnd] fuel
        let value ← flowValue fuel
        return (key, value) :: (← flowEntries false fuel)
      else
        let key ← node false false fuel
        return (key, .empty none) :: (← flowEntries false fuel)

/-- The value after a key of an object within brackets. -/
def flowValue : Nat → Reader Node
  | 0 => failure
  | fuel + 1 => do
    if ← skipIf .value then nodeUnless false false [.flowEntry, .flowMappingEnd] fuel
    else return .empty none

end

/-- The directives in front of a document: at most one version, which must be known, and texts for
handles, each handle at most once. -/
def directives : Nat → Bool → List (String × String) → Reader (List (String × String))
  | 0, _, _ => failure
  | fuel + 1, versioned, handles => do
    match ← peek with
    | .directive (.version major minor) =>
      if versioned || major != 1 || (minor != 1 && minor != 2) then failure
      else
        skip
        directives fuel true handles
    | .directive (.tag handle replacement) =>
      if (handles.lookup handle).isSome then failure
      else
        skip
        directives fuel versioned (handles ++ [(handle, replacement)])
    | _ => return handles

/-- Goes past the marks of a document's end. -/
def skipEnds : Nat → Reader Unit
  | 0 => return ()
  | fuel + 1 => do
    if ← skipIf .documentEnd then skipEnds fuel else return ()

/-- The root of the only document, or the empty scalar if there is none. -/
def root (fuel : Nat) : Reader Node := do
  match ← peek with
  | .streamEnd => return .empty none
  | .directive _ | .documentStart =>
    let handles ← directives fuel false []
    modify fun reading => { reading with handles := handles ++ reading.handles }
    expect .documentStart
    let isEnd ← isNext [.documentStart, .documentEnd, .streamEnd]
    let isDirective := match ← peek with
      | .directive _ => true
      | _ => false
    let found ← if isEnd || isDirective then pure (.empty none) else node true false fuel
    finish found
  | _ => finish (← node true false fuel)
where
  /-- The root, if nothing but marks of its end follows. -/
  finish (found : Node) : Reader Node := do
    skipEnds fuel
    expect .streamEnd
    return found

end Reader

/-- The value of a text. -/
def read? (text : String) : Option Value := do
  let tokens ← tokens? text
  let (node, _) ← (Reader.root (2 * tokens.length + 4)).run { tokens }
  return node.toValue

end DatabaseLifecycle.Yaml
