import DatabaseLifecycle.Yaml.BlockScalar
import DatabaseLifecycle.Yaml.PlainScalar
import DatabaseLifecycle.Yaml.QuotedScalar
import DatabaseLifecycle.Yaml.Tag

/-!
Tokens: the marks and scalars of a YAML text, with marks of their own where indentation begins and
ends a list or an object. A key is known as one only at the colon after it, so the marks for it are
put in front of tokens that have been read already.
-/

namespace DatabaseLifecycle.Yaml

/-- How a scalar is written. -/
inductive Style where
  /-- Without quotes. -/
  | plain
  /-- Line by line, with its line ends. -/
  | literal
  /-- In any other way. -/
  | quoted
  deriving DecidableEq, Repr, Inhabited

/-- A mark or scalar of a text. -/
inductive Token where
  | streamEnd
  | directive (directive : Directive)
  | documentStart
  | documentEnd
  | blockSequenceStart
  | blockMappingStart
  | blockEnd
  | flowSequenceStart
  | flowSequenceEnd
  | flowMappingStart
  | flowMappingEnd
  | blockEntry
  | flowEntry
  | key
  | value
  | alias (name : String)
  | anchor (name : String)
  | tag (tag : Tag)
  | scalar (style : Style) (text : String)
  deriving DecidableEq, Repr, Inhabited

/-- A place where a key may have begun. -/
structure KeyPlace where
  /-- How many tokens came before it. -/
  tokenCount : Nat
  /-- Where the text stood. -/
  cursor : Cursor
  /-- Whether nothing but a key can stand there. -/
  required : Bool

/-- The tokens of a text that has been read in part. -/
structure Tokens where
  /-- The place reached. -/
  cursor : Cursor
  /-- The tokens so far. -/
  tokens : List Token := []
  /-- The column of the innermost block, with those of the blocks around it; the whole text has
  none. -/
  indents : List Int := [-1]
  /-- The place where a key may have begun, at each level of brackets, the innermost first. -/
  keyPlaces : List (Option KeyPlace) := [none]
  /-- Whether a key may begin at the place reached. -/
  keyAllowed : Bool := true

namespace Tokens

/-- Whether the place lies within brackets. -/
def inFlow (state : Tokens) : Bool := 1 < state.keyPlaces.length

/-- The column of the innermost block. -/
def indent (state : Tokens) : Int := state.indents.headD (-1)

/-- The tokens with one more. -/
def push (state : Tokens) (token : Token) : Tokens :=
  { state with tokens := state.tokens ++ [token] }

/-- The tokens with one more, and the place after it. -/
def pushAt (state : Tokens) (token : Token) (cursor : Cursor) : Tokens :=
  { state.push token with cursor }

/-- The place past comments, blanks and line ends. -/
def skipToToken : Nat → Tokens → Tokens
  | 0, state => state
  | fuel + 1, state =>
    let cursor := if state.cursor.column == 0 && state.cursor.head? == some '\uFEFF' then
      state.cursor.skip 1 else state.cursor
    let tabs := state.inFlow || !state.keyAllowed
    let cursor := cursor.skipWhile fun character => character == ' ' || tabs && character == '\t'
    let cursor := if cursor.head? == some '#' then cursor.skipWhile (!isBreak ·) else cursor
    if cursor.head?.any isBreak then
      skipToToken fuel { state with
        cursor := cursor.skipBreak.2, keyAllowed := state.keyAllowed || !state.inFlow }
    else { state with cursor }

/-- The state with every block closed that reaches further in than a column. -/
def unroll (column : Int) (state : Tokens) : Tokens :=
  if state.inFlow then state
  else
    let closed := state.indents.takeWhile (column < ·)
    { state with
      tokens := state.tokens ++ closed.map fun _ => Token.blockEnd
      indents := state.indents.drop closed.length }

/-- The state with a block opened at a column that lies further in than the innermost block, its
mark put behind as many tokens. -/
def roll (column : Int) (tokenCount : Nat) (mark : Token) (state : Tokens) : Tokens :=
  if state.inFlow || column ≤ state.indent then state
  else { state with
    tokens := state.tokens.insertIdx tokenCount mark, indents := column :: state.indents }

/-- The state in which no key begins at the innermost level any more, unless one had to. -/
def dropKey (state : Tokens) : Option Tokens :=
  match state.keyPlaces with
  | some place :: rest =>
    if place.required then none else some { state with keyPlaces := none :: rest }
  | _ => some state

/-- The state in which a key may have begun at the place reached. -/
def noteKey (state : Tokens) : Option Tokens :=
  if state.keyAllowed then do
    let dropped ← state.dropKey
    let place : KeyPlace := {
      tokenCount := state.tokens.length, cursor := state.cursor
      required := !state.inFlow && state.indent == state.cursor.column }
    return { dropped with keyPlaces := some place :: dropped.keyPlaces.drop 1 }
  else some state

/-- Whether a key that began at one place can still end at another: on the same line and not more
than 1024 characters later. -/
def isInReach (place : KeyPlace) (cursor : Cursor) : Bool :=
  place.cursor.line == cursor.line && cursor.index ≤ place.cursor.index + 1024

/-- The state without the keys that can no longer end; a key that had to stand there is missed. -/
def dropStaleKeys (state : Tokens) : Option Tokens :=
  let isStale (place : Option KeyPlace) : Bool := place.any fun place =>
    !isInReach place state.cursor
  if state.keyPlaces.any fun place => isStale place && place.any (·.required) then none
  else some { state with
    keyPlaces := state.keyPlaces.map fun place => if isStale place then none else place }

/-- The state after the end of all blocks. -/
def closeAll (state : Tokens) : Option Tokens :=
  (state.unroll (-1)).dropKey.map fun state => { state with keyAllowed := false }

/-- The state after an opening bracket. -/
def openFlow (mark : Token) (state : Tokens) : Option Tokens := do
  let state ← state.noteKey
  return { state.pushAt mark (state.cursor.skip 1) with
    keyPlaces := none :: state.keyPlaces, keyAllowed := true }

/-- The state after a closing bracket. -/
def closeFlow (mark : Token) (state : Tokens) : Option Tokens := do
  let state ← state.dropKey
  return { state.pushAt mark (state.cursor.skip 1) with
    keyPlaces := if state.inFlow then state.keyPlaces.drop 1 else state.keyPlaces
    keyAllowed := false }

/-- The state in which a mark may begin a block of its own at the place reached. -/
def openBlock (mark : Token) (state : Tokens) : Option Tokens :=
  if state.inFlow then some state
  else if state.keyAllowed then
    some (state.roll state.cursor.column state.tokens.length mark)
  else none

/-- The state after a dash. -/
def readEntry (state : Tokens) : Option Tokens := do
  let state ← (← state.openBlock .blockSequenceStart).dropKey
  return { state.pushAt .blockEntry (state.cursor.skip 1) with keyAllowed := true }

/-- The state after a question mark. -/
def readKey (state : Tokens) : Option Tokens := do
  let state ← (← state.openBlock .blockMappingStart).dropKey
  return { state.pushAt .key (state.cursor.skip 1) with keyAllowed := !state.inFlow }

/-- The state after a colon. -/
def readValue (state : Tokens) : Option Tokens := do
  match state.keyPlaces with
  | some place :: rest =>
    let state := { state with
      tokens := state.tokens.insertIdx place.tokenCount .key, keyPlaces := none :: rest }
    let state := state.roll place.cursor.column place.tokenCount .blockMappingStart
    return { state.pushAt .value (state.cursor.skip 1) with keyAllowed := false }
  | _ =>
    let state ← state.openBlock .blockMappingStart
    return { state.pushAt .value (state.cursor.skip 1) with keyAllowed := !state.inFlow }

/-- The state after a mark or scalar that a key may begin with. -/
def readInKey (read : Cursor → Option (Token × Cursor)) (state : Tokens) : Option Tokens := do
  let state ← state.noteKey
  let (token, cursor) ← read state.cursor
  return { state.pushAt token cursor with keyAllowed := false }

/-- The state after a scalar without quotes; after a line end a key may begin again. -/
def readPlain (state : Tokens) : Option Tokens := do
  let state ← state.noteKey
  let (text, broken, cursor) ←
    PlainScalar.read? state.inFlow (state.indent + 1).toNat state.cursor
  return { state.pushAt (.scalar .plain (String.ofList text)) cursor with keyAllowed := broken }

/-- The state after a scalar that is written line by line. -/
def readBlock (literal : Bool) (state : Tokens) : Option Tokens := do
  let state ← state.dropKey
  let (text, cursor) ← BlockScalar.read? literal state.indent (state.cursor.skip 1)
  let style := if literal then Style.literal else .quoted
  return { state.pushAt (.scalar style (String.ofList text)) cursor with keyAllowed := true }

/-- The state after the mark of a document's start or end. -/
def readDocumentMark (mark : Token) (state : Tokens) : Option Tokens := do
  let state ← state.closeAll
  return state.pushAt mark (state.cursor.skip 3)

/-- Whether a character may begin a scalar without quotes, given the one after it. -/
def beginsPlain (inFlow : Bool) (character : Char) (next : Option Char) : Bool :=
  if character == '-' then !next.any isGap
  else if character == '?' || character == ':' then !inFlow && !endsWord next
  else !isGap character && !isBreak character
    && !([',', '[', ']', '\x7b', '\x7d', '#', '&', '*', '!', '|', '>', '\'', '"', '%', '@',
      '\x60'].contains character)

/-- The state after one more mark or scalar, or nothing if there is none at the place reached. -/
def readMark (character : Char) (state : Tokens) : Option Tokens :=
  let cursor := state.cursor
  let ended := endsWord cursor.second?
  let quote (quote : Char) := state.readInKey fun cursor => do
    let (text, cursor) ← QuotedScalar.read? quote cursor
    return (.scalar .quoted (String.ofList text), cursor)
  if cursor.column == 0 && character == '%' then do
    let state ← state.closeAll
    let (directive, cursor) ← Directive.read? state.cursor
    return state.pushAt (.directive directive) cursor
  else if cursor.atDocumentMark then
    state.readDocumentMark (if character == '-' then .documentStart else .documentEnd)
  else if character == '[' then state.openFlow .flowSequenceStart
  else if character == '\x7b' then state.openFlow .flowMappingStart
  else if character == ']' then state.closeFlow .flowSequenceEnd
  else if character == '\x7d' then state.closeFlow .flowMappingEnd
  else if character == ',' then do
    let state ← state.dropKey
    return { state.pushAt .flowEntry (cursor.skip 1) with keyAllowed := true }
  else if character == '-' && ended then state.readEntry
  else if character == '?' && (state.inFlow || ended) then state.readKey
  else if character == ':' && (state.inFlow || ended) then state.readValue
  else if character == '*' then state.readInKey fun cursor =>
    (anchorName? cursor).map fun found => (.alias found.1, found.2)
  else if character == '&' then state.readInKey fun cursor =>
    (anchorName? cursor).map fun found => (.anchor found.1, found.2)
  else if character == '!' then state.readInKey fun cursor =>
    (Tag.read? state.inFlow cursor).map fun found => (.tag found.1, found.2)
  else if character == '|' && !state.inFlow then state.readBlock true
  else if character == '>' && !state.inFlow then state.readBlock false
  else if character == '\'' then quote '\''
  else if character == '"' then quote '"'
  else if beginsPlain state.inFlow character cursor.second? then state.readPlain
  else none

/-- All tokens from a state on. -/
def readAll : Nat → Tokens → Option (List Token)
  | 0, _ => none
  | fuel + 1, state => do
    let state := state.skipToToken (state.cursor.rest.length + 1)
    let state ← state.dropStaleKeys
    let state := state.unroll state.cursor.column
    match state.cursor.head? with
    | none =>
      let state ← state.closeAll
      return state.tokens ++ [.streamEnd]
    | some character => readAll fuel (← state.readMark character)

end Tokens

/-- The tokens of a text. -/
def tokens? (text : String) : Option (List Token) :=
  let characters := text.toList
  if characters.all isAllowed then
    Tokens.readAll (characters.length + 1) { cursor := { rest := characters } }
  else none

end DatabaseLifecycle.Yaml
