/-!
Places in a YAML text: what is still to be read, with the line and column reached.
-/

namespace DatabaseLifecycle.Yaml

/-- Whether a character may occur in a text at all. -/
def isAllowed (character : Char) : Bool :=
  let code := character.toNat
  [0x09, 0x0A, 0x0D, 0x85].contains code || 0x20 ≤ code && code ≤ 0x7E
    || 0xA0 ≤ code && code ≤ 0xFFFD || 0x10000 ≤ code

/-- Whether a character ends a line. -/
def isBreak (character : Char) : Bool :=
  ['\n', '\r', '\u0085', '\u2028', '\u2029'].contains character

/-- Whether a character is a space or a tab. -/
def isGap (character : Char) : Bool := character == ' ' || character == '\t'

/-- Whether the text ends here, or the next character is blank or ends a line. -/
def endsWord : Option Char → Bool
  | none => true
  | some character => isGap character || isBreak character

/-- Whether a character may stand in the name of an anchor. -/
def isNameChar (character : Char) : Bool :=
  character.isAlphanum || character == '_' || character == '-'

/-- A place in a text. -/
structure Cursor where
  /-- What is still to be read. -/
  rest : List Char
  /-- How many characters have been read. -/
  index : Nat := 0
  /-- The line reached. -/
  line : Nat := 0
  /-- The column reached. -/
  column : Nat := 0
  deriving Inhabited

namespace Cursor

/-- The next character. -/
def head? (cursor : Cursor) : Option Char := cursor.rest.head?

/-- The character after the next one. -/
def second? (cursor : Cursor) : Option Char := cursor.rest[1]?

/-- The place after as many characters, none of which ends a line. -/
def skip (cursor : Cursor) (count : Nat) : Cursor :=
  { cursor with
    rest := cursor.rest.drop count
    index := cursor.index + count
    column := cursor.column + count }

/-- The place after the characters that satisfy a test, none of which ends a line. -/
def skipWhile (cursor : Cursor) (test : Char → Bool) : Cursor :=
  cursor.skip (cursor.rest.takeWhile test).length

/-- The place after the end of a line, and the characters that it counts as. -/
def skipBreak (cursor : Cursor) : List Char × Cursor :=
  let after (count : Nat) (rest : List Char) : Cursor :=
    { rest, index := cursor.index + count, line := cursor.line + 1, column := 0 }
  match cursor.rest with
  | '\r' :: '\n' :: rest => (['\n'], after 2 rest)
  | character :: rest =>
    if isBreak character then
      (if ['\u2028', '\u2029'].contains character then [character] else ['\n'], after 1 rest)
    else ([], cursor)
  | [] => ([], cursor)

/-- Whether the line ends here. -/
def atLineEnd (cursor : Cursor) : Bool := cursor.rest.head?.all isBreak

/-- The place after what is left of a line, if that is blank or a comment. -/
def skipLineRest? (cursor : Cursor) : Option Cursor :=
  let cursor := cursor.skipWhile isGap
  let cursor := if cursor.head? == some '#' then cursor.skipWhile (!isBreak ·) else cursor
  if cursor.atLineEnd then some cursor.skipBreak.2 else none

/-- Whether a line begins here with the mark of a document's start or end. -/
def atDocumentMark (cursor : Cursor) : Bool :=
  cursor.column == 0
    && (['-', '-', '-'].isPrefixOf cursor.rest || ['.', '.', '.'].isPrefixOf cursor.rest)
    && endsWord cursor.rest[3]?

end Cursor

end DatabaseLifecycle.Yaml
