import DatabaseLifecycle.Yaml.Fold

/-! Scalars without quotes. They end at a colon before a blank, at a comment and at a lesser column.
-/

namespace DatabaseLifecycle.Yaml.PlainScalar

/-- Whether a character separates the parts of a list or object within brackets. -/
def isFlowMark (character : Char) : Bool :=
  [',', '[', ']', '\x7b', '\x7d'].contains character

/-- The characters of one word. Within brackets a colon may not stand before a separator. -/
def word? (inFlow : Bool) : List Char → Option (List Char)
  | [] => some []
  | character :: rest =>
    if isGap character || isBreak character then some []
    else if inFlow && character == ':'
        && rest.head?.any fun next => isFlowMark next || next == '?' then none
    else if (character == ':' && endsWord rest.head?) || (inFlow && isFlowMark character) then
      some []
    else (word? inFlow rest).map (character :: ·)

/-- A scalar as it was read so far. -/
structure State where
  /-- The text before the last fold. -/
  text : List Char := []
  /-- What was read after the text. -/
  fold : Fold := {}
  deriving Inhabited

/-- The words of a scalar from a place on. -/
def words? (inFlow : Bool) (indent : Nat) :
    Nat → Cursor → State → Option (State × Cursor)
  | 0, _, _ => none
  | fuel + 1, cursor, state =>
    if cursor.atDocumentMark || cursor.head? == some '#' then some (state, cursor)
    else do
      let word ← word? inFlow cursor.rest
      let after := cursor.skip word.length
      let state := if word.isEmpty then state
        else { text := state.text ++ state.fold.text ++ word, fold := {} }
      if after.head?.any fun character => isGap character || isBreak character then
        let (fold, next) ← Fold.read? indent (after.rest.length + 1) after state.fold
        let state := { state with fold }
        if !inFlow && next.column < indent then some (state, next)
        else words? inFlow indent fuel next state
      else some (state, after)

/-- The scalar at a place, whether it was followed by a line end, and the place after it. -/
def read? (inFlow : Bool) (indent : Nat) (cursor : Cursor) :
    Option (List Char × Bool × Cursor) := do
  let (state, after) ← words? inFlow indent (cursor.rest.length + 1) cursor {}
  return (state.text, state.fold.broken, after)

end DatabaseLifecycle.Yaml.PlainScalar
