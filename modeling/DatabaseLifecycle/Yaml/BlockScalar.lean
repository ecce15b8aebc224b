import DatabaseLifecycle.Yaml.Cursor

/-!
Scalars written line by line, under a bar that keeps the line ends or a bracket that folds them.
-/

namespace DatabaseLifecycle.Yaml.BlockScalar

/-- What happens to the line ends at the end. -/
inductive Chomping where
  /-- None is kept. -/
  | strip
  /-- One is kept. -/
  | clip
  /-- All are kept. -/
  | keep
  deriving DecidableEq

/-- The mark for the line ends at the end. -/
def chomping? (cursor : Cursor) : Option Chomping :=
  match cursor.head? with
  | some '+' => some .keep
  | some '-' => some .strip
  | _ => none

/-- The mark for the indentation, which may not be zero, and the place after it. -/
def increment? (cursor : Cursor) : Option (Nat × Cursor) :=
  match cursor.head? with
  | some digit =>
    if digit == '0' then none
    else if digit.isDigit then some (digit.toNat - '0'.toNat, cursor.skip 1)
    else some (0, cursor)
  | none => some (0, cursor)

/-- The marks behind the bar or bracket, in either order; no indentation counts as zero. -/
def header? (cursor : Cursor) : Option (Chomping × Nat × Cursor) :=
  match chomping? cursor with
  | some chomping => do
    let (increment, cursor) ← increment? (cursor.skip 1)
    return (chomping, increment, cursor)
  | none => do
    let (increment, cursor) ← increment? cursor
    match if increment == 0 then none else chomping? cursor with
    | some chomping => return (chomping, increment, cursor.skip 1)
    | none => return (.clip, increment, cursor)

/-- The empty lines at a place: the indentation found, the line ends, and the place after them. An
indentation of zero is not known yet. -/
def emptyLines? (known : Nat) : Nat → Nat → List Char → Cursor →
    Option (Nat × List Char × Cursor)
  | 0, _, _, _ => none
  | fuel + 1, widest, endings, cursor =>
    let spaces := (cursor.rest.takeWhile (· == ' ')).length
    let allowed := if known == 0 then spaces else min spaces (known - cursor.column)
    let cursor := cursor.skip allowed
    let widest := max widest cursor.column
    if (known == 0 || cursor.column < known) && cursor.head? == some '\t' then none
    else if cursor.head?.any isBreak then
      let (ending, after) := cursor.skipBreak
      emptyLines? known fuel widest (endings ++ ending) after
    else some (widest, endings, cursor)

/-- A scalar as it was read so far. -/
structure State where
  /-- The text up to the last line. -/
  text : List Char := []
  /-- The end of the last line. -/
  ending : List Char := []
  /-- The ends of the empty lines after it. -/
  emptyEndings : List Char := []
  /-- Whether the last line began with a blank. -/
  indented : Bool := false

/-- The lines of a scalar from a place on. -/
def lines? (literal : Bool) (indent : Nat) : Nat → Cursor → State → Option (State × Cursor)
  | 0, _, _ => none
  | fuel + 1, cursor, state =>
    if cursor.column != indent || cursor.rest.isEmpty then some (state, cursor)
    else do
      let blank := cursor.head?.any isGap
      let joint :=
        if !literal && state.ending.head? == some '\n' && !state.indented && !blank then
          if state.emptyEndings.isEmpty then [' '] else []
        else state.ending
      let line := cursor.rest.takeWhile (!isBreak ·)
      let (ending, after) := (cursor.skip line.length).skipBreak
      let (_, emptyEndings, next) ← emptyLines? indent (after.rest.length + 1) 0 [] after
      lines? literal indent fuel next {
        text := state.text ++ joint ++ state.emptyEndings ++ line
        ending, emptyEndings, indented := blank }

/-- The scalar at a place behind the bar or bracket, within a block at some column, and the place
after it. -/
def read? (literal : Bool) (outer : Int) (cursor : Cursor) : Option (List Char × Cursor) := do
  let (chomping, increment, cursor) ← header? cursor
  let cursor ← cursor.skipLineRest?
  let known := if increment == 0 then 0 else (max outer 0).toNat + increment
  let (widest, emptyEndings, cursor) ← emptyLines? known (cursor.rest.length + 1) 0 [] cursor
  let indent := if known == 0 then max (max widest (outer + 1).toNat) 1 else known
  let (state, cursor) ← lines? literal indent (cursor.rest.length + 1) cursor { emptyEndings }
  let text := state.text ++ (if chomping == .strip then [] else state.ending)
    ++ if chomping == .keep then state.emptyEndings else []
  return (text, cursor)

end DatabaseLifecycle.Yaml.BlockScalar
