import DatabaseLifecycle.Yaml.Cursor

/-!
Blanks and line ends between the words of a scalar, and what is left of them: blanks on one line
stay, one line end becomes a space, and more line ends become one less.
-/

namespace DatabaseLifecycle.Yaml

/-- Blanks and line ends between two words. -/
structure Fold where
  /-- The blanks before the first line end. -/
  blanks : List Char := []
  /-- The first line end. -/
  first : List Char := []
  /-- The line ends after the first. -/
  others : List Char := []
  /-- Whether a line end counts as read. -/
  broken : Bool := false
  deriving Inhabited

namespace Fold

/-- What is left between the words. -/
def text (fold : Fold) : List Char :=
  if fold.broken then
    if fold.first.head? == some '\n' then if fold.others.isEmpty then [' '] else fold.others
    else fold.first ++ fold.others
  else fold.blanks

/-- The blanks and line ends at a place. A tab that stands, after a line end, before the least
column is refused. -/
def read? (leastColumn : Nat) : Nat → Cursor → Fold → Option (Fold × Cursor)
  | 0, _, _ => none
  | fuel + 1, cursor, fold =>
    match cursor.head? with
    | none => some (fold, cursor)
    | some character =>
      if isGap character then
        if fold.broken && cursor.column < leastColumn && character == '\t' then none
        else
          read? leastColumn fuel (cursor.skip 1)
            (if fold.broken then fold else { fold with blanks := fold.blanks ++ [character] })
      else if isBreak character then
        let (ending, after) := cursor.skipBreak
        read? leastColumn fuel after
          (if fold.broken then { fold with others := fold.others ++ ending }
          else { blanks := [], first := ending, others := fold.others, broken := true })
      else some (fold, cursor)

end Fold

end DatabaseLifecycle.Yaml
