import DatabaseLifecycle.Document.Json
import DatabaseLifecycle.Yaml.Fold

/-!
Scalars between quotes. Between single quotes a quote is written twice; between double quotes a
backslash begins an escape.
-/

namespace DatabaseLifecycle.Yaml.QuotedScalar

/-- The character that a one-letter escape stands for. -/
def escaped? : Char → Option Char
  | '0' => some '\x00'
  | 'a' => some '\x07'
  | 'b' => some '\x08'
  | 't' => some '\t'
  | '\t' => some '\t'
  | 'n' => some '\n'
  | 'v' => some '\x0b'
  | 'f' => some '\x0c'
  | 'r' => some '\r'
  | 'e' => some '\x1b'
  | ' ' => some ' '
  | '"' => some '"'
  | '/' => some '/'
  | '\\' => some '\\'
  | 'N' => some '\u0085'
  | '_' => some '\u00a0'
  | 'L' => some '\u2028'
  | 'P' => some '\u2029'
  | _ => none

/-- How many hexadecimal digits follow the letter of an escape. -/
def digitCount? : Char → Option Nat
  | 'x' => some 2
  | 'u' => some 4
  | 'U' => some 8
  | _ => none

/-- The character whose number the digits write. -/
def numbered? (count : Nat) (text : List Char) : Option Char := do
  if text.length < count then none
  else
    let code ← (text.take count).foldlM (fun code digit => do
      return code * 16 + (← Json.hexValue? digit)) 0
    if 0x10FFFF < code || 0xD800 ≤ code && code ≤ 0xDFFF then none else some (Char.ofNat code)

/-- Why a run of characters ended. -/
inductive Stop where
  /-- At the closing quote. -/
  | quote
  /-- At a blank or a line end. -/
  | blank
  /-- After a line end behind a backslash. -/
  | joinedLine
  deriving DecidableEq

/-- The characters up to the closing quote, a blank or a line end. -/
def run? (quote : Char) : Nat → Cursor → List Char → Option (List Char × Stop × Cursor)
  | 0, _, _ => none
  | fuel + 1, cursor, text =>
    match cursor.rest with
    | [] => some (text, .blank, cursor)
    | character :: rest =>
      if isGap character || isBreak character then some (text, .blank, cursor)
      else if quote == '\'' && character == '\'' && rest.head? == some '\'' then
        run? quote fuel (cursor.skip 2) (text ++ ['\''])
      else if character == quote then some (text, .quote, cursor)
      else if quote == '"' && character == '\\' then
        match rest with
        | [] => none
        | letter :: more =>
          if isBreak letter then some (text, .joinedLine, (cursor.skip 1).skipBreak.2)
          else
            match escaped? letter, digitCount? letter with
            | some written, _ => run? quote fuel (cursor.skip 2) (text ++ [written])
            | none, some count => do
              let written ← numbered? count more
              run? quote fuel (cursor.skip (2 + count)) (text ++ [written])
            | none, none => none
      else run? quote fuel (cursor.skip 1) (text ++ [character])

/-- The characters from a place behind the opening quote on. -/
def runs? (quote : Char) : Nat → Cursor → List Char → Option (List Char × Cursor)
  | 0, _, _ => none
  | fuel + 1, cursor, text =>
    if cursor.atDocumentMark || cursor.rest.isEmpty then none
    else do
      let (text, stop, after) ← run? quote (cursor.rest.length + 1) cursor text
      if after.head? == some quote then return (text, after.skip 1)
      else
        let (fold, next) ← Fold.read? 0 (after.rest.length + 1) after
          { broken := stop == .joinedLine }
        runs? quote fuel next (text ++ fold.text)

/-- The scalar at a place where a quote opens, and the place after it. -/
def read? (quote : Char) (cursor : Cursor) : Option (List Char × Cursor) :=
  runs? quote (cursor.rest.length + 1) (cursor.skip 1) []

end DatabaseLifecycle.Yaml.QuotedScalar
