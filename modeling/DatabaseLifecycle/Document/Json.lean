import DatabaseLifecycle.Document.Basic
import DatabaseLifecycle.Text.Digits
import DatabaseLifecycle.Text.Quoted
import DatabaseLifecycle.Text.Utf8

/-!
JSON text. `read` accepts exactly one value and keeps the order and repetition of keys; what can be
skipped but not read (half a surrogate pair, a number past all bounds) becomes `unreadable`. Texts also
come as bytes, which need not all form characters.
-/

namespace DatabaseLifecycle.Json

/-- Whether a character may stand between the pieces of a value. -/
def isSpace (character : Char) : Bool :=
  character == ' ' || character == '\t' || character == '\n' || character == '\r'

/-- The text from the first piece on. -/
def skipSpace (text : List Char) : List Char := text.dropWhile isSpace

/-- The value of a hexadecimal digit. -/
def hexValue? (digit : Char) : Option Nat :=
  if '0' ≤ digit && digit ≤ '9' then some (digit.toNat - '0'.toNat)
  else if 'a' ≤ digit && digit ≤ 'f' then some (digit.toNat - 'a'.toNat + 10)
  else if 'A' ≤ digit && digit ≤ 'F' then some (digit.toNat - 'A'.toNat + 10)
  else none

/-- The number written as four hexadecimal digits. -/
def readUnit : List Char → Option (Nat × List Char)
  | a :: b :: c :: d :: rest => do
    let value := (((← hexValue? a) * 16 + (← hexValue? b)) * 16 + (← hexValue? c)) * 16
      + (← hexValue? d)
    return (value, rest)
  | _ => none

/-- The character that a one-letter escape stands for. -/
def escaped? : Char → Option Char
  | '"' => some '"'
  | '\\' => some '\\'
  | '/' => some '/'
  | 'b' => some '\x08'
  | 'f' => some '\x0c'
  | 'n' => some '\n'
  | 'r' => some '\r'
  | 't' => some '\t'
  | _ => none

/-- The characters of a text after its opening quote, or `none` in their place when an escape is
half of a surrogate pair. -/
def readText : Nat → List Char → Option (Option (List Char) × List Char)
  | 0, _ => none
  | fuel + 1, text =>
    match text with
    | '"' :: rest => some (some [], rest)
    | '\\' :: 'u' :: rest => do
      let (unit, rest) ← readUnit rest
      if unit < 0xD800 || 0xDFFF < unit then
        let (others, rest) ← readText fuel rest
        return (others.map (Char.ofNat unit :: ·), rest)
      else
        let low? := match rest with
          | '\\' :: 'u' :: after => readUnit after
          | _ => none
        match low? with
        | some (low, after) =>
          if unit < 0xDC00 && 0xDC00 ≤ low && low ≤ 0xDFFF then
            let (others, rest) ← readText fuel after
            let code := 0x10000 + (unit - 0xD800) * 0x400 + (low - 0xDC00)
            return (others.map (Char.ofNat code :: ·), rest)
          else
            let (_, rest) ← readText fuel rest
            return (none, rest)
        | none =>
          let (_, rest) ← readText fuel rest
          return (none, rest)
    | '\\' :: letter :: rest => do
      let character ← escaped? letter
      let (others, rest) ← readText fuel rest
      return (others.map (character :: ·), rest)
    | character :: rest =>
      if character.toNat < 0x20 || character == '\\' then none
      else do
        let (others, rest) ← readText fuel rest
        return (others.map (character :: ·), rest)
    | [] => none

/-- Whether a number, given by its digits and the power of ten they are scaled by, is at least the
bound past which no double-precision number is nearest. -/
def exceedsDouble (digits : List Char) (exponent : Int) : Bool :=
  let value := Text.digitsValue digits
  let significant := (digits.dropWhile (· == '0')).length
  let bound := Nat.pow 2 1024 - Nat.pow 2 970
  let magnitude := (significant : Int) + exponent
  if value == 0 || magnitude < 309 then false
  else if 309 < magnitude then true
  else if 0 ≤ exponent then bound ≤ value * Nat.pow 10 exponent.toNat
  else bound * Nat.pow 10 (-exponent).toNat ≤ value

/-- The fraction digits after a point, if a point follows. -/
def readFraction : List Char → Option (Option (List Char) × List Char)
  | '.' :: rest =>
    let digits := rest.takeWhile Char.isDigit
    if digits.isEmpty then none else some (some digits, rest.dropWhile Char.isDigit)
  | text => some (none, text)

/-- The exponent, with its characters, if one follows. -/
def readExponent : List Char → Option (Option (Int × List Char) × List Char)
  | letter :: rest =>
    if letter == 'e' || letter == 'E' then
      let (sign, rest) := match rest with
        | '+' :: after => (['+'], after)
        | '-' :: after => (['-'], after)
        | _ => ([], rest)
      let digits := rest.takeWhile Char.isDigit
      if digits.isEmpty then none
      else
        let size : Int := Text.digitsValue digits
        some (some (if sign == ['-'] then -size else size, letter :: sign ++ digits),
          rest.dropWhile Char.isDigit)
    else some (none, letter :: rest)
  | [] => some (none, [])

/-- A number: an integer when it has neither fraction nor exponent and is not minus zero. -/
def readNumber (text : List Char) : Option (Document × List Char) := do
  let (negative, digitsOn) := match text with
    | '-' :: rest => (true, rest)
    | _ => (false, text)
  let whole := digitsOn.takeWhile Char.isDigit
  let rest := digitsOn.dropWhile Char.isDigit
  if whole.isEmpty || (whole.head? == some '0' && 1 < whole.length) then none
  else
    let (fraction, rest) ← readFraction rest
    let (exponent, rest) ← readExponent rest
    let places := fraction.getD []
    let scale := (exponent.map (·.1)).getD 0 - places.length
    let written := (if negative then ['-'] else []) ++ whole
      ++ (fraction.map ('.' :: ·)).getD [] ++ (exponent.map (·.2)).getD []
    if exceedsDouble (whole ++ places) scale then return (.unreadable, rest)
    else if fraction.isNone && exponent.isNone && !(negative && whole == ['0']) then
      let size : Int := Text.digitsValue whole
      return (.integer (if negative then -size else size), rest)
    else return (.decimal (String.ofList written), rest)

/-- The text after a word that it must begin with. -/
def readWord (word : String) (text : List Char) : Option (List Char) :=
  if word.toList.isPrefixOf text then some (text.drop word.length) else none

/-- An object, which no one can read when one of its keys is no text. -/
def ofPairs (fields : List (Option String × Document)) : Document :=
  match fields.mapM fun field => field.1.map (·, field.2) with
  | some fields => .object fields
  | none => .unreadable

mutual

/-- One value. -/
def readValue : Nat → List Char → Option (Document × List Char)
  | 0, _ => none
  | fuel + 1, text =>
    match skipSpace text with
    | 'n' :: rest => (readWord "ull" rest).map (.null, ·)
    | 't' :: rest => (readWord "rue" rest).map (.bool true, ·)
    | 'f' :: rest => (readWord "alse" rest).map (.bool false, ·)
    | '"' :: rest => do
      let (characters, rest) ← readText (rest.length + 1) rest
      return ((characters.map fun cs => .text (String.ofList cs)).getD .unreadable, rest)
    | '[' :: rest =>
      match skipSpace rest with
      | ']' :: after => some (.list [], after)
      | _ => do
        let (items, rest) ← readItems fuel rest
        return (.list items, rest)
    | '\x7b' :: rest =>
      match skipSpace rest with
      | '\x7d' :: after => some (.object [], after)
      | _ => do
        let (fields, rest) ← readFields fuel rest
        return (ofPairs fields, rest)
    | other => readNumber other

/-- The items of a list up to and with its closing bracket. -/
def readItems : Nat → List Char → Option (List Document × List Char)
  | 0, _ => none
  | fuel + 1, text => do
    let (item, rest) ← readValue fuel text
    match skipSpace rest with
    | ',' :: rest =>
      let (items, rest) ← readItems fuel rest
      return (item :: items, rest)
    | ']' :: rest => return ([item], rest)
    | _ => none

/-- The fields of an object up to and with its closing brace. -/
def readFields : Nat → List Char → Option (List (Option String × Document) × List Char)
  | 0, _ => none
  | fuel + 1, text => do
    match skipSpace text with
    | '"' :: rest =>
      let (key, rest) ← readText (rest.length + 1) rest
      match skipSpace rest with
      | ':' :: rest =>
        let (value, rest) ← readValue fuel rest
        let field := (key.map String.ofList, value)
        match skipSpace rest with
        | ',' :: rest =>
          let (fields, rest) ← readFields fuel rest
          return (field :: fields, rest)
        | '\x7d' :: rest => return ([field], rest)
        | _ => none
      | _ => none
    | _ => none

end

/-- The one value that a text writes. -/
def read (text : String) : Option Document := do
  let characters := text.toList
  let (value, rest) ← readValue (2 * characters.length + 2) characters
  if (skipSpace rest).isEmpty then some value else none

/-- What stands in a text for bytes that form no character: half of a surrogate pair, and a second one
so that no other half that follows can complete it. -/
def halves : List Char := "\\ud800\\ud800".toList

/-- The characters of pieces of bytes, from outside of a text between quotes on or from inside of one.
Bytes that form no character can be skipped inside a text, but not behind the sign of an escape. -/
def characters? : Bool → List Text.Utf8.Piece → Option (List Char)
  | _, [] => some []
  | true, .char '\\' :: .invalid _ :: _ => none
  | true, .char '\\' :: .char character :: rest =>
    (characters? true rest).map fun others => '\\' :: character :: others
  | true, .invalid _ :: rest => (characters? true rest).map (halves ++ ·)
  | false, .invalid _ :: _ => none
  | quoted, .char character :: rest =>
    (characters? (quoted != (character == '"')) rest).map (character :: ·)

/-- The one value that bytes write. -/
def readBytes (bytes : List UInt8) : Option Document := do
  read (String.ofList (← characters? false (Text.Utf8.pieces bytes)))

/-- A character as it stands between the quotes of a text. -/
def writtenChar (character : Char) : List Char :=
  match character with
  | '"' => ['\\', '"']
  | '\\' => ['\\', '\\']
  | '\x08' => ['\\', 'b']
  | '\x0c' => ['\\', 'f']
  | '\n' => ['\\', 'n']
  | '\r' => ['\\', 'r']
  | '\t' => ['\\', 't']
  | _ =>
    if character.toNat < 0x20 then
      let digits := Text.hexDigits character.toNat
      ['\\', 'u'] ++ List.replicate (4 - digits.length) '0' ++ digits
    else [character]

/-- A text between quotes. -/
def writeText (text : String) : String :=
  String.ofList ('"' :: (text.toList.flatMap writtenChar ++ ['"']))

mutual

/-- The document on one line without spaces. -/
def write : Document → String
  | .null => "null"
  | .bool value => if value then "true" else "false"
  | .integer value => toString value
  | .decimal literal => literal
  | .text value => writeText value
  | .unreadable => "null"
  | .list items => "[" ++ ",".intercalate (writeItems items) ++ "]"
  | .object fields => "\x7b" ++ ",".intercalate (writeFields fields) ++ "\x7d"

/-- The items of a list, each on one line. -/
def writeItems : List Document → List String
  | [] => []
  | item :: rest => write item :: writeItems rest

/-- The fields of an object, each on one line. -/
def writeFields : List (String × Document) → List String
  | [] => []
  | (key, value) :: rest => (writeText key ++ ":" ++ write value) :: writeFields rest

end

end DatabaseLifecycle.Json
