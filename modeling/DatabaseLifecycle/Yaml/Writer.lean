import DatabaseLifecycle.Yaml.Scalar

/-!
Documents as YAML in block style. Texts that would be read back as something else are put between
quotes.
-/

namespace DatabaseLifecycle.Yaml

/-- Words that some readers take for truth values. -/
def oldTruthWords : List String :=
  ["y", "Y", "yes", "Yes", "YES", "n", "N", "no", "No", "NO", "on", "On", "ON", "off", "Off", "OFF"]

/-- Whether a character shows when it is written as it is. -/
def isShown (character : Char) : Bool :=
  let code := character.toNat
  code == 0x0A || 0x20 ≤ code && code ≤ 0x7E || 0xA0 ≤ code && code != 0xFEFF && code ≤ 0xFFFD
    || 0x10000 ≤ code

/-- Whether a character ends a line. -/
def isLineEnd (character : Char) : Bool :=
  ['\n', '\r', '\u0085', '\u2028', '\u2029'].contains character

/-- Whether a character or the end of the text counts as blank. -/
def isBlankOrEnd : Option Char → Bool
  | none => true
  | some character => character == ' ' || character == '\t' || isLineEnd character

/-- Whether a text has, after its first character, something that has a meaning of its own. -/
def hasInnerMark : List Char → Bool
  | previous :: character :: rest =>
    (character == ':' && isBlankOrEnd rest.head?)
      || (character == '#' && isBlankOrEnd (some previous))
      || hasInnerMark (character :: rest)
  | _ => false

/-- Whether a text begins with something that has a meaning of its own. -/
def hasFirstMark : List Char → Bool
  | [] => false
  | character :: rest =>
    ['#', ',', '[', ']', '\x7b', '\x7d', '&', '*', '!', '|', '>', '\'', '"', '%', '@',
        '\x60'].contains character
      || (['?', ':', '-'].contains character && isBlankOrEnd rest.head?)
      || ['-', '.'].any fun mark => [mark, mark, mark].isPrefixOf (character :: rest)

/-- Whether a text can stand without quotes. -/
def isPlain (text : String) : Bool :=
  let characters := text.toList
  !characters.isEmpty && characters.all (fun character => isShown character && !isLineEnd character)
    && characters.head? != some ' ' && characters.getLast? != some ' '
    && !hasFirstMark characters && !hasInnerMark characters

/-- Whether a text read back without quotes would be something else. -/
def isAmbiguous (text : String) : Bool :=
  let staysText := match resolved text with
    | some (.text value) => value == text
    | _ => false
  oldTruthWords.contains text || !staysText || hasExtraZero text

/-- A character between double quotes. -/
def doubleQuotedChar (character : Char) : List Char :=
  let escape (letter : Char) (width code : Nat) : List Char :=
    let digits := (Nat.toDigits 16 code).map Char.toUpper
    '\\' :: letter :: (List.replicate (width - digits.length) '0' ++ digits)
  match character with
  | '"' => ['\\', '"']
  | '\\' => ['\\', '\\']
  | '\x00' => ['\\', '0']
  | '\x07' => ['\\', 'a']
  | '\x08' => ['\\', 'b']
  | '\t' => ['\\', 't']
  | '\n' => ['\\', 'n']
  | '\x0b' => ['\\', 'v']
  | '\x0c' => ['\\', 'f']
  | '\r' => ['\\', 'r']
  | '\x1b' => ['\\', 'e']
  | '\u0085' => ['\\', 'N']
  | '\u2028' => ['\\', 'L']
  | '\u2029' => ['\\', 'P']
  | _ =>
    if isShown character then [character]
    else if character.toNat < 0x100 then escape 'x' 2 character.toNat
    else if character.toNat < 0x10000 then escape 'u' 4 character.toNat
    else escape 'U' 8 character.toNat

/-- A text between single quotes. -/
def singleQuoted (text : String) : String :=
  String.ofList ('\'' :: text.toList.flatMap (fun character =>
    if character == '\'' then ['\'', '\''] else [character]) ++ ['\''])

/-- A text between double quotes. -/
def doubleQuoted (text : String) : String :=
  String.ofList ('"' :: text.toList.flatMap doubleQuotedChar ++ ['"'])

/-- What follows the bar of a text that is written line by line: whether its own first line begins
with a blank, and how many line ends it closes with. -/
def blockHeader (text : List Char) : String :=
  let indented := match text with
    | first :: _ => first == ' ' || isLineEnd first
    | [] => false
  let closing := match text.reverse with
    | '\n' :: rest => if rest.isEmpty || rest.head? == some '\n' then "+" else ""
    | _ => "-"
  "|" ++ (if indented then "2" else "") ++ closing

/-- A line further in, unless it is empty. -/
def indented (line : String) : String := if line.isEmpty then line else "  " ++ line

/-- A text as lines, the first of which stands where the value begins. -/
def textLines (text : String) : List String :=
  if text.toList.contains '\n' then
    if text.toList.all isShown && text.toList.getLast? != some ' ' then
      let lines := text.splitOn "\n"
      let kept := if lines.getLast? == some "" then lines.dropLast else lines
      blockHeader text.toList :: kept.map indented
    else [doubleQuoted text]
  else if isPlain text && !isAmbiguous text then [text]
  else if text.toList.all isShown then [singleQuoted text]
  else [doubleQuoted text]

/-- A text on one line. -/
def keyText (key : String) : String :=
  match textLines key with
  | [line] => line
  | _ => doubleQuoted key

mutual

/-- A document as lines. -/
def lines : Document → List String
  | .null => ["null"]
  | .bool value => [if value then "true" else "false"]
  | .integer value => [toString value]
  | .decimal literal => [literal]
  | .text value => textLines value
  | .unreadable => ["null"]
  | .list [] => ["[]"]
  | .list items => itemLines items
  | .object [] => ["\x7b\x7d"]
  | .object fields => fieldLines fields

/-- The items of a list as lines, each item after a dash. -/
def itemLines : List Document → List String
  | [] => []
  | item :: rest =>
    (match item, lines item with
    | _, [] => []
    | .text _, first :: others => ("- " ++ first) :: others
    | _, first :: others => ("- " ++ first) :: others.map indented) ++ itemLines rest

/-- The fields of an object as lines, each value after its key. -/
def fieldLines : List (String × Document) → List String
  | [] => []
  | (key, value) :: rest =>
    (match value with
    | .list (_ :: _) => (keyText key ++ ":") :: lines value
    | .object (_ :: _) => (keyText key ++ ":") :: (lines value).map indented
    | _ =>
      match lines value with
      | [] => []
      | first :: others => (keyText key ++ ": " ++ first) :: others) ++ fieldLines rest

end

/-- A document as YAML text. -/
def write (document : Document) : String := String.join ((lines document).map (· ++ "\n"))

end DatabaseLifecycle.Yaml
