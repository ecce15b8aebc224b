import DatabaseLifecycle.Document.Json
import DatabaseLifecycle.Text.Utf8

/-! Percent-encoding: which characters of a URL's parts are written as the numbers of their bytes.
-/

namespace DatabaseLifecycle.Url

/-- Whether a character is written as numbers in every part: control characters and all that is not
ASCII. -/
def isControl (character : Char) : Bool :=
  character.toNat < 0x20 || 0x7E < character.toNat

/-- Whether a character is written as numbers in a fragment. -/
def isFragmentEncoded (character : Char) : Bool :=
  isControl character || [' ', '"', '<', '>', '\x60'].contains character

/-- Whether a character is written as numbers in a path. -/
def isPathEncoded (character : Char) : Bool :=
  isFragmentEncoded character || ['#', '?', '\x7b', '\x7d'].contains character

/-- Whether a character is written as numbers in a user and a password. -/
def isUserEncoded (character : Char) : Bool :=
  isPathEncoded character
    || ['/', ':', ';', '=', '@', '[', '\\', ']', '^', '|'].contains character

/-- Whether a character is written as numbers in a query. -/
def isQueryEncoded (isSpecial : Bool) (character : Char) : Bool :=
  isControl character || [' ', '"', '#', '<', '>'].contains character
    || isSpecial && character == '\''

/-- The two capital hexadecimal digits of a byte. -/
def hexByte (byte : UInt8) : List Char :=
  let digits := (Nat.toDigits 16 byte.toNat).map Char.toUpper
  List.replicate (2 - digits.length) '0' ++ digits

/-- A character written as the numbers of its bytes. -/
def encodedChar (character : Char) : List Char :=
  (Text.Utf8.encodeChar character).flatMap fun byte => '%' :: hexByte byte

/-- A text in which some characters are written as numbers. -/
def encode (isEncoded : Char → Bool) (text : List Char) : String :=
  String.ofList (text.flatMap fun character =>
    if isEncoded character then encodedChar character else [character])

/-- The bytes of a text in which numbers stand for bytes. -/
def decodeBytes : List Char → List UInt8
  | '%' :: high :: low :: rest =>
    match Json.hexValue? high, Json.hexValue? low with
    | some first, some second => (first * 16 + second).toUInt8 :: decodeBytes rest
    | _, _ => Text.Utf8.encodeChar '%' ++ decodeBytes (high :: low :: rest)
  | character :: rest => Text.Utf8.encodeChar character ++ decodeBytes rest
  | [] => []

end DatabaseLifecycle.Url
