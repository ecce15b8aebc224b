/-!
The UTF-8 form of a text. `decodeLossy` reads any bytes, with one replacement character for every
longest part that begins no character; `decode` reads only bytes that are a text's own form, and says
what is wrong with others.
-/

namespace DatabaseLifecycle.Text.Utf8

/-- The bytes of one code point. -/
def encodeChar (character : Char) : List UInt8 :=
  let code := character.toNat
  if code < 0x80 then [code.toUInt8]
  else if code < 0x800 then [(0xC0 + code / 64).toUInt8, (0x80 + code % 64).toUInt8]
  else if code < 0x10000 then
    [(0xE0 + code / 4096).toUInt8, (0x80 + code / 64 % 64).toUInt8, (0x80 + code % 64).toUInt8]
  else
    [(0xF0 + code / 262144).toUInt8, (0x80 + code / 4096 % 64).toUInt8,
      (0x80 + code / 64 % 64).toUInt8, (0x80 + code % 64).toUInt8]

/-- The bytes of a text. -/
def encode (text : String) : List UInt8 := text.toList.flatMap encodeChar

/-- The character that stands for bytes that form none. -/
def replacement : Char := '\uFFFD'

/-- Whether a byte continues a character. -/
def isContinuation (byte : UInt8) : Bool := 0x80 ≤ byte && byte ≤ 0xBF

/-- How many bytes a character with this first byte has; none for a byte that begins no character.
-/
def width? (first : UInt8) : Option Nat :=
  if first < 0x80 then some 1
  else if 0xC2 ≤ first && first ≤ 0xDF then some 2
  else if 0xE0 ≤ first && first ≤ 0xEF then some 3
  else if 0xF0 ≤ first && first ≤ 0xF4 then some 4
  else none

/-- Whether a second byte may follow this first one: overlong forms, surrogates and code points past
the last are refused here. -/
def mayFollow (first second : UInt8) : Bool :=
  if first == 0xE0 then 0xA0 ≤ second && second ≤ 0xBF
  else if first == 0xED then 0x80 ≤ second && second ≤ 0x9F
  else if first == 0xF0 then 0x90 ≤ second && second ≤ 0xBF
  else if first == 0xF4 then 0x80 ≤ second && second ≤ 0x8F
  else isContinuation second

/-- The low six bits that a continuation byte carries. -/
def payload (byte : UInt8) : Nat := byte.toNat % 64

/-- A piece of bytes. -/
inductive Piece where
  /-- The bytes of a character. -/
  | char (character : Char)
  /-- A longest part that begins no character, or one whose bytes break off. -/
  | invalid (bytes : List UInt8)
  deriving DecidableEq, Repr

/-- The pieces of the bytes, in order. -/
def pieces : List UInt8 → List Piece
  | [] => []
  | first :: rest =>
    match width? first with
    | some 1 => .char (Char.ofNat first.toNat) :: pieces rest
    | some 2 =>
      match rest with
      | second :: rest =>
        if mayFollow first second then
          .char (Char.ofNat (first.toNat % 32 * 64 + payload second)) :: pieces rest
        else .invalid [first] :: pieces (second :: rest)
      | [] => [.invalid [first]]
    | some 3 =>
      match rest with
      | second :: third :: rest =>
        if !mayFollow first second then .invalid [first] :: pieces (second :: third :: rest)
        else if !isContinuation third then .invalid [first, second] :: pieces (third :: rest)
        else
          .char (Char.ofNat (first.toNat % 16 * 4096 + payload second * 64 + payload third)) ::
            pieces rest
      | [second] =>
        if mayFollow first second then [.invalid [first, second]]
        else .invalid [first] :: pieces [second]
      | [] => [.invalid [first]]
    | some _ =>
      match rest with
      | second :: third :: fourth :: rest =>
        if !mayFollow first second then
          .invalid [first] :: pieces (second :: third :: fourth :: rest)
        else if !isContinuation third then
          .invalid [first, second] :: pieces (third :: fourth :: rest)
        else if !isContinuation fourth then
          .invalid [first, second, third] :: pieces (fourth :: rest)
        else
          .char (Char.ofNat (first.toNat % 8 * 262144 + payload second * 4096 + payload third * 64
            + payload fourth)) :: pieces rest
      | [second, third] =>
        if !mayFollow first second then .invalid [first] :: pieces [second, third]
        else if !isContinuation third then .invalid [first, second] :: pieces [third]
        else [.invalid [first, second, third]]
      | [second] =>
        if mayFollow first second then [.invalid [first, second]]
        else .invalid [first] :: pieces [second]
      | [] => [.invalid [first]]
    | none => .invalid [first] :: pieces rest
  termination_by bytes => bytes.length

/-- The character that is read for a piece. -/
def Piece.shown : Piece → Char
  | .char character => character
  | .invalid _ => replacement

/-- The text of the bytes, with a replacement character for every longest invalid part. -/
def decodeChars (bytes : List UInt8) : List Char := (pieces bytes).map Piece.shown

/-- The text of the bytes, with a replacement character for every longest invalid part. -/
def decodeLossy (bytes : List UInt8) : String := String.ofList (decodeChars bytes)

/-- What is wrong with the first invalid part among pieces that begin at an index. -/
def faultFrom? (index : Nat) : List Piece → Option String
  | [] => none
  | .char character :: rest => faultFrom? (index + (encodeChar character).length) rest
  | .invalid bytes :: rest =>
    -- Only at the end can a part be the beginning of a character.
    let breaksOff := rest.isEmpty && (bytes.head?.bind width?).any (bytes.length < ·)
    some (if breaksOff then "incomplete utf-8 byte sequence from index " ++ toString index
      else "invalid utf-8 sequence of " ++ toString bytes.length ++ " bytes from index "
        ++ toString index)

/-- The text whose form is exactly these bytes, or what is wrong with them. -/
def decode (bytes : List UInt8) : Except String String :=
  match faultFrom? 0 (pieces bytes) with
  | some fault => .error fault
  | none => .ok (decodeLossy bytes)

/-- The text whose form is exactly these bytes. -/
def decode? (bytes : List UInt8) : Option String := (decode bytes).toOption

end DatabaseLifecycle.Text.Utf8
