import DatabaseLifecycle.Text.Unmarked

/-! Texts quoted for a reader: every character that would not show is written as an escape. -/

namespace DatabaseLifecycle.Text

/-- The hexadecimal digits of a number, in lower case and without padding. -/
def hexDigits (number : Nat) : List Char := Nat.toDigits 16 number

/-- A character as it stands between double quotes. -/
def quotedChar (character : Char) : List Char :=
  match character with
  | '"' => ['\\', '"']
  | '\\' => ['\\', '\\']
  | '\n' => ['\\', 'n']
  | '\r' => ['\\', 'r']
  | '\t' => ['\\', 't']
  | '\x00' => ['\\', '0']
  | _ =>
    if character.toNat < 0x20 || character.toNat == 0x7F || isUnmarked character then
      ['\\', 'u', '\x7b'] ++ hexDigits character.toNat ++ ['\x7d']
    else [character]

/-- A text between double quotes, with escapes for quotes, backslashes and what would not show. -/
def quoted (text : String) : String :=
  String.ofList ('"' :: (text.toList.flatMap quotedChar ++ ['"']))

end DatabaseLifecycle.Text
