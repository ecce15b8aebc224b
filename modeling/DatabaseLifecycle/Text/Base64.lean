/-! The Base64 form of bytes: the standard alphabet, padded, each value with one written form. -/

namespace DatabaseLifecycle.Text.Base64

/-- The digits, each at the place of its value. -/
def alphabet : List Char :=
  "ABCDEFGHIJKLMNOPQRSTUVWXYZabcdefghijklmnopqrstuvwxyz0123456789+/".toList

/-- The digit of a value below 64. -/
def digit (value : Nat) : Char := alphabet.getD value 'A'

/-- The value of a digit. -/
def value? (digit : Char) : Option Nat := alphabet.findIdx? (· == digit)

/-- The digits of the bytes, three bytes to four digits, the last group filled with equals signs. -/
def encodeChars : List UInt8 → List Char
  | first :: second :: third :: rest =>
    let bits := first.toNat * 65536 + second.toNat * 256 + third.toNat
    digit (bits / 262144) :: digit (bits / 4096 % 64) :: digit (bits / 64 % 64) ::
      digit (bits % 64) :: encodeChars rest
  | [first, second] =>
    let bits := first.toNat * 65536 + second.toNat * 256
    [digit (bits / 262144), digit (bits / 4096 % 64), digit (bits / 64 % 64), '=']
  | [first] =>
    let bits := first.toNat * 65536
    [digit (bits / 262144), digit (bits / 4096 % 64), '=', '=']
  | [] => []

/-- The written form of the bytes. -/
def encode (bytes : List UInt8) : String := String.ofList (encodeChars bytes)

/-- The bytes of groups of digits, spare bits dropped. -/
def decodeChars : List Char → Option (List UInt8)
  | [] => some []
  | [first, second, '=', '='] => do
    let bits := (← value? first) * 64 + (← value? second)
    return [(bits / 16).toUInt8]
  | [first, second, third, '='] => do
    let bits := ((← value? first) * 64 + (← value? second)) * 64 + (← value? third)
    return [(bits / 1024).toUInt8, (bits / 4 % 256).toUInt8]
  | first :: second :: third :: fourth :: rest => do
    let bits := (((← value? first) * 64 + (← value? second)) * 64 + (← value? third)) * 64
      + (← value? fourth)
    let others ← decodeChars rest
    return (bits / 65536).toUInt8 :: (bits / 256 % 256).toUInt8 :: (bits % 256).toUInt8 :: others
  | _ => none

/-- The bytes whose written form is exactly this text. -/
def decode? (text : String) : Option (List UInt8) := do
  let bytes ← decodeChars text.toList
  if encode bytes = text then some bytes else none

end DatabaseLifecycle.Text.Base64
