/-! Numbers written in decimal digits. -/

namespace DatabaseLifecycle.Text

/-- The number that decimal digits write. -/
def digitsValue (digits : List Char) : Nat :=
  digits.foldl (fun value digit => value * 10 + (digit.toNat - '0'.toNat)) 0

/-- The number that a text writes, if it is made of one or more decimal digits. -/
def natural? (text : List Char) : Option Nat :=
  if text.isEmpty || !text.all Char.isDigit then none else some (digitsValue text)

end DatabaseLifecycle.Text
