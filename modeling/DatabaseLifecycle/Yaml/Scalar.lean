import DatabaseLifecycle.Document.Json

/-!
What a plain scalar stands for: nothing, a truth value, a number or a text.
-/

namespace DatabaseLifecycle.Yaml

/-- The spellings of nothing. -/
def nullSpellings : List String := ["null", "Null", "NULL", "~"]

/-- The truth value that a text writes. -/
def bool? (text : String) : Option Bool :=
  if ["true", "True", "TRUE"].contains text then some true
  else if ["false", "False", "FALSE"].contains text then some false
  else none

/-- The number that digits write in a base. -/
def digits? (base : Nat) (digits : List Char) : Option Nat :=
  if digits.isEmpty then none
  else digits.foldlM (fun number digit => do
    let value ← Json.hexValue? digit
    if value < base then some (number * base + value) else none) 0

/-- The number that digits write, in the base that their beginning names. Decimal digits with a zero
too many at their beginning write none. -/
def natural? (text : List Char) : Option Nat :=
  match text with
  | '0' :: 'x' :: digits => digits? 16 digits
  | '0' :: 'o' :: digits => digits? 8 digits
  | '0' :: 'b' :: digits => digits? 2 digits
  | '0' :: _ :: _ => none
  | digits => if digits.all Char.isDigit then digits? 10 digits else none

/-- The whole number that a text writes. -/
def integer? (text : String) : Option Int :=
  match text.toList with
  | '+' :: digits => (natural? digits).map fun number => (number : Int)
  | '-' :: digits => (natural? digits).map fun number => -(number : Int)
  | digits => (natural? digits).map fun number => (number : Int)

/-- Whether a text is made of decimal digits with a zero too many at their beginning. -/
def hasExtraZero (text : String) : Bool :=
  let digits := match text.toList with
    | '+' :: digits => digits
    | '-' :: digits => digits
    | digits => digits
  1 < digits.length && digits.head? == some '0' && digits.all Char.isDigit

/-- The exponent of a number, if one follows and nothing else does. -/
def exponent? : List Char → Option Int
  | [] => some 0
  | letter :: rest =>
    if letter == 'e' || letter == 'E' then
      let (negative, digits) := match rest with
        | '-' :: digits => (true, digits)
        | '+' :: digits => (false, digits)
        | digits => (false, digits)
      if digits.isEmpty || !digits.all Char.isDigit then none
      else
        let size : Int := Text.digitsValue digits
        some (if negative then -size else size)
    else none

/-- Whether a text writes a finite number with a fraction or an exponent, or only with digits. -/
def isFinite (text : List Char) : Bool :=
  let unsigned := match text with
    | '-' :: rest => rest
    | '+' :: rest => rest
    | rest => rest
  let whole := unsigned.takeWhile Char.isDigit
  let rest := unsigned.dropWhile Char.isDigit
  let (places, rest) := match rest with
    | '.' :: rest => (rest.takeWhile Char.isDigit, rest.dropWhile Char.isDigit)
    | rest => ([], rest)
  match exponent? rest with
  | some exponent =>
    !(whole.isEmpty && places.isEmpty)
      && !Json.exceedsDouble (whole ++ places) (exponent - places.length)
  | none => false

/-- Whether a text writes a number that need not be whole. -/
def isDecimal (text : String) : Bool :=
  match text.toList with
  | '+' :: rest =>
    (rest.head? != some '+' && rest.head? != some '-')
      && ([".inf", ".Inf", ".INF"].contains (String.ofList rest) || isFinite rest)
  | characters =>
    [".inf", ".Inf", ".INF", "-.inf", "-.Inf", "-.INF", ".nan", ".NaN", ".NAN"].contains text
      || (characters.head? != some '+' && isFinite characters)

/-- Whether a whole number is one that can be kept. -/
def isKept (number : Int) : Bool :=
  -9223372036854775808 ≤ number && number ≤ 18446744073709551615

/-- Whether a whole number is too great to be kept but not so great that it counts as a decimal. -/
def isBetween (number : Int) : Bool :=
  !isKept number && -170141183460469231731687303715884105728 ≤ number
    && number ≤ 340282366920938463463374607431768211455

/-- Whether a text names its base. -/
def namesBase (text : String) : Bool :=
  match text.toList.dropWhile fun character => character == '+' || character == '-' with
  | '0' :: letter :: _ => ['x', 'o', 'b'].contains letter
  | _ => false

/-- What a plain scalar stands for; a number that is too great stands for nothing usable. -/
def resolved (text : String) : Option Document :=
  if text.isEmpty || nullSpellings.contains text then some .null
  else
    match bool? text, integer? text with
    | some value, _ => some (.bool value)
    | none, some number =>
      if isKept number then some (.integer number)
      else if isBetween number then none
      else if namesBase text then some (.text text)
      else if isDecimal text then some (.decimal text)
      else some (.text text)
    | none, none =>
      if hasExtraZero text then some (.text text)
      else if isDecimal text then some (.decimal text)
      else some (.text text)

end DatabaseLifecycle.Yaml
