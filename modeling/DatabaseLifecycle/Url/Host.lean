import DatabaseLifecycle.Url.Percent
import DatabaseLifecycle.Url.Punycode

/-! Hosts of URLs: names, and addresses in their usual spellings. -/

namespace DatabaseLifecycle.Url

/-- Whether a character may not stand in any host. -/
def isForbiddenInHost (character : Char) : Bool :=
  ['\x00', '\t', '\n', '\r', ' ', '#', '/', ':', '<', '>', '?', '@', '[', '\\', ']', '^',
    '|'].contains character

/-- Whether a character may not stand in a name. -/
def isForbiddenInName (character : Char) : Bool :=
  isForbiddenInHost character || isControl character || character == '%'

/-- The number that digits write in a base, if all of them are digits of it. -/
def numberIn? (base : Nat) (digits : List Char) : Option Nat :=
  digits.foldlM (fun number digit => do
    let value ← Json.hexValue? digit
    if value < base then some (number * base + value) else none) 0

/-- One number of an address: octal after a zero, hexadecimal after a zero and an x. -/
def addressNumber? : List Char → Option Nat
  | [] => none
  | '0' :: 'x' :: digits => numberIn? 16 digits
  | '0' :: 'X' :: digits => numberIn? 16 digits
  | ['0'] => some 0
  | '0' :: digits => numberIn? 8 digits
  | digits => numberIn? 10 digits

/-- The pieces of a name between points, without an empty one at its end. -/
def labels (name : List Char) : List (List Char) :=
  let labels := name.splitOn '.'
  if 1 < labels.length && labels.getLast? == some [] then labels.dropLast else labels

/-- Whether a name is to be read as an address: its last piece is a number. -/
def endsInNumber (name : List Char) : Bool :=
  match (labels name).getLast? with
  | some last => !last.isEmpty && (last.all Char.isDigit || (addressNumber? last).isSome)
  | none => false

/-- The number of an address given by its pieces, of which the last stands for all that are left. -/
def addressValue? : List Nat → Option Nat
  | [] => none
  | numbers =>
    let first := numbers.dropLast
    let last := numbers.getLast?.getD 0
    let rest := Nat.pow 256 (5 - numbers.length)
    if 4 < numbers.length || first.any (255 < ·) || rest ≤ last then none
    else some (first.foldl (fun value number => value * 256 + number) 0 * rest + last)

/-- An address as four numbers between points. -/
def writeAddress (value : Nat) : String :=
  ".".intercalate ([16777216, 65536, 256, 1].map fun unit => toString (value / unit % 256))

/-- The address that a name writes. -/
def address? (name : List Char) : Option Nat := do
  addressValue? (← (labels name).mapM addressNumber?)

/-- One group of four hexadecimal digits. -/
def group? (digits : List Char) : Option Nat :=
  if digits.isEmpty || 4 < digits.length then none else numberIn? 16 digits

/-- Four plain decimal numbers between points, as two groups. -/
def dottedGroups? (text : List Char) : Option (List Nat) := do
  let numbers ← (text.splitOn '.').mapM fun digits =>
    if digits.isEmpty || (digits.head? == some '0' && 1 < digits.length) then none
    else (numberIn? 10 digits).filter (· ≤ 255)
  match numbers with
  | [a, b, c, d] => some [a * 256 + b, c * 256 + d]
  | _ => none

/-- The groups between colons; the last ones may be written with points. -/
def groups? (text : List Char) : Option (List Nat) :=
  if text.isEmpty then some []
  else
    let pieces := text.splitOn ':'
    let last := pieces.getLast?.getD []
    if last.contains '.' then do
      return (← pieces.dropLast.mapM group?) ++ (← dottedGroups? last)
    else pieces.mapM group?

/-- What comes before and after the first pair of colons. -/
def aroundGap? : List Char → Option (List Char × List Char)
  | ':' :: ':' :: rest => some ([], rest)
  | character :: rest => (aroundGap? rest).map fun sides => (character :: sides.1, sides.2)
  | [] => none

/-- The eight groups of an address between brackets. -/
def longAddress? (text : List Char) : Option (List Nat) :=
  match aroundGap? text with
  | some (before, after) => do
    let first ← groups? before
    let last ← groups? after
    if before.contains '.' || 7 < first.length + last.length then none
    else some (first ++ List.replicate (8 - first.length - last.length) 0 ++ last)
  | none => (groups? text).filter (·.length == 8)

/-- How many zeros a list begins with. -/
def leadingZeros (groups : List Nat) : Nat := (groups.takeWhile (· == 0)).length

/-- Where the first of the longest runs of zeros begins, with its length. -/
def longestZeros : Nat → List Nat → Nat × Nat
  | _, [] => (0, 0)
  | start, group :: rest =>
    let here := leadingZeros (group :: rest)
    let later := longestZeros (start + 1) rest
    if later.2 ≤ here then (start, here) else later

/-- Groups with colons between them. -/
def writeGroups (groups : List Nat) : String :=
  ":".intercalate (groups.map fun group => String.ofList (Nat.toDigits 16 group))

/-- An address between brackets, the first of its longest runs of zeros left out. -/
def writeLongAddress (groups : List Nat) : String :=
  let (start, length) := longestZeros 0 groups
  if length < 2 then "[" ++ writeGroups groups ++ "]"
  else "[" ++ writeGroups (groups.take start) ++ "::" ++ writeGroups (groups.drop (start + length))
    ++ "]"

/-- Whether a character outside ASCII may not stand in a name: a control character, and the one that
stands for unreadable bytes. -/
def isUnnameable (character : Char) : Bool :=
  0x80 ≤ character.toNat && character.toNat < 0xA0 || character.toNat == 0xFFFD

/-- A name in ASCII, piece by piece. Other characters are taken to be in their usual form already.
-/
def asciiName (name : List Char) : List Char :=
  ['.'].intercalate ((name.splitOn '.').map Punycode.encode)

/-- The host of a URL whose scheme is a well-known one. Names are not empty. -/
def specialHost? (text : List Char) : Option String :=
  match text with
  | '[' :: rest =>
    if rest.getLast? == some ']' then (longAddress? rest.dropLast).map writeLongAddress else none
  | _ =>
    let decoded := (Text.Utf8.decodeChars (decodeBytes text)).map Char.toLower
    let name := asciiName decoded
    if name.isEmpty || decoded.any isUnnameable || name.any isForbiddenInName then none
    else if endsInNumber name then (address? name).map writeAddress
    else some (String.ofList name)

/-- The host of any other URL. -/
def otherHost? (text : List Char) : Option String :=
  match text with
  | '[' :: rest =>
    if rest.getLast? == some ']' then (longAddress? rest.dropLast).map writeLongAddress else none
  | _ => if text.any isForbiddenInHost then none else some (encode isControl text)

end DatabaseLifecycle.Url
