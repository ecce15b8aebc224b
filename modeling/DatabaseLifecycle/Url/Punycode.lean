/-!
Names in ASCII letters. A piece of a name that holds other characters is written as its ASCII
characters, followed by numbers that say which of the others come where, each as the distance from
the one before.
-/

namespace DatabaseLifecycle.Url.Punycode

/-- The digit of a value below 36: letters, then decimal digits. -/
def digit (value : Nat) : Char :=
  Char.ofNat (if value < 26 then 'a'.toNat + value else '0'.toNat + (value - 26))

/-- How many values the last digit of a number can have at a place. -/
def threshold (bias place : Nat) : Nat := min 26 (max 1 (36 * place - bias))

/-- The digits of a number from a place on. A digit below the threshold of its place is the last
one. Each further digit makes the number smaller, so that there are no more digits than its size. -/
def digits (bias : Nat) : Nat → Nat → Nat → List Char
  | 0, _, number => [digit number]
  | fuel + 1, place, number =>
    let limit := threshold bias place
    if number < limit then [digit number]
    else
      digit (limit + (number - limit) % (36 - limit))
        :: digits bias fuel (place + 1) ((number - limit) / (36 - limit))

/-- How often a number is divided until it is small, with what is left of it. -/
def damped : Nat → Nat → Nat × Nat
  | 0, number => (0, number)
  | fuel + 1, number =>
    if 455 < number then
      let (times, rest) := damped fuel (number / 35)
      (times + 1, rest)
    else (0, number)

/-- The bias after a distance, given how many characters are written then. -/
def adapted (distance written : Nat) (isFirst : Bool) : Nat :=
  let scaled := if isFirst then distance / 700 else distance / 2
  let start := scaled + scaled / written
  let (times, rest) := damped start start
  36 * times + 36 * rest / (rest + 38)

/-- What has been written of a piece. -/
structure State where
  /-- The characters written so far, in the order of their codes. -/
  written : Nat
  /-- The distance since the last written one. -/
  distance : Nat := 0
  /-- The bias of the next number. -/
  bias : Nat := 72
  /-- Whether no number is written yet. -/
  isFirst : Bool := true
  /-- The digits of the numbers. -/
  output : List Char := []

/-- The state after one character of the piece while those with a code are written. -/
def State.pass (code : Nat) (state : State) (character : Char) : State :=
  if character.toNat < code then { state with distance := state.distance + 1 }
  else if character.toNat == code then
    { written := state.written + 1
      distance := 0
      bias := adapted state.distance (state.written + 1) state.isFirst
      isFirst := false
      output := state.output ++ digits state.bias state.distance 1 state.distance }
  else state

/-- The state after all characters with a code, when those with smaller codes are written. -/
def State.write (piece : List Char) (previous code : Nat) (state : State) : State :=
  let start := { state with
    distance := state.distance + (code - previous - 1) * (state.written + 1) }
  let state := piece.foldl (State.pass code) start
  { state with distance := state.distance + 1 }

/-- The codes that occur, in ascending order. -/
def codes (piece : List Char) : List Nat :=
  ((piece.map Char.toNat).mergeSort (· ≤ ·)).eraseDups

/-- The state after the characters with these codes. -/
def writeAll (piece : List Char) : Nat → List Nat → State → State
  | _, [], state => state
  | previous, code :: rest, state => writeAll piece code rest (state.write piece previous code)

/-- Whether a character is in ASCII. -/
def isAscii (character : Char) : Bool := character.toNat < 128

/-- A piece of a name in ASCII. -/
def encode (piece : List Char) : List Char :=
  if piece.all isAscii then piece
  else
    let plain := piece.filter isAscii
    let others := codes (piece.filter (!isAscii ·))
    let start : State := { written := plain.length }
    let numbers := (writeAll piece 127 others start).output
    "xn--".toList ++ plain ++ (if plain.isEmpty then [] else ['-']) ++ numbers

end DatabaseLifecycle.Url.Punycode
