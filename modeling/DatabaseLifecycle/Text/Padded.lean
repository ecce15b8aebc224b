/-! Texts cut and filled to a column width. -/

namespace DatabaseLifecycle.Text

/-- The side of a column at which a short text stands. -/
inductive Alignment where
  | left
  | right
  | center

/-- How many fill characters go before and after a text that is this much too short: a centred text
has the odd one after it. -/
def Alignment.split (alignment : Alignment) (missing : Nat) : Nat × Nat :=
  match alignment with
  | .left => (0, missing)
  | .right => (missing, 0)
  | .center => (missing / 2, missing - missing / 2)

/-- A text filled up to a width, counted in characters. -/
def padded (text : String) (width : Nat) (alignment : Alignment) (fill : Char) : String :=
  let sides := alignment.split (width - text.length)
  String.ofList (List.replicate sides.1 fill ++ text.toList ++ List.replicate sides.2 fill)

/-- The first characters of a text, at most as many as the limit. -/
def truncated (text : String) (limit : Nat) : String := String.ofList (text.toList.take limit)

/-- A number in decimal, with zeros before it up to two digits. -/
def twoDigits (number : Nat) : String := padded (toString number) 2 .right '0'

end DatabaseLifecycle.Text
