import DatabaseLifecycle.Text.Utf8
import DatabaseLifecycle.Url.Percent
import DatabaseLifecycle.Yaml.Cursor

/-! Tags, anchors and directives: the marks that say something about what follows them. -/

namespace DatabaseLifecycle.Yaml

/-- A tag as it is written: a handle and what follows it. -/
structure Tag where
  /-- The handle, or nothing for a tag that is given in full. -/
  handle : String
  /-- What follows the handle. -/
  suffix : String
  deriving DecidableEq, Repr, Inhabited

namespace Tag

/-- Whether a character may stand in a tag. -/
def isUriChar (inFull : Bool) (character : Char) : Bool :=
  isNameChar character
    || [';', '/', '?', ':', '@', '&', '=', '+', '$', '.', '%', '!', '~', '*', '\'', '(',
      ')'].contains character
    || inFull && [',', '[', ']'].contains character

/-- The text that a run of tag characters stands for; numbers of bytes must form characters. -/
def uriText? (written : List Char) : Option String :=
  let bytes := Url.decodeBytes written
  if hasLoosePercent written then none else Text.Utf8.decode? bytes
where
  /-- Whether a percent sign stands before something else than the number of a byte. -/
  hasLoosePercent : List Char → Bool
    | '%' :: high :: low :: rest =>
      (Json.hexValue? high).isNone || (Json.hexValue? low).isNone || hasLoosePercent rest
    | '%' :: _ => true
    | _ :: rest => hasLoosePercent rest
    | [] => false

/-- The tag characters at a place, and the place after them. -/
def uri? (inFull : Bool) (cursor : Cursor) : Option (String × Cursor) := do
  let written := cursor.rest.takeWhile (isUriChar inFull)
  return (← uriText? written, cursor.skip written.length)

/-- The handle at a place: an exclamation mark, a name and perhaps another mark. -/
def handle? (cursor : Cursor) : Option (String × Cursor) :=
  if cursor.head? != some '!' then none
  else
    let name := (cursor.rest.drop 1).takeWhile isNameChar
    let after := cursor.skip (1 + name.length)
    if after.head? == some '!' then some (String.ofList ('!' :: (name ++ ['!'])), after.skip 1)
    else some (String.ofList ('!' :: name), after)

/-- Whether a handle stands for a text that a directive gives. -/
def isNamed (handle : String) : Bool := 1 < handle.length && handle.endsWith "!"

/-- The tag at a place, and the place after it. -/
def read? (inFlow : Bool) (cursor : Cursor) : Option (Tag × Cursor) := do
  let (tag, after) ←
    if cursor.second? == some '<' then do
      let (suffix, after) ← uri? true (cursor.skip 2)
      if suffix.isEmpty || after.head? != some '>' then none
      else pure (({ handle := "", suffix } : Tag), after.skip 1)
    else do
      let (handle, afterHandle) ← handle? cursor
      let (more, after) ← uri? false afterHandle
      if isNamed handle then
        if more.isEmpty then none else pure (({ handle, suffix := more } : Tag), after)
      else
        let suffix := (handle.drop 1).toString ++ more
        pure (if suffix.isEmpty then { handle := "", suffix := "!" }
          else { handle := "!", suffix }, after)
  if (inFlow && after.head? == some ',') || endsWord after.head? then some (tag, after) else none

end Tag

/-- The name of the anchor at a place, and the place after it. -/
def anchorName? (cursor : Cursor) : Option (String × Cursor) :=
  let name := (cursor.rest.drop 1).takeWhile isNameChar
  let after := cursor.skip (1 + name.length)
  let ends := endsWord after.head? || after.head?.any fun character =>
    ['?', ':', ',', ']', '\x7d', '%', '@', '\x60'].contains character
  if name.isEmpty || !ends then none else some (String.ofList name, after)

/-- What a line that begins with a percent sign says. -/
inductive Directive where
  /-- The version of YAML. -/
  | version (major minor : Nat)
  /-- The text that a handle stands for. -/
  | tag (handle replacement : String)
  deriving DecidableEq, Repr, Inhabited

namespace Directive

/-- The digits at a place, at most nine, as a number. -/
def number? (cursor : Cursor) : Option (Nat × Cursor) :=
  let digits := cursor.rest.takeWhile Char.isDigit
  if digits.isEmpty || 9 < digits.length then none
  else some (Text.digitsValue digits, cursor.skip digits.length)

/-- The version at a place. -/
def version? (cursor : Cursor) : Option (Directive × Cursor) := do
  let (major, after) ← number? (cursor.skipWhile isGap)
  if after.head? != some '.' then none
  else
    let (minor, after) ← number? (after.skip 1)
    return (.version major minor, after)

/-- The handle and its text at a place. -/
def tag? (cursor : Cursor) : Option (Directive × Cursor) := do
  let (handle, after) ← Tag.handle? (cursor.skipWhile isGap)
  if (handle != "!" && !Tag.isNamed handle) || !after.head?.any isGap then none
  else
    let (replacement, after) ← Tag.uri? true (after.skipWhile isGap)
    if replacement.isEmpty || !endsWord after.head? then none
    else some (.tag handle replacement, after)

/-- The directive at a place, and the place after its line. -/
def read? (cursor : Cursor) : Option (Directive × Cursor) := do
  let name := (cursor.rest.drop 1).takeWhile isNameChar
  let after := cursor.skip (1 + name.length)
  if !endsWord after.head? then none
  else
    let (directive, after) ←
      if name == ['Y', 'A', 'M', 'L'] then version? after
      else if name == ['T', 'A', 'G'] then tag? after
      else none
    return (directive, ← after.skipLineRest?)

end Directive

end DatabaseLifecycle.Yaml
