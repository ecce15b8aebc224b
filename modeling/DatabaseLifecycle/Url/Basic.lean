import DatabaseLifecycle.Url.Host

/-!
URLs as they are read and written. Reading resolves `.` and `..` in the path, takes a backslash for
a slash and writes characters that may not stand where they are as numbers.
-/

namespace DatabaseLifecycle

/-- Where a URL's resource lies on its host. -/
inductive UrlPath where
  /-- Segments, each after a slash. -/
  | segments (segments : List String)
  /-- A text without structure. -/
  | plain (text : String)
  deriving DecidableEq, Repr, Inhabited

/-- A URL. -/
structure Url where
  /-- The scheme. -/
  scheme : String
  /-- The user, with the password behind a colon, unless both are empty. -/
  user : Option String := none
  /-- The host, which may be empty, if there is a place for one. -/
  host : Option String := none
  /-- The port, unless it is the scheme's own. -/
  port : Option Nat := none
  /-- The path. -/
  path : UrlPath
  /-- The query. -/
  query : Option String := none
  /-- The fragment. -/
  fragment : Option String := none
  deriving DecidableEq, Repr, Inhabited

namespace Url

/-- The schemes that are well known, with their ports. -/
def specialSchemes : List (String × Option Nat) :=
  [("http", some 80), ("https", some 443), ("ws", some 80), ("wss", some 443), ("ftp", some 21),
    ("file", none)]

/-- Whether a scheme is well known. -/
def isSpecial (scheme : String) : Bool := (specialSchemes.lookup scheme).isSome

/-- The path as it is written. -/
def UrlPath.write : UrlPath → String
  | .segments segments => String.join (segments.map ("/" ++ ·))
  | .plain text => text

/-- The URL as it is written. -/
def write (url : Url) : String :=
  url.scheme ++ ":"
    ++ (url.host.map ("//" ++ (url.user.map (· ++ "@")).getD "" ++ ·)).getD ""
    ++ (url.port.map fun port => ":" ++ toString port).getD ""
    ++ UrlPath.write url.path ++ (url.query.map ("?" ++ ·)).getD ""
    ++ (url.fragment.map ("#" ++ ·)).getD ""

/-- Whether the URL names a host. -/
def hasHost (url : Url) : Bool := (url.host.getD "") != ""

/-- The characters of a text that count: no tabs and line ends, and nothing blank at its ends. -/
def significant (text : String) : List Char :=
  let isEdge (character : Char) : Bool := character.toNat ≤ 0x20
  let trimmed := ((text.toList.dropWhile isEdge).reverse.dropWhile isEdge).reverse
  trimmed.filter fun character => !(['\t', '\n', '\r'].contains character)

/-- Whether a character may stand in a scheme after its first. -/
def isSchemeChar (character : Char) : Bool :=
  character.isAlphanum || ['+', '-', '.'].contains character

/-- The scheme that a text begins with, and what follows its colon. -/
def splitScheme? (text : List Char) : Option (String × List Char) :=
  let scheme := text.takeWhile isSchemeChar
  match scheme, text.dropWhile isSchemeChar with
  | first :: _, ':' :: rest =>
    if first.isAlpha then some (String.ofList (scheme.map Char.toLower), rest) else none
  | _, _ => none

/-- Whether a character separates the segments of a path. -/
def isSlash (special : Bool) (character : Char) : Bool :=
  character == '/' || special && character == '\\'

/-- What a text holds before its query and fragment, with these two. -/
def splitTail (special : Bool) (text : List Char) :
    List Char × Option String × Option String :=
  let beforeFragment := text.takeWhile (· != '#')
  let fragment := match text.dropWhile (· != '#') with
    | _ :: rest => some (encode isFragmentEncoded rest)
    | [] => none
  let query := match beforeFragment.dropWhile (· != '?') with
    | _ :: rest => some (encode (isQueryEncoded special) rest)
    | [] => none
  (beforeFragment.takeWhile (· != '?'), query, fragment)

/-- A segment with the numbers that stand for points put back. -/
def withPoints : List Char → List Char
  | '%' :: '2' :: letter :: rest =>
    if letter == 'e' || letter == 'E' then '.' :: withPoints rest
    else '%' :: '2' :: letter :: withPoints rest
  | character :: rest => character :: withPoints rest
  | [] => []

/-- Whether a segment stands for the place it is in. -/
def isSamePlace (segment : List Char) : Bool := withPoints segment == ['.']

/-- Whether a segment stands for the place above. -/
def isPlaceAbove (segment : List Char) : Bool := withPoints segment == ['.', '.']

/-- Segments after those that are done, given the last one first. -/
def resolve (done : List String) : List (List Char) → List String
  | [] => done.reverse
  | [last] =>
    if isPlaceAbove last then ("" :: done.drop 1).reverse
    else if isSamePlace last then ("" :: done).reverse
    else (encode isPathEncoded last :: done).reverse
  | segment :: rest =>
    if isPlaceAbove segment then resolve (done.drop 1) rest
    else if isSamePlace segment then resolve done rest
    else resolve (encode isPathEncoded segment :: done) rest

/-- The segments of a path. The path of a well-known scheme has at least one. -/
def pathSegments (special : Bool) (text : List Char) : List String :=
  match text with
  | [] => if special then [""] else []
  | first :: rest =>
    let text := if isSlash special first then rest else first :: rest
    resolve [] (text.splitOnP (isSlash special))

/-- What follows the user and password of an authority. -/
def withoutUser (authority : List Char) : List Char :=
  (authority.reverse.takeWhile (· != '@')).reverse

/-- The user of an authority, with the password behind a colon, unless both are empty. -/
def user? (authority : List Char) : Option String :=
  let text := ((authority.reverse.dropWhile (· != '@')).drop 1).reverse
  let name := encode isUserEncoded (text.takeWhile (· != ':'))
  let password := encode isUserEncoded ((text.dropWhile (· != ':')).drop 1)
  if !password.isEmpty then some (name ++ ":" ++ password)
  else if !name.isEmpty then some name
  else none

/-- The host and the port's text of an authority; colons between brackets belong to the host. -/
def splitPort : List Char → List Char × Option (List Char)
  | '[' :: rest =>
    let inside := rest.takeWhile (· != ']')
    match rest.dropWhile (· != ']') with
    | _ :: after =>
      let more := after.takeWhile (· != ':')
      ('[' :: inside ++ (']' :: more), (after.dropWhile (· != ':')).tail?)
    | [] => ('[' :: inside, none)
  | authority => (authority.takeWhile (· != ':'), (authority.dropWhile (· != ':')).tail?)

/-- The port that a text writes; none if it is empty or the scheme's own. -/
def readPort? (scheme : String) (text : Option (List Char)) : Option (Option Nat) :=
  match text with
  | none | some [] => some none
  | some digits => do
    let port ← numberIn? 10 digits
    if 65535 < port || digits.any (!·.isDigit) then none
    else some (if (specialSchemes.lookup scheme).join == some port then none else some port)

/-- A URL whose text goes on with an authority. -/
def readAuthority? (scheme : String) (text : List Char) : Option Url := do
  let special := isSpecial scheme
  let (place, query, fragment) := splitTail special text
  let authority := place.takeWhile (!isSlash special ·)
  let path := place.dropWhile (!isSlash special ·)
  let (hostText, portText) := splitPort (withoutUser authority)
  -- A user is always one of a host that has a name.
  let isNamed (host : String) : Bool := !host.isEmpty || !authority.contains '@'
  let host ← if special then specialHost? hostText else (otherHost? hostText).filter isNamed
  let port ← readPort? scheme portText
  return {
    scheme, user := user? authority, host := some host, port
    path := .segments (pathSegments special path), query, fragment }

/-- A URL of a file, whose host may be left out. -/
def readFile? (text : List Char) : Option Url := do
  let (place, query, fragment) := splitTail true text
  let slashes := (place.takeWhile (isSlash true)).length
  let (hostText, path) :=
    if slashes == 2 then
      ((place.drop 2).takeWhile (!isSlash true ·), (place.drop 2).dropWhile (!isSlash true ·))
    else if 2 < slashes then ([], place.drop 2)
    else ([], place)
  let host ← if hostText.isEmpty then some "" else specialHost? hostText
  return {
    scheme := "file", host := some (if host == "localhost" then "" else host),
    path := .segments (pathSegments true path), query, fragment }

/-- A URL without an authority. -/
def readPlain (scheme : String) (text : List Char) : Url :=
  let (place, query, fragment) := splitTail false text
  let path := if place.head? == some '/' then .segments (pathSegments false place)
    else .plain (encode isControl place)
  { scheme, path, query, fragment }

/-- The URL that a text writes. -/
def read? (text : String) : Option Url := do
  let (scheme, rest) ← splitScheme? (significant text)
  if scheme == "file" then readFile? rest
  else if isSpecial scheme then readAuthority? scheme (rest.dropWhile (isSlash true))
  else
    match rest with
    | '/' :: '/' :: rest => readAuthority? scheme rest
    | rest => return readPlain scheme rest

/-- The URL with more pairs at the end of its query. -/
def withQuery (url : Url) (pairs : List (String × String)) : Url :=
  if pairs.isEmpty then url
  else
    let more := "&".intercalate (pairs.map fun pair => pair.1 ++ "=" ++ pair.2)
    { url with query := some (match url.query with
      | some query => if query.isEmpty then more else query ++ "&" ++ more
      | none => more) }

/-- A base without the slashes at its end and a path without those at its start, with one slash
between them. -/
def join (base path : String) : String :=
  String.ofList ((base.toList.reverse.dropWhile (· == '/')).reverse
    ++ '/' :: path.toList.dropWhile (· == '/'))

end Url

end DatabaseLifecycle
