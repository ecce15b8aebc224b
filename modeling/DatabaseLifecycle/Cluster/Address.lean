import DatabaseLifecycle.Cluster.Client

/-!
The address of a cluster: a scheme, a host with its port, and a path, each of which a text may leave
out. Only an address with a scheme and a host can be sent requests.
-/

namespace DatabaseLifecycle.Cluster

/-- The causes for which a text is no address. -/
inductive AddressFault where
  /-- There is no text. -/
  | empty
  /-- The text is too long. -/
  | long
  /-- The scheme is too long. -/
  | longScheme
  /-- A character may not stand where it does. -/
  | character
  /-- The part that names the host is no such name. -/
  | authority
  /-- The parts do not fit together. -/
  | form
  deriving DecidableEq, Repr, Inhabited

/-- The wording of a fault. -/
def AddressFault.message : AddressFault → String
  | empty => "empty string"
  | long => "uri too long"
  | longScheme => "scheme too long"
  | character => "invalid uri character"
  | authority => "invalid authority"
  | form => "invalid format"

/-- Where a cluster is. -/
structure Address where
  /-- The scheme. -/
  scheme : Option String
  /-- The host, with what stands before and after it. -/
  authority : Option String
  /-- The path, with its query if there is one. -/
  path : String
  deriving DecidableEq, Repr, Inhabited

namespace Address

/-- The greatest number of bytes of an address. -/
def maxLength : Nat := 65534

/-- The greatest number of bytes of a scheme that is not one of the usual two. -/
def maxSchemeLength : Nat := 64

/-- The greatest number of colons in a row of groups that is not yet closed. -/
def maxColons : Nat := 8

/-- Whether a character may stand in a scheme. -/
def isSchemeChar (character : Char) : Bool :=
  character.isAlphanum || ['+', '-', '.', '~'].contains character

/-- Whether a character may stand in an authority without a meaning of its own. -/
def isAuthorityChar (character : Char) : Bool :=
  character.isAlphanum
    || ['!', '$', '&', '\'', '(', ')', '*', '+', ',', '-', '.', ';', '=', '_', '~'].contains
      character

/-- Whether a character ends an authority. -/
def endsAuthority (character : Char) : Bool := ['/', '?', '#'].contains character

/-- A usual scheme at the start of a text, in any case of letters, and the text after it. -/
def usualScheme? (text : List Char) : Option (String × List Char) :=
  ["http", "https"].findSome? fun scheme =>
    let start := (scheme ++ "://").toList
    if (text.take start.length).map Char.toLower == start then
      some (scheme, text.drop start.length)
    else none

/-- The scheme at the start of a text, if there is one, and the text after it. -/
def splitScheme (text : List Char) : Except AddressFault (Option String × List Char) :=
  match usualScheme? text with
  | some (scheme, rest) => .ok (some scheme, rest)
  | none =>
    let scheme := text.takeWhile isSchemeChar
    match text.drop scheme.length with
    | ':' :: '/' :: '/' :: rest =>
      if maxSchemeLength < scheme.length then .error .longScheme
      else .ok (some (String.ofList scheme), rest)
    | _ => .ok (none, text)

/-- What has been seen of an authority. -/
structure Seen where
  /-- The colons since the last at sign or closed bracket. -/
  colons : Nat := 0
  /-- Whether a bracket was opened. -/
  opened : Bool := false
  /-- Whether a bracket was closed. -/
  closed : Bool := false
  /-- Whether there was a percent sign since the last at sign or closed bracket. -/
  percent : Bool := false
  /-- Whether the last character was an at sign. -/
  afterAt : Bool := false

/-- What has been seen after one more character. -/
def Seen.next (seen : Seen) (character : Char) : Except AddressFault Seen :=
  let seen := { seen with afterAt := false }
  match character with
  | ':' =>
    if maxColons ≤ seen.colons then .error .authority
    else .ok { seen with colons := seen.colons + 1 }
  | '[' =>
    if seen.percent || seen.opened then .error .authority else .ok { seen with opened := true }
  | ']' =>
    if !seen.opened || seen.closed then .error .authority
    else .ok { seen with closed := true, colons := 0, percent := false }
  | '@' => .ok { seen with afterAt := true, colons := 0, percent := false }
  | '%' => .ok { seen with percent := true }
  | _ => if isAuthorityChar character then .ok seen else .error .character

/-- Whether an authority may end after what has been seen. -/
def Seen.mayEnd (seen : Seen) : Bool :=
  seen.opened == seen.closed && seen.colons ≤ 1 && !seen.afterAt && !seen.percent

/-- The authority at the start of a text, which may be empty, and the text after it. -/
def splitAuthority (text : List Char) : Except AddressFault (List Char × List Char) := do
  let authority := text.takeWhile (!endsAuthority ·)
  let seen ← authority.foldlM Seen.next {}
  if seen.mayEnd then return (authority, text.drop authority.length) else throw .authority

/-- The path and query that a text writes. -/
def readPath (text : List Char) : Except AddressFault String :=
  match target? (String.ofList text) with
  | some path => .ok path
  | none => .error .character

/-- The address that a text writes which does not begin with a path. -/
def readFull (text : List Char) : Except AddressFault Address := do
  let (scheme, rest) ← splitScheme text
  let (authority, rest) ← splitAuthority rest
  match scheme with
  | none =>
    if rest.isEmpty then return ⟨none, some (String.ofList authority), ""⟩
    else throw (if text.length == 1 then .character else .form)
  | some scheme =>
    if authority.isEmpty then throw .form
    else return ⟨some scheme, some (String.ofList authority), ← readPath rest⟩

/-- The address that a text writes. -/
def read (text : String) : Except AddressFault Address :=
  if text.isEmpty then .error .empty
  else if maxLength < text.utf8ByteSize then .error .long
  else if text == "*" then .ok ⟨none, none, text⟩
  else if text.startsWith "/" then (readPath text.toList).map fun path => ⟨none, none, path⟩
  else readFull text.toList

/-- Why no request can be sent to an address, if none can. -/
def obstacle? (address : Address) : Option ClusterFailure :=
  match address.scheme, address.authority with
  | some scheme, some _ =>
    if scheme == "http" || scheme == "https" then none
    else some (.unreachable ["client error (Connect)", "unsupported scheme " ++ scheme])
  | _, _ => some (.unreachable ["client error (UserAbsoluteUriRequired)"])

/-- Requests sent to an address, unless none can be sent to it. -/
def guard {m : Type → Type} [Monad m] (address : Address) (send : Transport m) : Transport m :=
  fun request =>
    match address.obstacle? with
    | some failure => return .error failure
    | none => send request

end Address

end DatabaseLifecycle.Cluster
