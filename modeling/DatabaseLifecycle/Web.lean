import DatabaseLifecycle.Http
import DatabaseLifecycle.Text.Base64
import DatabaseLifecycle.Url.Basic

/-!
Requests that show what lies under a URL. A request that cannot be made, and one that nobody
answers, are told apart by their wording.
-/

namespace DatabaseLifecycle.Web

/-- A request to be shown what lies under a URL. -/
structure Request where
  /-- What is asked for. -/
  method : Http.Method := .get
  /-- The URL, without its fragment when it is sent. -/
  url : Url
  /-- Who asks, in every way that it is said. -/
  authorizations : List String := []
  /-- On whose behalf. -/
  tenant : Option String := none
  deriving DecidableEq, Inhabited

namespace Request

/-- The headers that say who asks and on whose behalf. -/
def headers (request : Request) : List (String × String) :=
  request.authorizations.map ("Authorization", ·)
    ++ (request.tenant.map ("X-Tenant-Id", ·)).toList

/-- What is asked for on the host. -/
def target (request : Request) : String :=
  Url.UrlPath.write request.url.path ++ (request.url.query.map ("?" ++ ·)).getD ""

end Request

/-- How requests are sent and answered; without an answer the server could not be reached. -/
abbrev Transport (m : Type → Type) : Type := Request → m (Option Http.Response)

/-- The wording for a request that cannot be made. -/
def unbuildable : String := "builder error"

/-- The wording for a request that cannot be made of this URL. -/
def unbuildableUrl (url : Url) : String := unbuildable ++ " for url (" ++ url.write ++ ")"

/-- The wording for a request that nobody answered. -/
def unanswered (url : Url) : String := "error sending request for url (" ++ url.write ++ ")"

/-- Whether a text may be the value of a header. -/
def isHeaderValue (text : String) : Bool :=
  text.toList.all fun character =>
    character == '\t' || 0x20 ≤ character.toNat && character.toNat != 0x7F

/-- Whether a host is made of characters that a request can name it with. -/
def isRequestHost (host : String) : Bool :=
  host.toList.all fun character => !(['"', '\x60', '\x7b', '\x7d'].contains character)

/-- A user and a password as they are said in a request. -/
def basic (name password : String) : String :=
  "Basic " ++ Text.Base64.encode (Text.Utf8.encode (name ++ ":" ++ password))

/-- The text in which numbers stand for bytes, if these are the form of a text. -/
def decoded? (text : List Char) : Option String := Text.Utf8.decode? (Url.decodeBytes text)

/-- The user and the password of a URL, if the user can be read and one of them is there; a password that
cannot be read counts as none. -/
def login? (url : Url) : Option (String × String) := do
  let user := (url.user.getD "").toList
  let name ← decoded? (user.takeWhile (· != ':'))
  let password := (decoded? ((user.dropWhile (· != ':')).drop 1)).getD ""
  if name.isEmpty && password.isEmpty then none else some (name, password)

/-- The URL without the user and the password that a request says in another way. -/
def withoutLogin (url : Url) : Url :=
  if (login? url).isSome then { url with user := none } else url

/-- The request for what lies under the URL that a text writes, with more pairs in its query, or the
wording for why there is none. A user and a password in the text are those who ask, before any other. -/
def request (text : String) (pairs : List (String × String))
    (authorization tenant : Option String) :
    Except String Request :=
  match Url.read? text with
  | none => .error unbuildable
  | some url =>
    if !url.hasHost then .error (unbuildableUrl url)
    else if !tenant.all isHeaderValue then .error unbuildable
    else
      let sent := (withoutLogin url).withQuery pairs
      if !(["http", "https"].contains sent.scheme) || !isRequestHost (sent.host.getD "") then
        .error (unbuildableUrl sent)
      else .ok {
        url := sent
        authorizations := (login? url).toList.map (fun login => basic login.1 login.2)
          ++ authorization.toList
        tenant }

/-- The answer to a request, or the wording for why there is none. -/
def exchange {m : Type → Type} [Monad m] (send : Transport m) (request : Except String Request) :
    m (Except String Http.Response) := do
  match request with
  | .error wording => return .error wording
  | .ok request =>
    match ← send request with
    | some response => return .ok response
    | none => return .error (unanswered request.url)

end DatabaseLifecycle.Web
