import DatabaseLifecycle.ControlPlane.Client
import DatabaseLifecycle.Proofs.Document.Json
import DatabaseLifecycle.Proofs.Transcript
import DatabaseLifecycle.Proofs.Url.Join
import DatabaseLifecycle.Proofs.Web

/-!
Lookups over any server: when a request is sent and which one, every way in which it can be answered, and
what the error of a lookup says about the answer.
-/

namespace DatabaseLifecycle

/-- The interface to a server, which answers a request or cannot be reached. -/
@[reducible] def Web.interface : Interface := ⟨Web.Request, fun _ => Option Http.Response⟩

namespace ControlPlane

/-- Looks something up with requests to a server. -/
def lookUp (credentials : Credentials) (wanted : Lookup) :
    Program Web.interface (Except Error wanted.Found) :=
  lookup (fun request => @Program.call Web.interface request) credentials wanted

end ControlPlane

namespace Http

/-- The statuses of success are those from 200 to 299. -/
theorem isSuccess_iff {status : UInt16} :
    isSuccess status = true ↔ 200 ≤ status.toNat ∧ status.toNat ≤ 299 := by
  simp only [isSuccess, Bool.and_eq_true, decide_eq_true_eq, UInt16.le_iff_toNat_le,
    UInt16.lt_iff_toNat_lt, UInt16.toNat_ofNat]
  omega

end Http

/-- The statuses that blame the request are those from 400 to 499. -/
theorem Error.blamesRequest_iff {status : UInt16} :
    blamesRequest status = true ↔ 400 ≤ status.toNat ∧ status.toNat ≤ 499 := by
  simp only [blamesRequest, Bool.and_eq_true, decide_eq_true_eq, UInt16.le_iff_toNat_le,
    UInt16.lt_iff_toNat_lt, UInt16.toNat_ofNat]
  omega

/-- How a lookup ends, and the exchange with the server that it takes. -/
inductive Answered (credentials : Credentials) (wanted : Lookup) :
    List (Exchange Web.interface) → Except Error wanted.Found → Prop where
  | unasked {wording : String} (made : ControlPlane.request credentials wanted = .error wording) :
      Answered credentials wanted []
        (.error (.controlPlane wanted.operation none ("request failed: " ++ wording)))
  | unanswered {request : Web.Request}
      (made : ControlPlane.request credentials wanted = .ok request) :
      Answered credentials wanted [⟨request, none⟩]
        (.error (.controlPlane wanted.operation none
          ("request failed: " ++ Web.unanswered request.url)))
  | refused {request : Web.Request} {response : Http.Response}
      (made : ControlPlane.request credentials wanted = .ok request)
      (status : Http.isSuccess response.status = false) :
      Answered credentials wanted [⟨request, some response⟩]
        (.error (.controlPlane wanted.operation (some response.status)
          ("HTTP " ++ Http.statusText response.status ++ ": "
        ++ Text.trim (Text.Utf8.decodeLossy response.body))))
  | unreadable {request : Web.Request} {response : Http.Response}
      (made : ControlPlane.request credentials wanted = .ok request)
      (status : Http.isSuccess response.status = true)
      (read : Json.readBytes response.body >>= wanted.read? = none) :
      Answered credentials wanted [⟨request, some response⟩]
        (.error (.controlPlane wanted.operation none
          "invalid JSON: error decoding response body"))
  | found {request : Web.Request} {response : Http.Response} {value : wanted.Found}
      (made : ControlPlane.request credentials wanted = .ok request)
      (status : Http.isSuccess response.status = true)
      (read : Json.readBytes response.body >>= wanted.read? = some value) :
      Answered credentials wanted [⟨request, some response⟩] (.ok value)

/-- The header in which a user and a password are sent. -/
def ControlPlane.basicHeader (name password : String) : String × String :=
  ("Authorization", "Basic " ++ Text.Base64.encode (name ++ ":" ++ password).toUTF8.data.toList)

/-- What the request of a lookup says, given the URL that the endpoint and the path of the lookup write. -/
structure ControlPlane.Describes (credentials : Credentials) (wanted : Lookup) (url : Url)
    (request : Web.Request) : Prop where
  /-- Something is to be shown. -/
  method : request.method = .get
  /-- It lies under the URL, with the query of the lookup and without a user and a password. -/
  sentTo : request.url = (Web.withoutLogin url).withQuery wanted.query
  /-- Those of the URL are sent first, if there are any, then those of the credentials and the tenant. -/
  headers : request.headers
    = (Web.login? url).toList.map (fun login => basicHeader login.1 login.2)
      ++ basicHeader credentials.username credentials.password
        :: (credentials.tenant.map ("X-Tenant-Id", ·)).toList

/-- The response that was received, if there was one. -/
def Web.received (exchanges : List (Exchange Web.interface)) : Option Http.Response :=
  exchanges.head?.bind (·.reply)

/-- What an error says about the response to a lookup, if one was received. -/
structure Lookup.Blames (wanted : Lookup) (received : Option Http.Response) (error : Error) :
    Prop where
  /-- A response that is no success is blamed with its status and its text. -/
  refused : ∀ response, received = some response →
    ¬ (200 ≤ response.status.toNat ∧ response.status.toNat ≤ 299) →
    error = .controlPlane wanted.operation (some response.status)
      ("HTTP " ++ Http.statusText response.status ++ ": "
        ++ Text.trim (Text.Utf8.decodeLossy response.body))
  /-- Otherwise there is no status to blame. -/
  unrefused : (∀ response, received = some response →
      200 ≤ response.status.toNat ∧ response.status.toNat ≤ 299) →
    ∃ message, error = .controlPlane wanted.operation none message
  /-- Nothing was found exactly if the response says so. -/
  isNotFound_iff : error.isNotFound = true ↔
    ∃ response, received = some response ∧ response.status.toNat = 404
  /-- Trying again is of no use exactly if the response blames the request. -/
  isRetryable_iff : error.isRetryable = false ↔
    ∃ response, received = some response
      ∧ 400 ≤ response.status.toNat ∧ response.status.toNat ≤ 499

namespace Lookup

variable {wanted : Lookup}

/-- Without a response that is no success there is nothing to blame but the lookup. -/
theorem blames_none {received : Option Http.Response}
    (success : ∀ response, received = some response →
      200 ≤ response.status.toNat ∧ response.status.toNat ≤ 299) (message : String) :
    wanted.Blames received (.controlPlane wanted.operation none message) where
  refused response given failed := absurd (success response given) failed
  unrefused _ := ⟨message, rfl⟩
  isNotFound_iff := by
    refine iff_of_false Bool.false_ne_true ?_
    rintro ⟨response, given, status⟩
    have := success response given
    omega
  isRetryable_iff := by
    refine iff_of_false Bool.true_eq_false.mp ?_
    rintro ⟨response, given, status⟩
    have := success response given
    omega

/-- A response that is no success is what a lookup fails for. -/
theorem blames_some {response : Http.Response} (failed : Http.isSuccess response.status = false) :
    wanted.Blames (some response) (.controlPlane wanted.operation (some response.status)
      ("HTTP " ++ Http.statusText response.status ++ ": "
        ++ Text.trim (Text.Utf8.decodeLossy response.body))) where
  refused other given _ := by rw [Option.some_inj.mp given]
  unrefused success := by
    have := Http.isSuccess_iff.mpr (success response rfl)
    rw [failed] at this
    cases this
  isNotFound_iff := by
    simp [Error.isNotFound, ← UInt16.toNat_inj]
  isRetryable_iff := by
    simp [Error.isRetryable, Error.blamesRequest_iff]

end Lookup

namespace ControlPlane

variable {credentials : Credentials} {wanted : Lookup} {exchanges : List (Exchange Web.interface)}
  {ended : Except Error wanted.Found}

/-- A request is made of what the endpoint and the path of the lookup write, if that permits one. -/
theorem request_eq_ok_iff {request : Web.Request} :
    ControlPlane.request credentials wanted = .ok request ↔
      ∃ url : Url, Url.read? (Url.join credentials.endpoint wanted.path) = some url
        ∧ Web.Permits url credentials.tenant
        ∧ request = {
          url := (Web.withoutLogin url).withQuery wanted.query
          authorizations := (Web.login? url).toList.map (fun login => Web.basic login.1 login.2)
            ++ [authorization credentials]
          tenant := credentials.tenant } :=
  Web.request_eq_ok_iff

/-- A user and a password are sent as their bytes. -/
theorem basicHeader_eq (name password : String) :
    basicHeader name password = ("Authorization", Web.basic name password) := by
  rw [basicHeader, Web.basic, Text.Utf8.encode_eq]

/-- What a request of a URL says. -/
theorem describes_of_request {url : Url} {request : Web.Request}
    (read : Url.read? (Url.join credentials.endpoint wanted.path) = some url)
    (made : ControlPlane.request credentials wanted = .ok request) :
    Describes credentials wanted url request := by
  obtain ⟨same, again, _, rfl⟩ := request_eq_ok_iff.mp made
  obtain rfl := Option.some_inj.mp (read.symm.trans again)
  refine ⟨rfl, rfl, ?_⟩
  rw [Web.Request.headers]
  simp only [List.map_append, List.map_map, List.map_cons, List.map_nil, authorization,
    basicHeader_eq, List.append_assoc, List.singleton_append]
  rfl

/-- A lookup sends the request that it makes, if it can make one, and reads the answer. -/
theorem answered_of_runs (runs : (lookUp credentials wanted).Runs exchanges ended) :
    Answered credentials wanted exchanges ended := by
  unfold lookUp lookup Web.exchange at runs
  cases made : ControlPlane.request credentials wanted with
  | error wording =>
    rw [made] at runs
    obtain ⟨rfl, rfl⟩ := Program.runs_pure.mp runs
    exact .unasked made
  | ok request =>
    rw [made] at runs
    obtain ⟨reply, rest, rfl, reading⟩ := Program.runs_ask.mp runs
    cases reply with
    | none =>
      obtain ⟨rfl, rfl⟩ := Program.runs_pure.mp reading
      exact .unanswered made
    | some response =>
      obtain ⟨rfl, rfl⟩ := Program.runs_pure.mp reading
      cases status : Http.isSuccess response.status with
      | false =>
        simpa [found, status] using Answered.refused made status
      | true =>
        cases read : Json.readBytes response.body >>= wanted.read? with
        | none => simpa [found, status, read] using Answered.unreadable made status read
        | some value => simpa [found, status, read] using Answered.found made status read

/-- The error of a lookup blames the response that was received. -/
theorem blames_of_answered {error : Error}
    (answered : Answered credentials wanted exchanges (.error error)) :
    wanted.Blames (Web.received exchanges) error := by
  cases answered with
  | unasked | unanswered =>
    refine Lookup.blames_none ?_ _
    rintro response ⟨⟩
  | refused _ status => exact Lookup.blames_some status
  | unreadable _ status =>
    -- The response is a success, but its text is not what was asked for.
    refine Lookup.blames_none ?_ _
    rintro response ⟨⟩
    exact Http.isSuccess_iff.mp status

/-- A lookup finds what the text of a response says that is a success. -/
theorem eq_ok_iff_of_answered (answered : Answered credentials wanted exchanges ended)
    (value : wanted.Found) :
    ended = .ok value ↔ ∃ response, Web.received exchanges = some response
      ∧ (200 ≤ response.status.toNat ∧ response.status.toNat ≤ 299)
      ∧ Json.readBytes response.body >>= wanted.read? = some value := by
  cases answered with
  | unasked | unanswered =>
    refine iff_of_false nofun ?_
    rintro ⟨response, ⟨⟩, _⟩
  | refused _ status =>
    refine iff_of_false nofun ?_
    rintro ⟨response, ⟨⟩, success, _⟩
    rw [Http.isSuccess_iff.mpr success] at status
    cases status
  | unreadable _ _ unread =>
    refine iff_of_false nofun ?_
    rintro ⟨response, ⟨⟩, _, read⟩
    rw [unread] at read
    cases read
  | found _ status read =>
    constructor
    · rintro ⟨⟩
      exact ⟨_, rfl, Http.isSuccess_iff.mp status, read⟩
    · rintro ⟨response, ⟨⟩, _, same⟩
      rw [Option.some_inj.mp (read.symm.trans same)]

/-- No more than one request is sent, and that is the one which is made of the lookup. -/
theorem sent_of_answered (answered : Answered credentials wanted exchanges ended) :
    exchanges.length ≤ 1
      ∧ ∀ exchange ∈ exchanges, ControlPlane.request credentials wanted = .ok exchange.call := by
  cases answered with
  | unasked => simp
  | unanswered made | refused made | unreadable made | found made => simpa using made

/-- One request is sent if one can be made. -/
theorem sends_iff_of_answered (answered : Answered credentials wanted exchanges ended) :
    exchanges.length = 1 ↔ ∃ request, ControlPlane.request credentials wanted = .ok request := by
  cases answered with
  | unasked made => simp [made]
  | unanswered made | refused made | unreadable made | found made => simp [made]

/-- An endpoint of the web that is written without a query, a fragment and blanks at its end permits the
requests of all lookups or of none, and it gives all of them its login. -/
theorem permits_join {base : Url} (read : Url.read? credentials.endpoint = some base)
    (web : base.scheme ∈ ["http", "https"]) (queryless : base.query = none)
    (unmarked : base.fragment = none)
    (visible : ∀ last ∈ credentials.endpoint.toList.getLast?, Url.isEdge last = false)
    (wanted : Lookup) :
    ∃ url, Url.read? (Url.join credentials.endpoint wanted.path) = some url
      ∧ (Web.Permits url credentials.tenant ↔ Web.Permits base credentials.tenant)
      ∧ Web.login? url = Web.login? base := by
  obtain ⟨_, _, _, joined⟩ := Url.read?_join read web queryless unmarked visible
  -- Joining a path changes neither the scheme nor the user nor the host.
  exact ⟨_, joined wanted.path, ⟨fun permits => ⟨permits.web, permits.hosted, permits.named,
    permits.legal⟩, fun permits => ⟨permits.web, permits.hosted, permits.named, permits.legal⟩⟩, rfl⟩

/-- Whatever a server does, a lookup sends one request exactly if the endpoint and the path write a URL
that permits one on behalf of the tenant, and never more. It is one to be shown something in the name of
the user and of the tenant, if there is one. The lookup finds what the response says if that is a success
which can be read, and otherwise its error blames the response: with the status and the text of one that
is no success, and without a status if there was none or it could not be read. An endpoint of the web
without a query, a fragment and blanks at its end permits all requests that it permits itself, and unless
it names a user of its own, these name only that of the credentials. -/
theorem lookup_ends_as_answered {σ : Type} (server : Program.Handler Web.interface σ) (state : σ)
    (credentials : Credentials) (wanted : Lookup) :
    let exchanges := (lookUp credentials wanted).transcript server state
    let ended := ((lookUp credentials wanted).run server state).1
    Answered credentials wanted exchanges ended
      ∧ (exchanges.length = 1 ↔
        ∃ url, Url.read? (Url.join credentials.endpoint wanted.path) = some url
          ∧ Web.Permits url credentials.tenant)
      ∧ exchanges.length ≤ 1
      ∧ (∀ exchange ∈ exchanges,
        ∃ url, Url.read? (Url.join credentials.endpoint wanted.path) = some url
          ∧ Describes credentials wanted url exchange.call)
      ∧ (∀ value, ended = .ok value ↔ ∃ response, Web.received exchanges = some response
        ∧ (200 ≤ response.status.toNat ∧ response.status.toNat ≤ 299)
        ∧ Json.readBytes response.body >>= wanted.read? = some value)
      ∧ (∀ error, ended = .error error → wanted.Blames (Web.received exchanges) error)
      ∧ ∀ base, Url.read? credentials.endpoint = some base → base.scheme ∈ ["http", "https"] →
        base.query = none → base.fragment = none →
        (∀ last ∈ credentials.endpoint.toList.getLast?, Url.isEdge last = false) →
        (exchanges.length = 1 ↔ Web.Permits base credentials.tenant)
          ∧ (base.user = none → ∀ exchange ∈ exchanges, exchange.call.headers
            = basicHeader credentials.username credentials.password
              :: (credentials.tenant.map ("X-Tenant-Id", ·)).toList) := by
  intro exchanges ended
  have answered : Answered credentials wanted exchanges ended :=
    answered_of_runs (Program.runs_transcript server _ state)
  obtain ⟨one, sent⟩ := sent_of_answered answered
  have sends : exchanges.length = 1 ↔
      ∃ url, Url.read? (Url.join credentials.endpoint wanted.path) = some url
        ∧ Web.Permits url credentials.tenant := by
    rw [sends_iff_of_answered answered]
    constructor
    · rintro ⟨_, made⟩
      obtain ⟨url, read, permits, -⟩ := request_eq_ok_iff.mp made
      exact ⟨url, read, permits⟩
    · rintro ⟨url, read, permits⟩
      exact ⟨_, request_eq_ok_iff.mpr ⟨url, read, permits, rfl⟩⟩
  have described : ∀ exchange ∈ exchanges,
      ∃ url, Url.read? (Url.join credentials.endpoint wanted.path) = some url
        ∧ Describes credentials wanted url exchange.call := by
    intro exchange listed
    obtain ⟨url, read, -⟩ := request_eq_ok_iff.mp (sent exchange listed)
    exact ⟨url, read, describes_of_request read (sent exchange listed)⟩
  refine ⟨answered, sends, one, described, eq_ok_iff_of_answered answered, ?_, ?_⟩
  · intro error failed
    rw [failed] at answered
    exact blames_of_answered answered
  · intro base read web queryless unmarked visible
    obtain ⟨url, joined, permits, login⟩ := permits_join read web queryless unmarked visible wanted
    refine ⟨?_, fun userless exchange listed => ?_⟩
    · rw [sends, joined]
      simp only [Option.some.injEq, exists_eq_left', permits]
    · obtain ⟨_, again, said⟩ := described exchange listed
      obtain rfl := Option.some_inj.mp (joined.symm.trans again)
      rw [said.headers, login, Web.login?_of_userless userless]
      rfl

/-- Credentials for acting as a tenant at a control plane under a path of its host. -/
def tenantCredentials : Credentials :=
  { endpoint := "http://cp.local/api/", username := "admin", password := "pw", tenant := some "acme" }

/-- The text that shows a database. -/
def ordersText : String := Json.write (ManagedDatabase.write { id := "db-7", name := "orders" })

/-- A control plane that knows one database. -/
def knowingOrders : Program.Handler Web.interface Unit := fun request _ =>
  (some (if request.target = "/api/databases/orders?value-type=name&detailed=true"
    then .ofText 200 ordersText
    else .ofText 404 " no such thing\n"), ())

/-- A database that is known is found with one request, and a clone that is not known is reported as not
found, which trying again does not mend. -/
theorem lookup_ends_found_or_absent :
    let orders := lookUp tenantCredentials (.databaseNamed "orders")
    let gone := lookUp tenantCredentials (.clone "gone")
    (orders.run knowingOrders ()).1 = .ok { id := "db-7", name := "orders" }
      ∧ (∃ exchange, orders.transcript knowingOrders () = [exchange]
        ∧ exchange.call.method = .get
        ∧ exchange.call.headers = [("Authorization", "Basic YWRtaW46cHc="), ("X-Tenant-Id", "acme")])
      ∧ ∃ error, (gone.run knowingOrders ()).1 = .error error
        ∧ error = .controlPlane "get_clone_by_id" (some 404) "HTTP 404 Not Found: no such thing"
        ∧ error.isNotFound = true ∧ error.isRetryable = false := by
  intro orders gone
  let base : Url := { scheme := "http", host := some "cp.local", path := .segments ["api", ""] }
  have read : Url.read? tenantCredentials.endpoint = some base := by decide +kernel
  have permits : Web.Permits base tenantCredentials.tenant :=
    Web.permits_iff.mpr (by decide +kernel)
  have ends : ∀ last ∈ tenantCredentials.endpoint.toList.getLast?, Url.isEdge last = false := by
    intro last found
    obtain rfl : '/' = last := Option.some_inj.mp found
    decide
  constructor
  · obtain ⟨-, -, -, -, found, -⟩ :=
      lookup_ends_as_answered knowingOrders () tenantCredentials (.databaseNamed "orders")
    have received : Web.received (orders.transcript knowingOrders ()) = some (.ofText 200 ordersText) := by
      decide +kernel
    have shown : Json.readBytes (Http.Response.ofText 200 ordersText).body
        >>= (Lookup.databaseNamed "orders").read? = some { id := "db-7", name := "orders" } := by
      rw [Http.Response.ofText, Json.readBytes_encode]
      decide +kernel
    exact (found _).mpr ⟨_, received, by decide, shown⟩
  constructor
  · obtain ⟨-, -, -, described, -, -, ordinary⟩ :=
      lookup_ends_as_answered knowingOrders () tenantCredentials (.databaseNamed "orders")
    obtain ⟨sends, headers⟩ := ordinary base read (by decide) rfl rfl ends
    obtain ⟨exchange, only⟩ := List.length_eq_one_iff.mp (sends.mpr permits)
    have listed : exchange ∈ orders.transcript knowingOrders () := by
      rw [only]
      exact List.mem_singleton_self exchange
    obtain ⟨_, _, said⟩ := described exchange listed
    exact ⟨exchange, only, said.method, (headers rfl exchange listed).trans (by decide +kernel)⟩
  · obtain ⟨-, -, -, -, found, blames, -⟩ :=
      lookup_ends_as_answered knowingOrders () tenantCredentials (.clone "gone")
    let absent : Http.Response := .ofText 404 " no such thing\n"
    have received : Web.received (gone.transcript knowingOrders ()) = some absent := by decide +kernel
    cases ended : (gone.run knowingOrders ()).1 with
    | ok value =>
      obtain ⟨response, same, success, -⟩ := (found value).mp ended
      obtain rfl := Option.some_inj.mp (received.symm.trans same)
      exact absurd success (by decide)
    | error error =>
      have blame := blames error ended
      have said := blame.refused absent received (by decide)
      refine ⟨error, rfl, said.trans (by decide +kernel), ?_, ?_⟩
      · exact blame.isNotFound_iff.mpr ⟨absent, received, rfl⟩
      · exact blame.isRetryable_iff.mpr ⟨absent, received, by decide⟩

end ControlPlane

end DatabaseLifecycle
