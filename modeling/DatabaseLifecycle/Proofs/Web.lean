import DatabaseLifecycle.Proofs.Url.Percent
import DatabaseLifecycle.Web

/-!
Requests for what lies under a URL: when one can be made at all, which URL it is sent to, and what it says
about who asks.
-/

namespace DatabaseLifecycle

/-- Nothing but the query of a URL is changed when pairs are added to it. -/
theorem Url.withQuery_eq (url : Url) (pairs : List (String × String)) :
    url.withQuery pairs = { url with query := (url.withQuery pairs).query } := by
  unfold Url.withQuery
  split <;> rfl

section Login

variable {name password : String} {host : List Char}

/-- A text that goes on with a colon, or with nothing, is divided there if it has none before. -/
theorem Url.divided_at_colon (colonless : ':' ∉ name.toList) {rest : List Char}
    (stops : rest = [] ∨ ∃ more, rest = ':' :: more) :
    (name.toList ++ rest).takeWhile (· != ':') = name.toList
      ∧ (name.toList ++ rest).dropWhile (· != ':') = rest := by
  have passed : ∀ character ∈ name.toList, (character != ':') = true := by
    intro character listed
    exact bne_iff_ne.mpr fun colon => colonless (colon ▸ listed)
  rw [List.takeWhile_append_of_pos passed, List.dropWhile_append_of_pos passed]
  rcases stops with rfl | ⟨more, rfl⟩ <;> simp

/-- A user and a password in front of a host are written one behind the other. -/
theorem Url.user?_eq (colonless : ':' ∉ name.toList) (behind : '@' ∉ host) :
    user? (name.toList ++ ':' :: password.toList ++ '@' :: host) =
      if password ≠ "" then
        some (encode isUserEncoded name.toList ++ ":" ++ encode isUserEncoded password.toList)
      else if name ≠ "" then some (encode isUserEncoded name.toList)
      else none := by
  have passed : ∀ character ∈ host.reverse, (character != '@') = true := by
    intro character listed
    exact bne_iff_ne.mpr fun mark => behind (mark ▸ List.mem_reverse.mp listed)
  -- The last mark is the one in front of the host.
  have text : (((name.toList ++ ':' :: password.toList ++ '@' :: host).reverse.dropWhile
      (· != '@')).drop 1).reverse = name.toList ++ ':' :: password.toList := by
    rw [List.reverse_append, List.reverse_cons, List.append_assoc,
      List.dropWhile_append_of_pos passed]
    simp
  obtain ⟨before, after⟩ := divided_at_colon colonless (.inr ⟨password.toList, rfl⟩)
  unfold user?
  dsimp only
  rw [text, before, after]
  simp [isEmpty_encode]

namespace Web

/-- Nothing but the user of a URL is changed when its login is taken out. -/
theorem withoutLogin_eq (url : Url) :
    withoutLogin url = { url with user := (withoutLogin url).user } := by
  unfold withoutLogin
  split <;> rfl

/-- A user or a password without numbers is what it is written for. -/
theorem decoded?_encode (numberless : ¬ Url.HasNumber name.toList) :
    decoded? (Url.encode Url.isUserEncoded name.toList).toList = some name := by
  -- Characters that are written as numbers stand for the same bytes.
  rw [decoded?, Url.toList_encode,
    Url.decodeBytes_written (fun _ => Url.hexValue?_of_isUserEncoded) (by decide),
    Url.decodeBytes_eq numberless]
  exact congrArg Except.toOption (Text.Utf8.decode_encode name)

/-- Where nothing is written, nothing is said. -/
theorem decoded?_nil : decoded? [] = some "" := by
  have numberless : ¬ Url.HasNumber "".toList := by decide
  have written := decoded?_encode numberless
  rwa [Url.toList_encode] at written

/-- A URL without a user has no login. -/
theorem login?_of_userless {url : Url} (userless : url.user = none) : login? url = none := by
  simp [login?, userless, decoded?_nil]

/-- The user and the password that stand in front of the host of a URL are its login. -/
theorem login?_of_user {url : Url}
    (user : url.user = Url.user? (name.toList ++ ':' :: password.toList ++ '@' :: host))
    (colonless : ':' ∉ name.toList) (behind : '@' ∉ host)
    (nameless : ¬ Url.HasNumber name.toList) (numberless : ¬ Url.HasNumber password.toList)
    (given : name ≠ "" ∨ password ≠ "") : login? url = some (name, password) := by
  have unmarked : ':' ∉ (Url.encode Url.isUserEncoded name.toList).toList := by
    intro listed
    rcases Url.mem_of_mem_encode listed with percent | digit | plain
    · exact absurd percent (by decide)
    · exact absurd digit (by decide)
    · exact colonless plain
  have named := decoded?_encode nameless
  have shown := decoded?_encode numberless
  rw [Url.user?_eq colonless behind] at user
  by_cases without : password = ""
  · -- Without a password there is no colon, and nothing is read behind it.
    have present : name ≠ "" := given.resolve_right (not_not_intro without)
    rw [if_neg (not_not_intro without), if_pos present] at user
    obtain ⟨before, after⟩ := Url.divided_at_colon unmarked (.inl rfl)
    rw [List.append_nil] at before after
    simp [login?, user, before, after, named, decoded?_nil, present, without]
  · rw [if_pos without] at user
    obtain ⟨before, after⟩ := Url.divided_at_colon unmarked
      (.inr ⟨(Url.encode Url.isUserEncoded password.toList).toList, rfl⟩)
    have whole : (Url.encode Url.isUserEncoded name.toList ++ ":"
        ++ Url.encode Url.isUserEncoded password.toList).toList
        = (Url.encode Url.isUserEncoded name.toList).toList
          ++ ':' :: (Url.encode Url.isUserEncoded password.toList).toList := by simp
    simp [login?, user, whole, before, after, named, shown, without]

end Web

end Login

namespace Web

/-- A request can be made of a URL on behalf of a tenant. -/
structure Permits (url : Url) (tenant : Option String) : Prop where
  /-- The scheme is that of the web. -/
  web : url.scheme ∈ ["http", "https"]
  /-- There is a host. -/
  hosted : url.host.getD "" ≠ ""
  /-- No character of the host stands in the way of a request. -/
  named : ∀ character ∈ (url.host.getD "").toList, character ∉ ['"', '\x60', '\x7b', '\x7d']
  /-- No character of the tenant stands in the way of a header. -/
  legal : ∀ name ∈ tenant, ∀ character ∈ name.toList,
    character = '\t' ∨ 0x20 ≤ character.toNat ∧ character.toNat ≠ 0x7F

/-- What permits a request can be tested. -/
theorem permits_iff {url : Url} {tenant : Option String} :
    Permits url tenant ↔ url.hasHost = true ∧ tenant.all isHeaderValue = true
      ∧ url.scheme ∈ ["http", "https"] ∧ isRequestHost (url.host.getD "") = true := by
  have hosted : url.hasHost = true ↔ url.host.getD "" ≠ "" := by simp [Url.hasHost]
  have named : isRequestHost (url.host.getD "") = true ↔
      ∀ character ∈ (url.host.getD "").toList, character ∉ ['"', '\x60', '\x7b', '\x7d'] := by
    simp [isRequestHost]
  have legal : tenant.all isHeaderValue = true ↔
      ∀ name ∈ tenant, ∀ character ∈ name.toList,
        character = '\t' ∨ 0x20 ≤ character.toNat ∧ character.toNat ≠ 0x7F := by
    cases tenant <;> simp [isHeaderValue]
  rw [hosted, named, legal]
  exact ⟨fun permits => ⟨permits.hosted, permits.legal, permits.web, permits.named⟩,
    fun ⟨hosted, legal, web, named⟩ => ⟨web, hosted, named, legal⟩⟩

variable {text : String} {pairs : List (String × String)} {authorization tenant : Option String}

/-- A request is made of a text that writes a URL which permits it. -/
theorem request_eq_ok_iff {request : Request} :
    Web.request text pairs authorization tenant = .ok request ↔
      ∃ url : Url, Url.read? text = some url ∧ Permits url tenant
        ∧ request = {
          url := (withoutLogin url).withQuery pairs
          authorizations := (login? url).toList.map (fun login => basic login.1 login.2)
            ++ authorization.toList
          tenant } := by
  unfold Web.request
  cases read : Url.read? text with
  | none => simp
  | some url =>
    have scheme : ((withoutLogin url).withQuery pairs).scheme = url.scheme := by
      rw [Url.withQuery_eq, withoutLogin_eq]
    have host : ((withoutLogin url).withQuery pairs).host = url.host := by
      rw [Url.withQuery_eq, withoutLogin_eq]
    have reachable : (!(["http", "https"].contains url.scheme) || !isRequestHost (url.host.getD ""))
        = !decide (url.scheme ∈ ["http", "https"] ∧ isRequestHost (url.host.getD "") = true) := by
      simp [Bool.decide_and]
    simp only [permits_iff, scheme, host, reachable, Option.some.injEq, exists_eq_left',
      Bool.not_eq_true']
    -- Each check that fails leads to a wording in the place of a request.
    by_cases hosted : url.hasHost = true
    · by_cases legal : tenant.all isHeaderValue = true
      · by_cases reached : url.scheme ∈ ["http", "https"]
            ∧ isRequestHost (url.host.getD "") = true
        · rw [if_neg (by simp [hosted]), if_neg (by simp [legal]), if_neg (by simpa using reached)]
          simp only [hosted, legal, reached, true_and, Except.ok.injEq, eq_comm]
        · rw [if_neg (by simp [hosted]), if_neg (by simp [legal]), if_pos (by simpa using reached)]
          exact iff_of_false nofun fun ⟨⟨_, _, reach⟩, _⟩ => reached reach
      · rw [if_neg (by simp [hosted]), if_pos (by simpa using legal)]
        exact iff_of_false nofun fun ⟨⟨_, lawful, _⟩, _⟩ => legal lawful
    · rw [if_pos (by simpa using hosted)]
      exact iff_of_false nofun fun ⟨⟨named, _⟩, _⟩ => hosted named

end Web

end DatabaseLifecycle
