import DatabaseLifecycle.Proofs.ControlPlane.Answer
import DatabaseLifecycle.Proofs.Url.Join

/-!
Targets of lookups. An id or a name is spliced into a path as it is. It is asked for as one segment of
that path exactly if it has nothing in it that is read in another way, and then different things have
different targets.
-/

namespace DatabaseLifecycle

namespace Lookup

/-- The segment before the id or name. -/
def collection : Lookup → String
  | database _ | databaseNamed _ => "databases"
  | clone _ => "clones"
  | timeMachine _ | snapshots _ => "tms"

/-- The segments behind the id or name. -/
def aspect : Lookup → List String
  | database _ | databaseNamed _ | clone _ | timeMachine _ => []
  | snapshots _ => ["snapshots"]

/-- The query of a lookup. -/
def queryText (wanted : Lookup) : String :=
  "&".intercalate (wanted.query.map fun pair => pair.1 ++ "=" ++ pair.2)

/-- The id or name has nothing in it that is not read as part of a segment. -/
structure IsPlain (wanted : Lookup) : Prop where
  /-- It is no segment that is resolved. -/
  undotted : wanted.argument.toList ≠ ['.'] ∧ wanted.argument.toList ≠ ['.', '.']
  /-- It has no character that ends a segment or is left out. -/
  unmarked : ∀ character ∈ wanted.argument.toList,
    character ∉ ['/', '\\', '?', '#', '\t', '\n', '\r']
  /-- It has no number that stands for a byte. -/
  numberless : ¬ Url.HasNumber wanted.argument.toList
  /-- Nothing is cut from its end, if it is the end of the path. -/
  visible : wanted.aspect = [] →
    ∀ last ∈ wanted.argument.toList.getLast?, Url.isEdge last = false

/-- Whether an id or a name is plain can be computed. -/
instance (wanted : Lookup) : Decidable wanted.IsPlain :=
  decidable_of_iff
    ((wanted.argument.toList ≠ ['.'] ∧ wanted.argument.toList ≠ ['.', '.'])
      ∧ wanted.argument.toList.all
        (fun character => character ∉ ['/', '\\', '?', '#', '\t', '\n', '\r']) = true
      ∧ ¬ Url.HasNumber wanted.argument.toList
      ∧ (wanted.aspect = [] → wanted.argument.toList.getLast?.all (!Url.isEdge ·) = true)) <| by
    constructor
    · rintro ⟨undotted, unmarked, numberless, visible⟩
      exact ⟨undotted, by simpa using unmarked, numberless, by simpa [Option.all_eq_true] using visible⟩
    · rintro ⟨undotted, unmarked, numberless, visible⟩
      exact ⟨undotted, by simpa using unmarked, numberless, by simpa [Option.all_eq_true] using visible⟩

/-- A request asks for what is wanted in a folder: by one segment that stands for the id or name,
between the collection and the aspect, and with no other query than its own. -/
structure Names (wanted : Lookup) (folder : List String) (request : Web.Request) : Prop where
  /-- The segment lies in the folder's collection. -/
  path : ∃ segment, request.url.path
      = .segments (folder ++ [wanted.collection, segment] ++ wanted.aspect)
    ∧ '/' ∉ segment.toList
    ∧ Url.decodeBytes segment.toList = wanted.argument.toUTF8.data.toList
  /-- The query is that of the lookup. -/
  query : request.url.query = some wanted.queryText

/-- What is written behind the id or name. -/
def ending (wanted : Lookup) : List Char :=
  wanted.aspect.flatMap fun segment => '/' :: segment.toList

/-- What counts of the id or name when its path is read. -/
def seen (wanted : Lookup) : List Char :=
  if wanted.aspect = [] then Url.keptEnd wanted.argument.toList
  else wanted.argument.toList.filter Url.isKept

/-- What is read of the path behind the collection. -/
def tail (wanted : Lookup) : List Char × Option String × Option String :=
  Url.splitTail true (wanted.seen ++ wanted.ending)

variable (wanted : Lookup)

/-- There is one aspect at most. -/
theorem aspect_eq : (wanted.aspect = [] ∧ wanted.ending = [])
    ∨ wanted.aspect = ["snapshots"] ∧ wanted.ending = '/' :: "snapshots".toList := by
  cases wanted <;> simp [aspect, ending]

/-- The path of a lookup is what it is made of. -/
theorem toList_path : wanted.path.toList
    = wanted.collection.toList ++ '/' :: (wanted.argument.toList ++ wanted.ending) := by
  cases wanted <;> simp [path, collection, argument, ending, aspect]

/-- A text that is read as one segment and written as it is. -/
structure IsOrdinary (segment : String) : Prop where
  /-- There is something. -/
  nonempty : segment.toList ≠ []
  /-- It does not begin with a slash. -/
  begins : segment.toList.dropWhile (· == '/') = segment.toList
  /-- All of it counts. -/
  kept : segment.toList.filter Url.isKept = segment.toList
  /-- Nothing is cut from its end. -/
  visible : ∀ last ∈ segment.toList.getLast?, Url.isEdge last = false
  /-- It has no sign for a query or a fragment. -/
  plain : ∀ character ∈ segment.toList, character ≠ '#' ∧ character ≠ '?'
  /-- It is not divided. -/
  whole : ∀ character ∈ segment.toList, Url.isSlash true character = false
  /-- It is not resolved. -/
  undotted : Url.isDotted segment.toList = false
  /-- It has no number. -/
  numberless : ¬ Url.HasNumber segment.toList
  /-- It is written as it is. -/
  written : Url.encode Url.isPathEncoded segment.toList = segment

/-- The words in the paths of lookups are ordinary. -/
theorem isOrdinary_of_mem :
    ∀ segment ∈ ["databases", "clones", "tms", "snapshots"], IsOrdinary segment := by
  simp only [List.forall_mem_cons]
  refine ⟨?_, ?_, ?_, ?_, nofun⟩
  all_goals exact {
    nonempty := by decide
    begins := by decide +kernel
    kept := by decide +kernel
    visible := by simp [Url.isEdge]
    plain := by simp
    whole := by simp [Url.isSlash]
    undotted := by decide +kernel
    numberless := by decide +kernel
    written := by decide +kernel }

/-- The collections are ordinary. -/
theorem isOrdinary_collection : IsOrdinary wanted.collection :=
  isOrdinary_of_mem _ (by cases wanted <;> simp [collection])

/-- The aspects are ordinary. -/
theorem isOrdinary_aspect : ∀ segment ∈ wanted.aspect, IsOrdinary segment := by
  intro segment listed
  refine isOrdinary_of_mem segment ?_
  rcases wanted.aspect_eq with ⟨aspect, _⟩ | ⟨aspect, _⟩
  · simp [aspect] at listed
  · simp_all

/-- What is written behind an id or name counts as it is, and cuts nothing from it. -/
theorem keptEnd_argument :
    Url.keptEnd (wanted.argument.toList ++ wanted.ending) = wanted.seen ++ wanted.ending := by
  rcases wanted.aspect_eq with ⟨aspect, behind⟩ | ⟨aspect, behind⟩
  · simp [seen, aspect, behind]
  · -- Nothing before the slash of the aspect is at the end.
    have word := isOrdinary_of_mem "snapshots" (by simp)
    rw [behind, Url.keptEnd_slash, Url.keptEnd_of_visible word.visible, word.kept, seen,
      if_neg (by simp [aspect])]

/-- What counts of the path of a lookup. -/
theorem keptEnd_path : Url.keptEnd (wanted.path.toList.dropWhile (· == '/'))
    = wanted.collection.toList ++ '/' :: (wanted.seen ++ wanted.ending) := by
  have word := wanted.isOrdinary_collection
  rw [toList_path, List.dropWhile_append, word.begins,
    if_neg (by simpa using word.nonempty), Url.keptEnd_slash, word.kept, keptEnd_argument]

/-- What counts of an id or name is part of it, and all of that is kept. -/
theorem seen_sublist : wanted.seen.Sublist wanted.argument.toList
    ∧ ∀ character ∈ wanted.seen, Url.isKept character = true := by
  unfold seen
  split
  · exact Url.keptEnd_sublist _
  · exact ⟨List.filter_sublist, fun character listed => (List.mem_filter.mp listed).2⟩

/-- What is written behind an id or name has no sign for a query or a fragment. -/
theorem ending_plain : ∀ character ∈ wanted.ending, character ≠ '#' ∧ character ≠ '?' := by
  intro character listed
  obtain ⟨segment, known, listed⟩ := List.mem_flatMap.mp listed
  rcases List.mem_cons.mp listed with rfl | listed
  · decide
  · exact (wanted.isOrdinary_aspect segment known).plain character listed

/-- What is read before a slash and an aspect is divided alone. -/
theorem splitOnP_ending (text : List Char) :
    (text ++ wanted.ending).splitOnP (Url.isSlash true)
      = text.splitOnP (Url.isSlash true) ++ wanted.aspect.map String.toList := by
  rcases wanted.aspect_eq with ⟨aspect, behind⟩ | ⟨aspect, behind⟩
  · simp [aspect, behind]
  · have word := isOrdinary_of_mem "snapshots" (by simp)
    rw [behind, aspect, List.splitOnP_append_cons text _ (show Url.isSlash true '/' = true from rfl),
      List.splitOnP_eq_singleton word.whole]
    rfl

namespace IsPlain

variable {wanted}

/-- All of a plain id or name counts. -/
theorem seen_eq (plain : wanted.IsPlain) : wanted.seen = wanted.argument.toList := by
  have kept : wanted.argument.toList.filter Url.isKept = wanted.argument.toList := by
    rw [List.filter_eq_self]
    intro character listed
    have := plain.unmarked character listed
    simp_all [Url.isKept]
  unfold seen
  split
  case isTrue last =>
    rw [Url.keptEnd_of_visible (plain.visible last), kept]
  case isFalse => exact kept

/-- A plain id or name has no query and no fragment behind it. -/
theorem tail_eq (plain : wanted.IsPlain) :
    wanted.tail = (wanted.argument.toList ++ wanted.ending, none, none) := by
  rw [tail, plain.seen_eq]
  refine Url.splitTail_plain true fun character listed => ?_
  rcases List.mem_append.mp listed with inside | behind
  · have := plain.unmarked character inside
    simp_all
  · exact wanted.ending_plain character behind

/-- A plain id or name is one segment of its path. -/
theorem resolve_eq (plain : wanted.IsPlain) (done : List String) :
    Url.resolve done (wanted.tail.1.splitOnP (Url.isSlash true))
      = done.reverse ++ Url.encode Url.isPathEncoded wanted.argument.toList :: wanted.aspect := by
  have single : ∀ character ∈ wanted.argument.toList, Url.isSlash true character = false := by
    intro character listed
    have := plain.unmarked character listed
    simp_all [Url.isSlash]
  have undotted : ∀ segment ∈ wanted.argument.toList :: wanted.aspect.map String.toList,
      Url.isDotted segment = false := by
    rintro segment (_ | ⟨_, listed⟩)
    · exact (Url.isDotted_eq_false_iff plain.numberless).mpr plain.undotted
    · obtain ⟨word, known, rfl⟩ := List.mem_map.mp listed
      exact (wanted.isOrdinary_aspect word known).undotted
  -- The aspect needs no numbers to be written.
  have written : wanted.aspect.map (Url.encode Url.isPathEncoded ∘ String.toList) = wanted.aspect :=
    (List.map_congr_left fun word known => (wanted.isOrdinary_aspect word known).written).trans
      (List.map_id _)
  rw [plain.tail_eq, splitOnP_ending, List.splitOnP_eq_singleton single, List.singleton_append,
    Url.resolve_undotted done undotted, List.map_cons, List.map_map, written]

end IsPlain

/-- A piece of a path that stands for an id or name is part of what counts of that. -/
theorem sublist_seen {piece : List Char}
    (listed : piece ∈ wanted.tail.1.splitOnP (Url.isSlash true))
    (same : Url.decodeBytes piece = wanted.argument.toList.flatMap Text.Utf8.encodeChar) :
    piece.Sublist wanted.seen := by
  obtain ⟨begins, unsigned⟩ := Url.splitTail_prefix true (wanted.seen ++ wanted.ending)
  have within : piece.Sublist wanted.tail.1 := (Url.sublist_of_mem_splitOnP listed).1
  rcases List.prefix_or_prefix_of_prefix begins (List.prefix_append _ _) with short | long
  · exact within.trans short.sublist
  · -- Then there is neither a query nor a fragment, so the aspect is read as well.
    have whole : wanted.tail.1 = wanted.seen ++ wanted.ending := by
      rw [tail, Url.splitTail_plain]
      intro character listed
      rcases List.mem_append.mp listed with inside | behind
      · exact unsigned character (long.subset inside)
      · exact wanted.ending_plain character behind
    rw [whole, splitOnP_ending, List.mem_append] at listed
    rcases listed with inside | behind
    · exact (Url.sublist_of_mem_splitOnP inside).1
    · -- The aspect stands for the id or name only if that is the same word.
      obtain ⟨word, known, rfl⟩ := List.mem_map.mp behind
      have ordinary := wanted.isOrdinary_aspect word known
      rw [Url.decodeBytes_eq ordinary.numberless] at same
      have equal : word.toList = wanted.seen := by
        rw [seen, if_neg (List.ne_nil_of_mem known), ← Text.Utf8.eq_of_bytes same, ordinary.kept]
      exact equal ▸ List.Sublist.refl _

/-- Only a plain id or name is stood for by a segment between the collection and the aspect. -/
theorem isPlain_of_resolve {done : List String} {segment : String}
    (path : Url.resolve done (wanted.tail.1.splitOnP (Url.isSlash true))
      = done.reverse ++ segment :: wanted.aspect)
    (same : Url.decodeBytes segment.toList
      = wanted.argument.toList.flatMap Text.Utf8.encodeChar) : wanted.IsPlain := by
  have listed : segment ∈ (Url.resolve done (wanted.tail.1.splitOnP (Url.isSlash true))).drop
      done.length := by
    rw [path, List.drop_left' List.length_reverse]
    exact List.mem_cons_self
  -- It is new in the path, so it is empty or what a piece of the lookup's own path is written as.
  rcases Url.comesFrom_of_mem_drop listed with rfl | ⟨piece, found, undotted, rfl⟩
  · have empty : [] = wanted.argument.toList := Text.Utf8.eq_of_bytes same
    constructor <;> simp [← empty, Url.HasNumber]
  · rw [Url.decodeBytes_encode] at same
    have within := wanted.sublist_seen found same
    obtain ⟨part, counted⟩ := wanted.seen_sublist
    obtain ⟨rfl, numberless⟩ := Url.eq_of_decodeBytes (within.trans part) same
    -- A piece that is all of it leaves nothing that could have been read in another way.
    have all : wanted.seen = wanted.argument.toList := part.eq_of_length_le within.length_le
    obtain ⟨inside, single⟩ := Url.sublist_of_mem_splitOnP found
    have unsigned := (Url.splitTail_prefix true (wanted.seen ++ wanted.ending)).2
    exact {
      undotted := (Url.isDotted_eq_false_iff numberless).mp undotted
      unmarked := by
        intro character listed
        have kept := counted character (all ▸ listed)
        have sign := unsigned character (inside.subset listed)
        have slash := single character listed
        simp_all [Url.isKept, Url.isSlash]
      numberless
      visible := by
        intro last
        rw [seen, if_pos last] at all
        exact Url.visible_of_keptEnd all }

/-- The URL that is read for a lookup in a folder of a base. -/
def url (wanted : Lookup) (base : Url) (folder : List String) : Url :=
  { base with
    path := .segments (Url.resolve (wanted.collection :: folder.reverse)
      (wanted.tail.1.splitOnP (Url.isSlash true)))
    query := wanted.tail.2.1
    fragment := wanted.tail.2.2 }

/-- The login is taken out of the URL of a lookup as out of the base. -/
theorem withoutLogin_url (base : Url) (folder : List String) :
    Web.withoutLogin (wanted.url base folder) = wanted.url (Web.withoutLogin base) folder := by
  have same : Web.login? (wanted.url base folder) = Web.login? base := rfl
  rw [Web.withoutLogin, Web.withoutLogin, same]
  split <;> rfl

/-- The URL of every lookup is read in the same folder, which is the path of the endpoint but for slashes
at its end. -/
theorem read?_path {endpoint : String} {base : Url} (read : Url.read? endpoint = some base)
    (web : base.scheme ∈ ["http", "https"]) (queryless : base.query = none)
    (unmarked : base.fragment = none)
    (visible : ∀ last ∈ endpoint.toList.getLast?, Url.isEdge last = false) :
    ∃ folder : List String,
      (∃ empties, base.path = .segments (folder ++ List.replicate empties ""))
        ∧ ∀ wanted : Lookup,
          Url.read? (Url.join endpoint wanted.path) = some (wanted.url base folder) := by
  obtain ⟨pieces, empties, path, joined⟩ := Url.read?_join read web queryless unmarked visible
  refine ⟨(pieces.foldl Url.climbed []).reverse, ⟨empties, path⟩, fun wanted => ?_⟩
  have word := wanted.isOrdinary_collection
  have slash : Url.isSlash true '/' = true := rfl
  have nonempty := List.splitOnP_ne_nil (Url.isSlash true) wanted.tail.1
  -- The collection comes before all signs, so it is done when the rest is resolved.
  have divided : Url.splitTail true (wanted.collection.toList ++ '/' :: (wanted.seen ++ wanted.ending))
      = (wanted.collection.toList ++ '/' :: wanted.tail.1, wanted.tail.2) := by
    rw [Url.splitTail_append word.plain, Url.splitTail_slash]
    rfl
  rw [joined, keptEnd_path, divided]
  dsimp only
  rw [List.splitOnP_append_cons_of_forall_mem word.whole '/' slash,
    Url.resolve_append [] pieces (List.cons_ne_nil _ _), Url.resolve_cons _ _ nonempty,
    Url.climbed_undotted _ word.undotted, word.written, url, List.reverse_reverse]

/-- A request of the URL that is read for a lookup asks for what is wanted exactly if the id or name is
plain. -/
theorem names_iff_isPlain {base : Url} {folder : List String} {request : Web.Request}
    (asked : request.url = (wanted.url base folder).withQuery wanted.query) :
    wanted.Names folder request ↔ wanted.IsPlain := by
  have path : request.url.path = (wanted.url base folder).path := by
    rw [asked, Url.withQuery_eq]
  constructor
  · rintro ⟨⟨segment, named, _, bytes⟩, _⟩
    rw [← Text.Utf8.encode_eq] at bytes
    have segments : Url.resolve (wanted.collection :: folder.reverse)
          (wanted.tail.1.splitOnP (Url.isSlash true))
        = (wanted.collection :: folder.reverse).reverse ++ segment :: wanted.aspect := by
      rw [UrlPath.segments.inj (path.symm.trans named)]
      simp
    exact wanted.isPlain_of_resolve segments bytes
  · intro plain
    refine ⟨⟨Url.encode Url.isPathEncoded wanted.argument.toList, ?_, ?_, ?_⟩, ?_⟩
    · rw [path, url, plain.resolve_eq]
      simp
    · intro listed
      have slash : Json.hexValue? '/' = none := by decide
      rcases Url.mem_of_mem_encode listed with percent | digit | inside
      · exact absurd percent (by decide)
      · simp [slash] at digit
      · exact plain.unmarked '/' inside (by decide)
    · rw [Url.decodeBytes_encode, Url.decodeBytes_eq plain.numberless, ← Text.Utf8.encode_eq]
      rfl
    · have pairs : wanted.query.isEmpty = false := by cases wanted <;> rfl
      have none : (wanted.url base folder).query = none := by rw [url, plain.tail_eq]
      rw [asked, Url.withQuery, pairs, none]
      rfl

section Targets

variable {wanted} {other : Lookup} {folder : List String} {request sent : Web.Request}

/-- Lookups of one operation differ in the id or name alone. -/
theorem same_of_operation (operation : other.operation = wanted.operation) :
    other.collection = wanted.collection ∧ other.aspect = wanted.aspect
      ∧ other.queryText = wanted.queryText := by
  revert operation
  cases wanted <;> cases other <;> simp [Lookup.operation, collection, aspect, queryText, query]

/-- Two requests of one operation that ask for what is wanted in a folder have the same target only if
the same is wanted. -/
theorem argument_eq_of_target (operation : other.operation = wanted.operation)
    (named : wanted.Names folder request) (alike : other.Names folder sent)
    (same : sent.target = request.target) : other.argument = wanted.argument := by
  obtain ⟨collection, aspect, queryText⟩ := same_of_operation operation
  obtain ⟨⟨segment, path, _, bytes⟩, query⟩ := named
  obtain ⟨⟨second, secondPath, _, secondBytes⟩, secondQuery⟩ := alike
  -- The targets agree before and behind the segments.
  have equal : second = segment := by
    rw [Web.Request.target, Web.Request.target, path, query, secondPath, secondQuery, collection,
      aspect, queryText, ← String.toList_inj] at same
    simpa [Url.UrlPath.write, String.toList_inj] using same
  rw [equal, bytes, ← Text.Utf8.encode_eq, ← Text.Utf8.encode_eq] at secondBytes
  exact (String.toList_inj.mp (Text.Utf8.eq_of_bytes secondBytes)).symm

end Targets

end Lookup

namespace ControlPlane

variable {credentials : Credentials} {base : Url}

/-- Under an endpoint of the web that is written without a query, a fragment and blanks at its end, all
lookups can be asked for or none, on the endpoint's host and in a folder that is its path but for
slashes at the end. The request for an id or name asks for that as one segment, with the query of the
operation, exactly if the id or name is plain; and the requests of one operation for different ids or
names that are plain have different targets. -/
theorem request_names_iff_plain (read : Url.read? credentials.endpoint = some base)
    (web : base.scheme ∈ ["http", "https"]) (queryless : base.query = none)
    (unmarked : base.fragment = none)
    (visible : ∀ last ∈ credentials.endpoint.toList.getLast?, Url.isEdge last = false) :
    ∃ folder : List String,
      (∃ empties, base.path = .segments (folder ++ List.replicate empties ""))
      ∧ ∀ wanted : Lookup,
        ((∃ request, ControlPlane.request credentials wanted = .ok request) ↔
          base.hasHost = true ∧ credentials.tenant.all Web.isHeaderValue = true
            ∧ Web.isRequestHost (base.host.getD "") = true)
        ∧ ∀ request, ControlPlane.request credentials wanted = .ok request →
          (request.url.scheme = base.scheme ∧ request.url.host = base.host
            ∧ request.url.port = base.port)
          ∧ (wanted.Names folder request ↔ wanted.IsPlain)
          ∧ ∀ other sent, other.operation = wanted.operation →
            ControlPlane.request credentials other = .ok sent → wanted.IsPlain → other.IsPlain →
            other.argument ≠ wanted.argument → sent.target ≠ request.target := by
  obtain ⟨folder, path, joined⟩ := Lookup.read?_path read web queryless unmarked visible
  have made_iff (wanted : Lookup) (request : Web.Request) :
      ControlPlane.request credentials wanted = .ok request ↔
        base.hasHost = true ∧ credentials.tenant.all Web.isHeaderValue = true
          ∧ Web.isRequestHost (base.host.getD "") = true
          ∧ request = {
            url := (wanted.url (Web.withoutLogin base) folder).withQuery wanted.query
            authorizations := (Web.login? base).toList.map (fun login => Web.basic login.1 login.2)
              ++ [authorization credentials]
            tenant := credentials.tenant } := by
    have permits : Web.Permits (wanted.url base folder) credentials.tenant ↔
        base.hasHost = true ∧ credentials.tenant.all Web.isHeaderValue = true
          ∧ Web.isRequestHost (base.host.getD "") = true := by
      rw [Web.permits_iff]
      exact and_congr_right fun _ => and_congr_right fun _ => and_iff_right web
    simp only [request_eq_ok_iff, joined wanted, Option.some.injEq, exists_eq_left', permits,
      wanted.withoutLogin_url, and_assoc]
    rfl
  refine ⟨folder, path, fun wanted => ⟨?_, fun request made => ?_⟩⟩
  · simp only [made_iff, exists_and_left, exists_eq, and_true]
  · obtain ⟨_, _, _, rfl⟩ := (made_iff wanted request).mp made
    refine ⟨?_, wanted.names_iff_isPlain rfl, ?_⟩
    · rw [Url.withQuery_eq, Web.withoutLogin_eq]
      exact ⟨rfl, rfl, rfl⟩
    · intro other sent operation alike plain plainly different same
      obtain ⟨_, _, _, rfl⟩ := (made_iff other sent).mp alike
      exact different (Lookup.argument_eq_of_target operation
        ((wanted.names_iff_isPlain rfl).mpr plain) ((other.names_iff_isPlain rfl).mpr plainly) same)

/-- Credentials for a control plane under a path of its host. -/
def folderCredentials : Credentials :=
  { endpoint := "http://cp.local/api", username := "admin", password := "pw" }

/-- The endpoint of the credentials is a folder of its host. -/
theorem read?_folderCredentials : Url.read? folderCredentials.endpoint
    = some { scheme := "http", host := some "cp.local", path := .segments ["api"] } := by
  decide +kernel

/-- A plain name is asked for in the folder of the endpoint. -/
theorem request_names_orders :
    ∃ request, ControlPlane.request folderCredentials (.databaseNamed "orders") = .ok request
      ∧ (Lookup.databaseNamed "orders").Names ["api"] request := by
  obtain ⟨folder, ⟨empties, path⟩, lookups⟩ := request_names_iff_plain read?_folderCredentials
    (by decide) rfl rfl (by simp [folderCredentials, Url.isEdge])
  obtain ⟨makes, asks⟩ := lookups (.databaseNamed "orders")
  obtain ⟨request, made⟩ := makes.mpr (by decide +kernel)
  -- The last segment of the folder is not empty.
  have same : folder = ["api"] := by
    have segments := UrlPath.segments.inj path
    cases empties with
    | zero => simpa using segments.symm
    | succ count =>
      have last := congrArg List.getLast? segments
      simp [List.replicate_succ'] at last
  rw [same] at asks
  exact ⟨request, made, (asks request made).2.1.mpr (by decide +kernel)⟩

/-- A name with a slash is asked for by two segments, which do not name it, and what follows a number sign
in a name is not asked for, so that it has the target of another name. -/
theorem request_misses_team_orders :
    ∃ divided cut whole : Web.Request,
      ControlPlane.request folderCredentials (.databaseNamed "team/orders") = .ok divided
      ∧ divided.url.path = .segments ["api", "databases", "team", "orders"]
      ∧ ¬ (Lookup.databaseNamed "team/orders").Names ["api"] divided
      ∧ ControlPlane.request folderCredentials (.databaseNamed "orders#1") = .ok cut
      ∧ ControlPlane.request folderCredentials (.databaseNamed "orders") = .ok whole
      ∧ cut.target = whole.target := by
  have made (wanted : Lookup) (path : UrlPath) (fragment : Option String)
      (read : Url.read? (Url.join folderCredentials.endpoint wanted.path)
        = some { scheme := "http", host := some "cp.local", path, fragment }) :
      ControlPlane.request folderCredentials wanted = .ok {
        url := Url.withQuery { scheme := "http", host := some "cp.local", path, fragment } wanted.query
        authorizations := [authorization folderCredentials] } := by
    have permits : Web.Permits { scheme := "http", host := some "cp.local", path, fragment } none :=
      Web.permits_iff.mpr ⟨rfl, rfl, List.mem_cons_self,
        show Web.isRequestHost "cp.local" = true by decide +kernel⟩
    have userless : Web.login? { scheme := "http", host := some "cp.local", path, fragment } = none :=
      Web.login?_of_userless rfl
    refine request_eq_ok_iff.mpr ⟨_, read, permits, ?_⟩
    rw [Web.withoutLogin, userless]
    rfl
  refine ⟨_, _, _,
    made (.databaseNamed "team/orders") (.segments ["api", "databases", "team", "orders"]) none
      (by decide +kernel), rfl, ?_,
    made (.databaseNamed "orders#1") (.segments ["api", "databases", "orders"]) (some "1")
      (by decide +kernel),
    made (.databaseNamed "orders") (.segments ["api", "databases", "orders"]) none
      (by decide +kernel), rfl⟩
  rintro ⟨⟨segment, path, _⟩, _⟩
  simpa [Lookup.aspect] using UrlPath.segments.inj path

end ControlPlane

end DatabaseLifecycle
