import DatabaseLifecycle.Proofs.Url.Path
import DatabaseLifecycle.Proofs.Url.Slashes

/-!
Reading what was joined: a URL of the web without a query keeps its scheme, its user, its host, its port
and the segments of its path when a path is joined to it, and the rest is read off that path.
-/

namespace DatabaseLifecycle.Url

/-- Whether a character is cut from the ends of a text that is read. -/
def isEdge (character : Char) : Bool := character.toNat ≤ 0x20

/-- Whether a character counts inside a text that is read. -/
def isKept (character : Char) : Bool := !(['\t', '\n', '\r'].contains character)

/-- What counts of the end of a text that is read. -/
def keptEnd (text : List Char) : List Char :=
  (text.reverse.dropWhile isEdge).reverse.filter isKept

/-- What counts of a text is what counts of its end without the edge characters at its start. -/
theorem significant_eq (text : String) :
    significant text = keptEnd (text.toList.dropWhile isEdge) := rfl

section Stops

variable {α : Type} {p : α → Bool} {rest : List α}

/-- A text that does not go on with what is taken is taken from in the same way. -/
theorem takeWhile_append_stop (text : List α)
    (stops : ∀ first, rest.head? = some first → p first = false) :
    (text ++ rest).takeWhile p = text.takeWhile p := by
  induction text with
  | nil =>
    cases rest with
    | nil => rfl
    | cons first rest => simp [stops first rfl]
  | cons first text same => simp [List.takeWhile_cons, same]

/-- A text that does not go on with what is dropped keeps all that follows it. -/
theorem dropWhile_append_stop (text : List α)
    (stops : ∀ first, rest.head? = some first → p first = false) :
    (text ++ rest).dropWhile p = text.dropWhile p ++ rest := by
  induction text with
  | nil =>
    cases rest with
    | nil => rfl
    | cons first rest => simp [stops first rfl]
  | cons first text same =>
    rw [List.cons_append, List.dropWhile_cons, List.dropWhile_cons, same]
    split <;> rfl

/-- All of a text is taken where nothing of it is left to be dropped. -/
theorem takeWhile_eq_of_dropWhile {text : List α} (dropped : text.dropWhile p = []) :
    text.takeWhile p = text := by
  have divided := List.takeWhile_append_dropWhile (p := p) (l := text)
  rwa [dropped, List.append_nil] at divided

end Stops

/-- A text that goes on with a path, or with nothing: if it is not empty, it begins with a slash. -/
def IsRooted (text : List Char) : Prop := ∀ first, text.head? = some first → first = '/'

/-- What begins with a slash is rooted. -/
theorem isRooted_slash (rest : List Char) : IsRooted ('/' :: rest) := by
  rintro first ⟨⟩
  rfl

/-- Slashes in a row are rooted. -/
theorem isRooted_slashes (count : Nat) : IsRooted (List.replicate count '/') :=
  fun _ found => List.eq_of_mem_replicate (List.mem_of_head? found)

/-- What stops at a slash stops at a rooted text. -/
theorem IsRooted.stops {p : Char → Bool} {text : List Char} (rooted : IsRooted text)
    (slash : p '/' = false) : ∀ first, text.head? = some first → p first = false := by
  intro first found
  rw [rooted first found, slash]

/-- Of a text that goes on behind a slash only what follows that is cut at its end. -/
theorem keptEnd_slash (text rest : List Char) :
    keptEnd (text ++ '/' :: rest) = text.filter isKept ++ '/' :: keptEnd rest := by
  have slash : isKept '/' = true := by decide
  have cut : (text ++ '/' :: rest).reverse.dropWhile isEdge
      = rest.reverse.dropWhile isEdge ++ '/' :: text.reverse := by
    rw [List.reverse_append, List.reverse_cons, List.append_assoc, List.singleton_append,
      dropWhile_append_stop _ ((isRooted_slash _).stops rfl)]
  rw [keptEnd, cut]
  simp [keptEnd, slash]

/-- Nothing is cut from a text that ends with a visible character. -/
theorem keptEnd_of_visible {text : List Char}
    (visible : ∀ last, text.getLast? = some last → isEdge last = false) :
    keptEnd text = text.filter isKept := by
  have stops : ∀ first, text.reverse.head? = some first → isEdge first = false := by
    rwa [List.head?_reverse]
  have whole := dropWhile_append_stop [] stops
  rw [List.nil_append, List.dropWhile_nil, List.nil_append] at whole
  rw [keptEnd, whole, List.reverse_reverse]

/-- What counts of an end is part of it, and all of that is kept. -/
theorem keptEnd_sublist (text : List Char) :
    (keptEnd text).Sublist text ∧ ∀ character ∈ keptEnd text, isKept character = true := by
  have ends : (text.reverse.dropWhile isEdge).reverse.Sublist text := by
    rw [← List.reverse_sublist, List.reverse_reverse]
    exact (List.dropWhile_suffix isEdge).sublist
  exact ⟨List.filter_sublist.trans ends, fun character listed => (List.mem_filter.mp listed).2⟩

/-- An end of which all counts ends with a visible character. -/
theorem visible_of_keptEnd {text : List Char} (whole : keptEnd text = text) :
    ∀ last, text.getLast? = some last → isEdge last = false := by
  intro last found
  have dropped := List.dropWhile_suffix (l := text.reverse) isEdge
  have uncut : text.reverse.dropWhile isEdge = text.reverse := by
    refine dropped.eq_of_length (Nat.le_antisymm dropped.length_le ?_)
    have kept := congrArg List.length whole
    have bound := List.length_filter_le isKept (text.reverse.dropWhile isEdge).reverse
    rw [keptEnd] at kept
    rw [List.length_reverse] at bound ⊢
    omega
  have stopped := List.head?_dropWhile_not isEdge text.reverse
  rw [uncut, List.head?_reverse, found] at stopped
  simpa using stopped

/-- What counts of a base that a path is joined to. -/
def joinedBase (base : String) : List Char :=
  ((base.toList.reverse.dropWhile (· == '/')).reverse.dropWhile isEdge).filter isKept

/-- What counts of a joined text is the base, a slash and what counts of the end of the path. -/
theorem significant_join (base path : String) :
    significant (join base path)
      = joinedBase base ++ '/' :: keptEnd (path.toList.dropWhile (· == '/')) := by
  rw [significant_eq, join, String.toList_ofList,
    dropWhile_append_stop _ ((isRooted_slash _).stops rfl), keptEnd_slash, joinedBase]

/-- What counts of a text that ends with a visible character is the base for a path, and slashes. -/
theorem significant_eq_joinedBase {base : String}
    (visible : ∀ last, base.toList.getLast? = some last → isEdge last = false) :
    ∃ count, significant base = joinedBase base ++ List.replicate count '/' := by
  obtain ⟨count, rest, bare, reversed⟩ := exists_replicate_append base.toList.reverse
  have divided : base.toList
      = (base.toList.reverse.dropWhile (· == '/')).reverse ++ List.replicate count '/' := by
    rw [reversed, dropWhile_slashes bare]
    simpa using congrArg List.reverse reversed
  refine ⟨count, ?_⟩
  have slash : isKept '/' = true := by decide
  have cut : base.toList.dropWhile isEdge
      = (base.toList.reverse.dropWhile (· == '/')).reverse.dropWhile isEdge
        ++ List.replicate count '/' := by
    rw [← dropWhile_append_stop _ ((isRooted_slashes count).stops rfl), ← divided]
  -- What is left without the edge characters at the start ends with the same character.
  have same : ∀ last, (base.toList.dropWhile isEdge).getLast? = some last →
      isEdge last = false := by
    intro last found
    refine visible last ?_
    rw [← List.takeWhile_append_dropWhile (p := isEdge) (l := base.toList), List.getLast?_append,
      found]
    rfl
  rw [significant_eq, keptEnd_of_visible same, cut, List.filter_append, List.filter_replicate,
    if_pos slash, joinedBase]

/-- A scheme is read off a text that goes on with a slash as off that text alone. -/
theorem splitScheme?_append (text : List Char) {rest : List Char}
    (rooted : IsRooted rest) :
    splitScheme? (text ++ rest)
      = (splitScheme? text).map fun split => (split.1, split.2 ++ rest) := by
  have stops := rooted.stops (show isSchemeChar '/' = false by decide)
  unfold splitScheme?
  dsimp only
  rw [takeWhile_append_stop text stops, dropWhile_append_stop text stops]
  cases text.takeWhile isSchemeChar with
  | nil => rfl
  | cons letter letters =>
    cases text.dropWhile isSchemeChar with
    | nil =>
      -- A slash is no colon, so there is no scheme.
      cases rest with
      | nil => rfl
      | cons first rest => rw [rooted first rfl]; rfl
    | cons first after =>
      rw [List.cons_append]
      by_cases colon : first = ':'
      · subst colon
        cases alpha : letter.isAlpha <;> simp [alpha]
      · simp [colon]

/-- A text without a query and a fragment has those of what it goes on with. -/
theorem splitTail_append {special : Bool} {text : List Char}
    (plain : ∀ character ∈ text, character ≠ '#' ∧ character ≠ '?') (rest : List Char) :
    splitTail special (text ++ rest)
      = (text ++ (splitTail special rest).1, (splitTail special rest).2) := by
  have marked : ∀ character ∈ text, (character != '#') = true := by
    intro character listed
    simpa using (plain character listed).1
  have queried : ∀ character ∈ text, (character != '?') = true := by
    intro character listed
    simpa using (plain character listed).2
  unfold splitTail
  dsimp only
  rw [List.takeWhile_append_of_pos marked, List.dropWhile_append_of_pos marked,
    List.takeWhile_append_of_pos queried, List.dropWhile_append_of_pos queried]

/-- What comes before a query and a fragment is at the start of the text and has no sign for one. -/
theorem splitTail_prefix (special : Bool) (text : List Char) :
    (splitTail special text).1 <+: text
      ∧ ∀ character ∈ (splitTail special text).1, character ≠ '#' ∧ character ≠ '?' := by
  have asked := List.all_eq_true.mp
    (List.all_takeWhile (p := (· != '?')) (l := text.takeWhile (· != '#')))
  have marked := List.all_eq_true.mp (List.all_takeWhile (p := (· != '#')) (l := text))
  have inside := List.takeWhile_prefix (l := text.takeWhile (· != '#')) (· != '?')
  refine ⟨inside.trans (List.takeWhile_prefix _), fun character listed => ?_⟩
  exact ⟨by simpa using marked character (inside.subset listed), by simpa using asked character listed⟩

/-- Where a text has neither a query nor a fragment, it has no sign for one. -/
theorem plain_of_splitTail {special : Bool} {text : List Char}
    (queryless : (splitTail special text).2.1 = none)
    (unmarked : (splitTail special text).2.2 = none) :
    ∀ character ∈ text, character ≠ '#' ∧ character ≠ '?' := by
  unfold splitTail at queryless unmarked
  dsimp only at queryless unmarked
  have whole : text.dropWhile (· != '#') = [] := by
    cases left : text.dropWhile (· != '#') with
    | nil => rfl
    | cons first rest => rw [left] at unmarked; cases unmarked
  rw [takeWhile_eq_of_dropWhile whole] at queryless
  have unasked : text.dropWhile (· != '?') = [] := by
    cases left : text.dropWhile (· != '?') with
    | nil => rfl
    | cons first rest => rw [left] at queryless; cases queryless
  have unmarked := List.all_takeWhile (p := (· != '#')) (l := text)
  have unqueried := List.all_takeWhile (p := (· != '?')) (l := text)
  rw [takeWhile_eq_of_dropWhile whole, List.all_eq_true] at unmarked
  rw [takeWhile_eq_of_dropWhile unasked, List.all_eq_true] at unqueried
  intro character listed
  exact ⟨by simpa using unmarked character listed, by simpa using unqueried character listed⟩

/-- The user, the host and the port of what begins with an authority, where the scheme is a well-known
one. -/
def readPlace? (scheme : String) (text : List Char) :
    Option (Option String × String × Option Nat) := do
  let authority := text.takeWhile (!isSlash true ·)
  let (hostText, portText) := splitPort (withoutUser authority)
  let host ← specialHost? hostText
  let port ← readPort? scheme portText
  return (user? authority, host, port)

/-- No host is read off nothing. -/
theorem readPlace?_nil (scheme : String) : readPlace? scheme [] = none := by
  have nameless : specialHost? [] = none := by decide +kernel
  simp [readPlace?, withoutUser, splitPort, nameless]

/-- A URL of a well-known scheme has its place, its path and its tail read one by one. -/
theorem readAuthority?_eq {scheme : String} (special : isSpecial scheme = true) (text : List Char) :
    readAuthority? scheme text =
      let (place, query, fragment) := splitTail true text
      (readPlace? scheme place).map fun read => {
        scheme, user := read.1, host := some read.2.1, port := read.2.2
        path := .segments (pathSegments true (place.dropWhile (!isSlash true ·))), query
        fragment } := by
  unfold readAuthority? readPlace?
  simp only [special, if_true]
  generalize splitTail true text = tail
  obtain ⟨place, query, fragment⟩ := tail
  dsimp only
  generalize splitPort _ = ports
  obtain ⟨hostText, portText⟩ := ports
  dsimp only
  cases specialHost? hostText with
  | none => rfl
  | some host => cases readPort? scheme portText <;> rfl

/-- The schemes of the web are well known. -/
theorem isSpecial_of_web {scheme : String} (web : scheme ∈ ["http", "https"]) :
    isSpecial scheme = true ∧ scheme ≠ "file" := by
  simp only [List.mem_cons, List.not_mem_nil, or_false] at web
  rcases web with rfl | rfl <;> decide

/-- A URL that is read off an authority has the given scheme. -/
theorem scheme_of_readAuthority? {scheme : String} {text : List Char} {url : Url}
    (read : readAuthority? scheme text = some url) : url.scheme = scheme := by
  simp only [readAuthority?, Option.bind_eq_bind, Option.pure_def] at read
  -- Whichever way the host is read, the scheme is the given one.
  split at read
  all_goals
    simp only [Option.bind_eq_some_iff, Option.some.injEq] at read
    obtain ⟨_, _, _, _, rfl⟩ := read
    rfl

/-- A URL of a file has the scheme of files. -/
theorem scheme_of_readFile? {text : List Char} {url : Url} (read : readFile? text = some url) :
    url.scheme = "file" := by
  simp only [readFile?, Option.bind_eq_bind, Option.pure_def] at read
  generalize splitTail true text = tail at read
  split at read
  all_goals
    split at read
    all_goals
      simp only [Option.bind_eq_some_iff, Option.some.injEq] at read
      obtain ⟨_, _, rfl⟩ := read
      rfl

/-- The scheme of a URL is the one that its text begins with. -/
theorem splitScheme?_of_read? {text : String} {url : Url} (read : read? text = some url) :
    ∃ rest, splitScheme? (significant text) = some (url.scheme, rest) := by
  unfold read? at read
  cases split : splitScheme? (significant text) with
  | none => rw [split] at read; cases read
  | some found =>
    obtain ⟨scheme, rest⟩ := found
    simp only [split, Option.bind_eq_bind, Option.bind_some] at read
    refine ⟨rest, ?_⟩
    suffices same : url.scheme = scheme by rw [same]
    split at read
    · rename_i file
      rw [scheme_of_readFile? read, beq_iff_eq.mp file]
    · split at read
      · exact scheme_of_readAuthority? read
      · split at read
        · exact scheme_of_readAuthority? read
        · cases read
          rfl

/-- A URL of the web is read off its authority. -/
theorem read?_eq_some_iff {text : String} {url : Url} (web : url.scheme ∈ ["http", "https"]) :
    read? text = some url ↔ ∃ rest, splitScheme? (significant text) = some (url.scheme, rest)
      ∧ readAuthority? url.scheme (rest.dropWhile (isSlash true)) = some url := by
  obtain ⟨special, remote⟩ := isSpecial_of_web web
  have opened {rest : List Char} (split : splitScheme? (significant text) = some (url.scheme, rest)) :
      read? text = readAuthority? url.scheme (rest.dropWhile (isSlash true)) := by
    simp [read?, split, special, remote]
  constructor
  · intro read
    obtain ⟨rest, split⟩ := splitScheme?_of_read? read
    exact ⟨rest, split, (opened split).symm.trans read⟩
  · rintro ⟨rest, split, read⟩
    exact (opened split).trans read

/-- A text without signs for a query and a fragment has neither. -/
theorem splitTail_plain (special : Bool) {text : List Char}
    (plain : ∀ character ∈ text, character ≠ '#' ∧ character ≠ '?') :
    splitTail special text = (text, none, none) := by
  have whole : splitTail special (text ++ []) = (text ++ [], none, none) := splitTail_append plain []
  rwa [List.append_nil] at whole

/-- A slash belongs to what comes before a query and a fragment. -/
theorem splitTail_slash (special : Bool) (rest : List Char) :
    splitTail special ('/' :: rest)
      = ('/' :: (splitTail special rest).1, (splitTail special rest).2) := by
  have plain : ∀ character ∈ ['/'], character ≠ '#' ∧ character ≠ '?' := by simp
  exact splitTail_append plain rest

section Append

variable {scheme : String} {text rest : List Char}

/-- A place is read off what comes before the first slash. -/
theorem readPlace?_append (rooted : IsRooted rest) :
    readPlace? scheme (text ++ rest) = readPlace? scheme text := by
  rw [readPlace?, readPlace?, takeWhile_append_stop text (rooted.stops rfl)]

/-- An authority that goes on with a slash is read alone, and its path goes on behind it. -/
theorem readAuthority?_append (special : isSpecial scheme = true)
    (plain : ∀ character ∈ text, character ≠ '#' ∧ character ≠ '?')
    (rooted : IsRooted rest) :
    readAuthority? scheme (text ++ rest) =
      (readPlace? scheme text).map fun read => {
        scheme, user := read.1, host := some read.2.1, port := read.2.2
        path := .segments (pathSegments true
          (text.dropWhile (!isSlash true ·) ++ (splitTail true rest).1))
        query := (splitTail true rest).2.1, fragment := (splitTail true rest).2.2 } := by
  -- A slash stays before the query and the fragment.
  have begins : IsRooted (splitTail true rest).1 := by
    cases rest with
    | nil => rintro first ⟨⟩
    | cons first rest =>
      rw [rooted first rfl, splitTail_slash]
      exact isRooted_slash _
  rw [readAuthority?_eq special, splitTail_append plain]
  dsimp only
  rw [readPlace?_append begins, dropWhile_append_stop text (begins.stops rfl)]

end Append

/-- Slashes come before any query and fragment. -/
theorem splitTail_slashes (special : Bool) (count : Nat) :
    splitTail special (List.replicate count '/') = (List.replicate count '/', none, none) := by
  refine splitTail_plain special fun character listed => ?_
  rw [List.eq_of_mem_replicate listed]
  decide

/-- What follows an authority is empty or begins with a slash. -/
theorem isSlash_of_dropWhile (text : List Char) :
    ∀ first, (text.dropWhile (!isSlash true ·)).head? = some first → isSlash true first = true := by
  intro first found
  have stopped := List.head?_dropWhile_not (!isSlash true ·) text
  rw [found] at stopped
  simpa using stopped

section Joined

variable {endpoint : String} {base : Url}

/-- A URL of the web and what is joined to it are read off authorities that differ only behind the
slashes at the end of the URL. -/
theorem readAuthority?_of_read? (read : read? endpoint = some base)
    (web : base.scheme ∈ ["http", "https"])
    (visible : ∀ last, endpoint.toList.getLast? = some last → isEdge last = false) :
    ∃ (text : List Char) (count : Nat),
      readAuthority? base.scheme (text ++ List.replicate count '/') = some base
        ∧ ∀ (path : String) (url : Url), url.scheme = base.scheme →
          readAuthority? base.scheme (text ++ '/' :: keptEnd (path.toList.dropWhile (· == '/')))
            = some url →
          read? (join endpoint path) = some url := by
  obtain ⟨special, _⟩ := isSpecial_of_web web
  obtain ⟨count, ends⟩ := significant_eq_joinedBase visible
  obtain ⟨_, split, authority⟩ := (read?_eq_some_iff web).mp read
  rw [ends, splitScheme?_append _ (isRooted_slashes count)] at split
  obtain ⟨⟨scheme, after⟩, schemed, same⟩ := Option.map_eq_some_iff.mp split
  obtain ⟨rfl, rfl⟩ := Prod.mk.inj same
  -- Behind the slashes after the scheme there is a host, so only slashes before it are dropped.
  have occupied : after.dropWhile (isSlash true) ≠ [] := by
    intro empty
    have none : (after ++ List.replicate count '/').dropWhile (isSlash true) = [] := by
      simp [List.dropWhile_append, empty, isSlash]
    rw [none, readAuthority?_eq special] at authority
    simp [splitTail, readPlace?_nil] at authority
  have opened (rest : List Char) :
      (after ++ rest).dropWhile (isSlash true) = after.dropWhile (isSlash true) ++ rest := by
    rw [List.dropWhile_append, if_neg (by simpa using occupied)]
  refine ⟨after.dropWhile (isSlash true), count, ?_, fun path url kept read => ?_⟩
  · rw [← opened]
    exact authority
  · rw [← kept] at web read schemed
    refine (read?_eq_some_iff web).mpr
      ⟨after ++ '/' :: keptEnd (path.toList.dropWhile (· == '/')), ?_, ?_⟩
    · rw [significant_join, splitScheme?_append _ (isRooted_slash _), schemed]
      rfl
    · rw [opened]
      exact read

/-- A URL of the web without a query and a fragment, which ends with a visible character, keeps its
scheme, its user, its host and its port when a path is joined to it. Its segments, but for empty ones at the end,
come before those of the path, which has the query and the fragment. -/
theorem read?_join (read : read? endpoint = some base) (web : base.scheme ∈ ["http", "https"])
    (queryless : base.query = none) (unmarked : base.fragment = none)
    (visible : ∀ last, endpoint.toList.getLast? = some last → isEdge last = false) :
    ∃ (pieces : List (List Char)) (empties : Nat),
      base.path
          = .segments ((pieces.foldl climbed []).reverse ++ List.replicate empties "")
        ∧ ∀ path : String,
          let tail := splitTail true (keptEnd (path.toList.dropWhile (· == '/')))
          read? (join endpoint path) = some { base with
            path := .segments (resolve [] (pieces ++ tail.1.splitOnP (isSlash true)))
            query := tail.2.1, fragment := tail.2.2 } := by
  obtain ⟨special, _⟩ := isSpecial_of_web web
  obtain ⟨text, count, authority, joined⟩ := readAuthority?_of_read? read web visible
  have plain : ∀ character ∈ text, character ≠ '#' ∧ character ≠ '?' := by
    rw [readAuthority?_eq special] at authority
    obtain ⟨_, _, made⟩ := Option.map_eq_some_iff.mp authority
    have unasked : (splitTail true (text ++ List.replicate count '/')).2.1 = none :=
      (congrArg Url.query made).trans queryless
    have whole := plain_of_splitTail unasked ((congrArg Url.fragment made).trans unmarked)
    exact fun character listed => whole character (List.mem_append_left _ listed)
  rw [readAuthority?_append special plain (isRooted_slashes count), splitTail_slashes] at authority
  obtain ⟨⟨user, host, port⟩, found, made⟩ := Option.map_eq_some_iff.mp authority
  obtain ⟨empties, segments⟩ := pathSegments_slashes (isSlash_of_dropWhile text) count
  refine ⟨pathPieces (text.dropWhile (!isSlash true ·)), empties, ?_, fun path => ?_⟩
  · rw [← segments, ← made]
  · refine joined path _ rfl ?_
    rw [readAuthority?_append special plain (isRooted_slash _), found, splitTail_slash,
      pathSegments_append (isSlash_of_dropWhile text), ← made]
    rfl

end Joined

end DatabaseLifecycle.Url
