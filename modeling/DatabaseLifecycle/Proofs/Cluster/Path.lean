import DatabaseLifecycle.Cluster.Request
import Mathlib.Data.List.TakeWhile

/-!
Paths of the cluster, read as the server reads them: which kind, which namespace and which name a
path stands for. A path that is put together from texts made for paths stands for what it was put
together from.
-/

namespace DatabaseLifecycle.Cluster

/-- Whether a character may stand in the name of a record or a namespace. -/
def isNameChar (character : Char) : Bool :=
  character.isLower || character.isDigit || character == '-' || character == '.'

/-- A text that may be put into a path: the name of a namespace, or nothing. -/
def IsPathText (text : String) : Prop := ∀ character ∈ text.toList, isNameChar character = true

instance (text : String) : Decidable (IsPathText text) := List.decidableBAll _ _

/-- The name of a record. -/
def IsName (text : String) : Prop := text ≠ "" ∧ IsPathText text

instance (text : String) : Decidable (IsName text) :=
  inferInstanceAs (Decidable (text ≠ "" ∧ IsPathText text))

/-- What a path stands for: all records of a kind in a namespace, or the one with a name. -/
structure Location where
  /-- The kind of the records. -/
  kind : Kind
  /-- The namespace they lie in. -/
  namespaceName : String
  /-- The name of the one record. -/
  name : Option String

/-- The location given by the end of a path, for the kinds that its beginning allows. -/
def Location.among? (kinds : List Kind) : List String → Option Location
  | [namespaceName, plural] =>
    (kinds.find? (·.plural == plural)).map fun kind => ⟨kind, namespaceName, none⟩
  | [namespaceName, plural, name] =>
    (kinds.find? (·.plural == plural)).map fun kind => ⟨kind, namespaceName, some name⟩
  | _ => none

/-- The location that the parts between the slashes of a path stand for. -/
def Location.ofParts? : List String → Option Location
  | "" :: "api" :: "v1" :: "namespaces" :: rest => among? [.secret, .pod, .service] rest
  | "" :: "apis" :: "dbflow.dev" :: "v1alpha1" :: "namespaces" :: rest =>
    among? [.server, .database] rest
  | _ => none

/-- The location that a path stands for. -/
def Location.ofPath? (path : String) : Option Location :=
  ofParts? ((path.toList.splitOn '/').map String.ofList)

/-- The parts of the path of a kind's records in a namespace. -/
def collectionParts (kind : Kind) (namespaceName : String) : List String :=
  let root := match kind with
    | .server | .database => ["", "apis", "dbflow.dev", "v1alpha1"]
    | .secret | .pod | .service => ["", "api", "v1"]
  root ++ ["namespaces", namespaceName, kind.plural]

/-- The path is made of its parts. -/
theorem toList_collectionPath (kind : Kind) (namespaceName : String) :
    (collectionPath kind namespaceName).toList
      = ['/'].intercalate ((collectionParts kind namespaceName).map String.toList) := by
  cases kind <;>
    simp [collectionPath, collectionParts, Kind.version, Kind.plural, customVersion,
      List.intercalate, List.intersperse]

/-- A path is taken apart into the parts it was made of. -/
theorem split_joined {parts : List String} (plain : ∀ part ∈ parts, '/' ∉ part.toList)
    (nonempty : parts ≠ []) :
    ((['/'].intercalate (parts.map String.toList)).splitOn '/').map String.ofList = parts := by
  -- A path is split where it was joined, since no part has a slash of its own.
  rw [List.splitOn_intercalate]
  · simp [Function.comp_def]
  · intro part listed
    obtain ⟨text, member, rfl⟩ := List.mem_map.mp listed
    exact plain text member
  · simpa using nonempty

/-- A character of a name may stand in a path and is no slash. -/
theorem isPathCode_of_isNameChar {character : Char} (named : isNameChar character = true) :
    isPathCode character.toNat = true ∧ character ≠ '/' := by
  have slash : isNameChar '/' = false := by decide
  refine ⟨?_, fun same => by rw [same, slash] at named; cases named⟩
  -- Letters and digits lie in two ranges of codes, the two signs are looked up.
  have letters : character.isLower
      = (decide (97 ≤ character.toNat) && decide (character.toNat ≤ 122)) := rfl
  have digits : character.isDigit
      = (decide (48 ≤ character.toNat) && decide (character.toNat ≤ 57)) := rfl
  simp only [isNameChar, letters, digits, Bool.or_eq_true, Bool.and_eq_true, decide_eq_true_eq,
    beq_iff_eq] at named
  have within (code : Nat) (range : 97 ≤ code ∧ code ≤ 122 ∨ 48 ≤ code ∧ code ≤ 57) :
      isPathCode code = true := by
    simp only [isPathCode, Bool.or_eq_true, Bool.and_eq_true, decide_eq_true_eq, beq_iff_eq]
    omega
  rcases named with (range | rfl) | rfl
  · exact within _ range
  · rfl
  · rfl

/-- Names and namespaces hold no slashes. -/
theorem IsPathText.no_slash {text : String} (plain : IsPathText text) : '/' ∉ text.toList :=
  fun member => (isPathCode_of_isNameChar (plain '/' member)).2 rfl

/-- The parts of a collection's path hold no slashes. -/
theorem no_slash_collectionParts (kind : Kind) {namespaceName : String}
    (plain : IsPathText namespaceName) :
    ∀ part ∈ collectionParts kind namespaceName, '/' ∉ part.toList := by
  -- All parts but the namespace are given words.
  cases kind <;> simpa [collectionParts, Kind.plural] using plain.no_slash

/-- The path of a collection stands for the collection. -/
theorem ofPath?_collectionPath (kind : Kind) {namespaceName : String}
    (plain : IsPathText namespaceName) :
    Location.ofPath? (collectionPath kind namespaceName) = some ⟨kind, namespaceName, none⟩ := by
  rw [Location.ofPath?, toList_collectionPath,
    split_joined (no_slash_collectionParts kind plain) (by cases kind <;> simp [collectionParts])]
  cases kind <;> simp [collectionParts, Location.ofParts?, Location.among?, Kind.plural]

/-- The path of a record stands for the record. -/
theorem ofPath?_recordPath (kind : Kind) {namespaceName name : String}
    (plain : IsPathText namespaceName) (named : IsPathText name) :
    Location.ofPath? (collectionPath kind namespaceName ++ "/" ++ name)
      = some ⟨kind, namespaceName, some name⟩ := by
  have whole : (collectionPath kind namespaceName ++ "/" ++ name).toList
      = ['/'].intercalate ((collectionParts kind namespaceName ++ [name]).map String.toList) := by
    cases kind <;>
      simp [collectionPath, collectionParts, Kind.version, Kind.plural, customVersion,
        List.intercalate, List.intersperse]
  -- The name is one more part behind those of the collection.
  have plainParts : ∀ part ∈ collectionParts kind namespaceName ++ [name], '/' ∉ part.toList := by
    intro part listed
    rcases List.mem_append.mp listed with before | last
    · exact no_slash_collectionParts kind plain part before
    · exact List.mem_singleton.mp last ▸ named.no_slash
  rw [Location.ofPath?, whole, split_joined plainParts (by simp)]
  cases kind <;> simp [collectionParts, Location.ofParts?, Location.among?, Kind.plural]

/-- A text of which every character may stand in a path. -/
def IsPathSafe (text : String) : Prop :=
  ∀ character ∈ text.toList, isPathCode character.toNat = true

instance (text : String) : Decidable (IsPathSafe text) := List.decidableBAll _ _

/-- Safe texts are put together safely. -/
theorem IsPathSafe.append {first second : String} (safe : IsPathSafe first)
    (others : IsPathSafe second) : IsPathSafe (first ++ second) := by
  intro character member
  rw [String.toList_append] at member
  exact (List.mem_append.mp member).elim (safe character) (others character)

/-- Names and namespaces are safe. -/
theorem IsPathText.isPathSafe {text : String} (plain : IsPathText text) : IsPathSafe text :=
  fun character member => (isPathCode_of_isNameChar (plain character member)).1

/-- A safe path is asked for as it is. -/
theorem IsPathSafe.target?_eq {path : String} (plain : IsPathSafe path) :
    target? path = some path := by
  -- Neither of the signs that end a path may stand in one.
  have unlike {sign : Char} (outside : isPathCode sign.toNat = false) :
      ∀ character ∈ path.toList, (character != sign) = true := by
    intro character member
    rw [bne_iff_ne]
    rintro rfl
    rw [plain character member] at outside
    cases outside
  have sharp := unlike (show isPathCode '#'.toNat = false by decide)
  have mark := unlike (show isPathCode '?'.toNat = false by decide)
  have noFragment := List.takeWhile_eq_self_iff.mpr sharp
  have noQuery := List.takeWhile_eq_self_iff.mpr mark
  have nothing := List.dropWhile_eq_nil_iff.mpr mark
  simpa [target?, noFragment, noQuery, nothing, IsPathSafe] using plain

/-- The path of a collection is asked for as it is. -/
theorem isPathSafe_collectionPath (kind : Kind) {namespaceName : String}
    (plain : IsPathText namespaceName) : IsPathSafe (collectionPath kind namespaceName) := by
  have root : IsPathSafe ((match kind with
      | .server | .database => "/apis/" ++ kind.version
      | .secret | .pod | .service => "/api/" ++ kind.version) ++ "/namespaces/") := by
    cases kind <;> decide
  have plural : IsPathSafe ("/" ++ kind.plural) := by cases kind <;> decide
  have whole := (root.append plain.isPathSafe).append plural
  rwa [← String.append_assoc] at whole

/-- The request for a collection goes out. -/
theorem request_collection (method : Http.Method) (kind : Kind) {namespaceName : String}
    (plain : IsPathText namespaceName) (body : Option Document) :
    request method (collectionPath kind namespaceName) body
      = .ok ⟨method, collectionPath kind namespaceName, body⟩ := by
  rw [request, (isPathSafe_collectionPath kind plain).target?_eq]

/-- The request for a record goes out. -/
theorem recordRequest_eq (method : Http.Method) (kind : Kind) {namespaceName name : String}
    (plain : IsPathText namespaceName) (named : IsName name) (body : Option Document) :
    recordRequest method kind namespaceName name body
      = .ok ⟨method, collectionPath kind namespaceName ++ "/" ++ name, body⟩ := by
  have nonempty : ¬ name.isEmpty = true := fun empty => named.1 (String.isEmpty_iff.mp empty)
  have slash : IsPathSafe "/" := by decide
  have safe := ((isPathSafe_collectionPath kind plain).append slash).append named.2.isPathSafe
  rw [recordRequest, if_neg nonempty, request, safe.target?_eq]

end DatabaseLifecycle.Cluster
