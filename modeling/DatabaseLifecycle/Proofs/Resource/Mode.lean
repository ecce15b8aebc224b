import DatabaseLifecycle.Proofs.Document.Record
import DatabaseLifecycle.Resource.Database
import DatabaseLifecycle.Yaml.Node
import Mathlib.Data.List.Find

/-!
The mode of a database record, and what it hinges on. Of the keys that name a mode the first counts, and
nothing else depends on the order of the fields: a record with one mode is read alike in every order.
-/

namespace DatabaseLifecycle

section Readings

variable {α β : Type}

/-- Values are read in turn when each of them can be read. -/
theorem mapM_eq_ite (read : α → Option β) (values : List α) :
    values.mapM read
      = if values.all fun value => (read value).isSome then some (values.filterMap read) else none := by
  induction values with
  | nil => rfl
  | cons value rest step =>
    rw [List.mapM_cons, step, List.all_cons, List.filterMap_cons]
    cases read value with
    | none => rfl
    | some one => by_cases all : rest.all fun value => (read value).isSome <;> simp [all]

/-- Values that are moved are read in turn alike, and what is read of them is moved. -/
theorem mapM_moved (read : α → Option β) {first second : List α} (moved : first.Perm second) :
    first.mapM read = none ∧ second.mapM read = none
      ∨ ∃ one other, first.mapM read = some one ∧ second.mapM read = some other ∧ one.Perm other := by
  rw [mapM_eq_ite, mapM_eq_ite, moved.all_eq]
  split
  · exact .inr ⟨_, _, rfl, rfl, moved.filterMap read⟩
  · exact .inl ⟨rfl, rfl⟩

/-- An entry is found by its key like the key itself. -/
theorem find?_key (wanted : String → Bool) (entries : List (String × α)) :
    (entries.find? fun entry => wanted entry.1)
      = ((entries.map (·.1)).find? wanted).bind fun key => (entries.lookup key).map (key, ·) := by
  induction entries with
  | nil => rfl
  | cons entry rest step =>
    obtain ⟨key, value⟩ := entry
    by_cases here : wanted key
    · simp [here]
    · -- The key that is found further on is another one.
      rw [List.find?_cons_of_neg (by simpa using here), List.map_cons,
        List.find?_cons_of_neg here, step]
      apply Option.bind_congr
      intro found later
      have other : found ≠ key := fun same => here (same ▸ List.find?_some later)
      rw [List.lookup_cons, beq_eq_false_iff_ne.mpr other]

end Readings

namespace DatabaseMode

/-- The first of the keys that names a mode. -/
def firstKey? (keys : List String) : Option String := keys.find? DatabaseMode.keys.contains

/-- The first key that names a mode is among the keys. -/
theorem mem_of_firstKey? {keys : List String} {key : String} (first : firstKey? keys = some key) :
    key ∈ keys ∧ key ∈ DatabaseMode.keys :=
  ⟨List.mem_of_find?_eq_some first, by simpa using List.find?_some first⟩

/-- No key that names a mode is among those of which none is the first. -/
theorem not_mem_of_firstKey? {keys : List String} (none_first : firstKey? keys = none) {key : String}
    (named : key ∈ DatabaseMode.keys) : key ∉ keys := by
  intro listed
  have passed := List.find?_eq_none.mp none_first key listed
  exact passed (by simpa using named)

/-- If no more than one mode is among the keys, the same one comes first in every order. -/
theorem firstKey?_moved {keys others : List String} (moved : keys.Perm others)
    (single : ¬ ("instance" ∈ keys ∧ "clone" ∈ keys)) : firstKey? keys = firstKey? others := by
  cases first : firstKey? keys with
  | none =>
    cases other : firstKey? others with
    | none => rfl
    | some key =>
      obtain ⟨listed, named⟩ := mem_of_firstKey? other
      exact absurd (moved.mem_iff.mpr listed) (not_mem_of_firstKey? first named)
  | some key =>
    obtain ⟨listed, named⟩ := mem_of_firstKey? first
    cases other : firstKey? others with
    | none => exact absurd (moved.mem_iff.mp listed) (not_mem_of_firstKey? other named)
    | some found =>
      -- Both keys are there, so they cannot be those of different modes.
      obtain ⟨also, known⟩ := mem_of_firstKey? other
      rw [← moved.mem_iff] at also
      simp only [DatabaseMode.keys, List.mem_cons, List.not_mem_nil, or_false] at named known
      rcases named with rfl | rfl <;> rcases known with rfl | rfl
      · rfl
      · exact absurd ⟨listed, also⟩ single
      · exact absurd ⟨also, listed⟩ single
      · rfl

end DatabaseMode

namespace DatabaseSpec

variable {ν : Type} [Source ν] {around : Nat} {entries : List (String × ν)}

/-- Whether all values but the name of the server can be kept until they are read. -/
def keeps (around : Nat) (entries : List (String × ν)) : Bool :=
  entries.all fun entry =>
    entry.1 == "serverRef" || (DatabaseMode.kept? around entry.1 entry.2).isSome

/-- The specification with the mode under a key. -/
def readUnder? (around : Nat) (entries : List (String × ν)) (key : String) :
    Option DatabaseSpec := do
  let serverRef ← entries.lookup "serverRef" >>= Source.text?
  let mode ← entries.lookup key >>= DatabaseMode.kept? around key
  if keeps around entries then return { serverRef, mode := ← DatabaseMode.read? key mode } else none

/-- The mode is looked for among the values that are kept as among all. -/
theorem find?_kept (kept : keeps around entries = true) :
    (((entries.filter (·.1 != "serverRef")).filterMap fun entry =>
        (DatabaseMode.kept? around entry.1 entry.2).map (entry.1, ·)).find?
      fun entry => DatabaseMode.keys.contains entry.1)
      = (DatabaseMode.firstKey? (entries.map (·.1))).bind fun key =>
        (entries.lookup key >>= DatabaseMode.kept? around key).map (key, ·) := by
  have all := List.all_eq_true.mp kept
  rw [List.find?_filterMap, List.find?_filter]
  -- No value that is left out or that cannot be kept stands under a key of a mode.
  have same : ∀ entry ∈ entries,
      decide ((entry.1 != "serverRef") = true
        ∧ ((DatabaseMode.kept? around entry.1 entry.2).map (entry.1, ·)).any
          (fun entry => DatabaseMode.keys.contains entry.1) = true)
        = DatabaseMode.keys.contains entry.1 := by
    intro entry listed
    have whole := all entry listed
    by_cases server : entry.1 = "serverRef"
    · simp [server, DatabaseMode.keys]
    · simp only [Bool.or_eq_true, beq_iff_eq, server, false_or] at whole
      obtain ⟨document, read⟩ := Option.isSome_iff_exists.mp whole
      simp [server, read]
  rw [List.find?_congr same, find?_key, Option.bind_assoc]
  apply Option.bind_congr
  intro key _
  cases entries.lookup key <;> rfl

/-- A specification is read with the first mode that is given. -/
theorem readWithin?_eq {value : ν} (shown : Source.fields? value = some entries)
    (distinct : (entries.map (·.1)).Nodup) :
    readWithin? around value
      = (DatabaseMode.firstKey? (entries.map (·.1))).bind (readUnder? around entries) := by
  have once : Record.hasRepeats ((entries.filter fun entry =>
      ["serverRef"].contains entry.1).map (·.1)) = false :=
    Record.hasRepeats_eq_false (distinct.sublist (List.filter_sublist.map _))
  have named : (entries.filter fun entry => ["serverRef"].contains entry.1).lookup "serverRef"
      = entries.lookup "serverRef" := Record.lookup_filter (List.mem_singleton.mpr rfl)
  have others : ((entries.filter (·.1 != "serverRef")).mapM fun entry =>
        (DatabaseMode.kept? around entry.1 entry.2).map (entry.1, ·))
      = if keeps around entries then
          some ((entries.filter (·.1 != "serverRef")).filterMap fun entry =>
            (DatabaseMode.kept? around entry.1 entry.2).map (entry.1, ·))
        else none := by
    have whole : ((entries.filter (·.1 != "serverRef")).all fun entry =>
        ((DatabaseMode.kept? around entry.1 entry.2).map (entry.1, ·)).isSome)
        = keeps around entries := by
      simp only [List.all_filter, keeps, bne, Bool.not_not, Option.isSome_map]
    rw [mapM_eq_ite, whole]
  unfold readWithin? readUnder?
  rw [shown]
  simp only [Option.bind_eq_bind, Option.bind_some, Record.ofEntries?, once, Bool.false_eq_true,
    if_false, Record.required?, named, others]
  cases (entries.lookup "serverRef").bind Source.text? with
  | none => simp
  | some serverRef =>
    by_cases kept : keeps around entries = true
    · simp only [kept, if_true, Option.bind_some, find?_kept kept, Option.bind_assoc,
        Option.bind_map, Option.bind_eq_bind, Function.comp_def]
    · simp [kept]

/-- The specification with the mode under a key is read alike in every order of the fields. -/
theorem readUnder?_moved {first second : List (String × ν)} (moved : first.Perm second)
    (distinct : (first.map (·.1)).Nodup) : readUnder? around first = readUnder? around second := by
  funext key
  rw [readUnder?, readUnder?, keeps, keeps, Table.lookup_perm moved distinct "serverRef",
    Table.lookup_perm moved distinct key, moved.all_eq]

/-- A specification that is read under the key of a mode has this mode. -/
theorem eq_of_readUnder? {key : String} {spec : DatabaseSpec} (named : key ∈ DatabaseMode.keys)
    (read : readUnder? around entries key = some spec) :
    key = if spec.isClone then "clone" else "instance" := by
  simp only [readUnder?, Option.bind_eq_bind, Option.bind_eq_some_iff,
    Option.ite_none_right_eq_some, Option.pure_def, Option.some.injEq] at read
  obtain ⟨_, _, document, _, _, mode, body, rfl⟩ := read
  simp only [DatabaseMode.keys, List.mem_cons, List.not_mem_nil, or_false] at named
  -- Each key has a reader of its own, which makes one mode.
  rcases named with rfl | rfl
  · obtain ⟨fresh, _, rfl⟩ := Option.map_eq_some_iff.mp body
    rfl
  · obtain ⟨clone, _, rfl⟩ := Option.map_eq_some_iff.mp body
    rfl

/-- A specification that is read has the mode of the first key. -/
theorem firstKey?_of_readWithin? {value : ν} {spec : DatabaseSpec}
    (shown : Source.fields? value = some entries) (distinct : (entries.map (·.1)).Nodup)
    (read : readWithin? around value = some spec) :
    DatabaseMode.firstKey? (entries.map (·.1))
      = some (if spec.isClone then "clone" else "instance") := by
  rw [readWithin?_eq shown distinct] at read
  obtain ⟨key, first, under⟩ := Option.bind_eq_some_iff.mp read
  rw [first, eq_of_readUnder? (DatabaseMode.mem_of_firstKey? first).2 under]

/-- How a specification is read from fields with these keys, and from the same fields in another order. -/
structure Compares (keys others : List String) (one other : Option DatabaseSpec) : Prop where
  /-- It is read alike if the same key of a mode comes first, and otherwise only if it is not read at
  all. -/
  same_iff : one = other ↔
    DatabaseMode.firstKey? keys = DatabaseMode.firstKey? others ∨ one = none ∧ other = none
  /-- It is read alike if only one mode is given. -/
  same : ¬ ("instance" ∈ keys ∧ "clone" ∈ keys) → one = other
  /-- It has the mode that comes first. -/
  mode : ∀ spec, one = some spec →
    DatabaseMode.firstKey? keys = some (if spec.isClone then "clone" else "instance")

/-- Fields that are moved compare. -/
theorem compares_of_moved {value other : ν} {first second : List (String × ν)}
    (shown : Source.fields? value = some first) (otherShown : Source.fields? other = some second)
    (moved : first.Perm second) (distinct : (first.map (·.1)).Nodup) :
    Compares (first.map (·.1)) (second.map (·.1)) (readWithin? around value)
      (readWithin? around other) := by
  have moreDistinct := (moved.map (·.1)).nodup_iff.mp distinct
  have under : DatabaseMode.firstKey? (first.map (·.1)) = DatabaseMode.firstKey? (second.map (·.1)) →
      readWithin? around value = readWithin? around other := by
    intro same
    rw [readWithin?_eq shown distinct, readWithin?_eq otherShown moreDistinct, same,
      readUnder?_moved moved distinct]
  refine ⟨⟨fun alike => ?_, ?_⟩, fun single => under (DatabaseMode.firstKey?_moved (moved.map _) single),
    fun spec => firstKey?_of_readWithin? shown distinct⟩
  · -- What both orders are read as has one mode, so this comes first in both.
    cases read : readWithin? around value with
    | none => exact .inr ⟨rfl, alike ▸ read⟩
    | some spec =>
      left
      rw [firstKey?_of_readWithin? shown distinct read,
        firstKey?_of_readWithin? otherShown moreDistinct (alike ▸ read)]
  · rintro (same | ⟨none_one, none_other⟩)
    · exact under same
    · rw [none_one, none_other]

/-- What can be read in neither order compares. -/
theorem compares_none (keys others : List String) : Compares keys others none none where
  same_iff := by simp
  same _ := rfl
  mode := by simp

/-- What has no fields is not read. -/
theorem readWithin?_of_unshown {value : ν} (unshown : Source.fields? value = none) :
    readWithin? around value = none := by
  rw [readWithin?, unshown]
  rfl

/-- The keys of the fields of a mapping are the texts among its keys. -/
theorem keys_of_mapping (tag : Option String) {pairs : List (Yaml.Value × Yaml.Value)}
    {fields : List (String × Yaml.Value)}
    (shown : Source.fields? (Yaml.Value.mapping tag pairs) = some fields) :
    fields.map (·.1) = pairs.filterMap (·.1.text?) := by
  have read : (pairs.mapM fun pair => pair.1.text?.map (·, pair.2)) = some fields := shown
  rw [mapM_eq_ite, Option.ite_none_right_eq_some, Option.some.injEq] at read
  rw [← read.2, List.map_filterMap]
  congr 1
  funext pair
  cases pair.1.text? <;> rfl

/-- Fields of an object or of a mapping that stand in another order are read as the same specification,
with the same mode, or as none, as long as the same key of a mode comes first. This is so in every order
if only one mode is given. Of two modes the first counts, so the other one is read when they change
places. It does not matter whether the specification is read by itself or inside a record. -/
theorem mode_hinges_on_first_key :
    (∀ (around : Nat) (first second : List (String × Document)), first.Perm second →
      (first.map (·.1)).Nodup →
      Compares (first.map (·.1)) (second.map (·.1))
        (readWithin? around (Document.object first)) (readWithin? around (Document.object second)))
      ∧ ∀ (around : Nat) (tag : Option String) (first second : List (Yaml.Value × Yaml.Value)),
        first.Perm second → (first.filterMap (·.1.text?)).Nodup →
        Compares (first.filterMap (·.1.text?)) (second.filterMap (·.1.text?))
          (readWithin? around (Yaml.Value.mapping tag first))
          (readWithin? around (Yaml.Value.mapping tag second)) := by
  refine ⟨fun around first second moved distinct => compares_of_moved rfl rfl moved distinct, ?_⟩
  intro around tag first second moved distinct
  have both := mapM_moved (fun pair : Yaml.Value × Yaml.Value => pair.1.text?.map (·, pair.2)) moved
  rcases both with ⟨unshown, otherUnshown⟩ | ⟨one, other, shown, otherShown, fields⟩
  · -- A key that is no text has no place in a record, wherever it stands.
    rw [readWithin?_of_unshown unshown, readWithin?_of_unshown otherUnshown]
    exact compares_none _ _
  · rw [← keys_of_mapping tag shown, ← keys_of_mapping tag otherShown]
    rw [← keys_of_mapping tag shown] at distinct
    exact compares_of_moved shown otherShown fields distinct

/-- A clone is read whether it is given before or behind the server and a key that says nothing. -/
theorem mode_hinges_on_first_key_clone :
    let clone : Document := .object [("name", .text "orders-clone"),
      ("credentialSecret", .text "orders-db"), ("type", .text "postgres")]
    let first := [("clone", clone), ("Instance", .null), ("serverRef", .text "cp")]
    let second := [("serverRef", .text "cp"), ("Instance", .null), ("clone", clone)]
    first.Perm second ∧ (first.map (·.1)).Nodup
      ∧ Compares (first.map (·.1)) (second.map (·.1))
        (read? (Document.object first)) (read? (Document.object second)) := by
  intro clone first second
  have moved : first.Perm second := (List.reverse_perm first).symm
  have distinct : (first.map (·.1)).Nodup := by decide
  exact ⟨moved, distinct, mode_hinges_on_first_key.1 1 first second moved distinct⟩

/-- A mode is read alike from both places where its fields are given by their numbers, that of a policy
among them. -/
example :
    let text (word : String) : Yaml.Value := .scalar none .plain word
    let policy := Yaml.Value.mapping none [(text "2", text "GOLD")]
    let fresh := Yaml.Value.mapping none
      [(text "0", text "orders"), (text "4", text "orders-db"), (text "7", text "postgres"),
        (text "8", policy)]
    let server := (text "serverRef", text "cp")
    let spec : DatabaseSpec := ⟨"cp", .fresh {
      name := "orders", credentialSecret := "orders-db", type := "postgres",
      timeMachine := some { slaName := "GOLD" } }⟩
    read? (Yaml.Value.mapping none [server, (text "instance", fresh)]) = some spec
      ∧ read? (Yaml.Value.mapping none [(text "instance", fresh), server]) = some spec := by
  decide +kernel

/-- Of an instance and a clone the one that is given first is read. -/
theorem contested_mode_swaps :
    let server : String × Document := ("serverRef", .text "cp")
    let fresh : String × Document := ("instance", .object [("name", .text "orders"),
      ("credentialSecret", .text "orders-db"), ("type", .text "postgres")])
    let clone : String × Document := ("clone", .object [("name", .text "orders-clone"),
      ("credentialSecret", .text "orders-db"), ("type", .text "postgres")])
    (read? (Document.object [server, fresh, clone])).map isClone = some false
      ∧ (read? (Document.object [server, clone, fresh])).map isClone = some true
      ∧ ¬ ∀ first second : List (String × Document), first.Perm second →
        (first.map (·.1)).Nodup →
          read? (Document.object first) = read? (Document.object second) := by
  intro server fresh clone
  have one : (read? (Document.object [server, fresh, clone])).map isClone = some false := by rfl
  have other : (read? (Document.object [server, clone, fresh])).map isClone = some true := by rfl
  refine ⟨one, other, fun alike => ?_⟩
  have swapped : [server, fresh, clone].Perm [server, clone, fresh] := .cons _ (.swap _ _ _)
  rw [alike _ _ swapped (by decide), other] at one
  cases one

end DatabaseSpec

end DatabaseLifecycle
