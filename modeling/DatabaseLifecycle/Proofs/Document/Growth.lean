import DatabaseLifecycle.Proofs.Document.Record
import Mathlib.Data.List.Forall2

/-!
Documents that grow: objects that stand for records get members that nobody declared, at any depth. A
record finds under its own keys what it found before, so what is read from it stays the same.
-/

namespace DatabaseLifecycle

/-- Which documents a document may grow into. -/
abbrev Growth : Type := Document → Document → Prop

/-- Fields of an object that grow, given how the values of the declared ones do. -/
inductive GrownFields (declared : List (String × Growth)) :
    List (String × Document) → List (String × Document) → Prop where
  /-- There are no fields. -/
  | nil : GrownFields declared [] []
  /-- A field stays as it is. -/
  | kept {fields grown : List (String × Document)} (field : String × Document)
      (rest : GrownFields declared fields grown) :
      GrownFields declared (field :: fields) (field :: grown)
  /-- The value of a declared field grows. -/
  | inside {fields grown : List (String × Document)} {key : String} {growth : Growth}
      {value larger : Document} (found : declared.lookup key = some growth)
      (within : growth value larger) (rest : GrownFields declared fields grown) :
      GrownFields declared ((key, value) :: fields) ((key, larger) :: grown)
  /-- A member is added that is not declared. -/
  | added {fields grown : List (String × Document)} {key : String} (value : Document)
      (new : key ∉ declared.map (·.1)) (rest : GrownFields declared fields grown) :
      GrownFields declared fields ((key, value) :: grown)

/-- Values of the fields with these keys that grow, given how the values of the declared ones do. -/
inductive GrownPositions (declared : List (String × Growth)) :
    List String → List Document → List Document → Prop where
  /-- The values that are left stay as they are. -/
  | kept (keys : List String) (values : List Document) : GrownPositions declared keys values values
  /-- The first value grows. -/
  | inside {keys : List String} {values grown : List Document} {key : String} {growth : Growth}
      {value larger : Document} (found : declared.lookup key = some growth)
      (within : growth value larger) (rest : GrownPositions declared keys values grown) :
      GrownPositions declared (key :: keys) (value :: values) (larger :: grown)

/-- A record that grows, with or without keys; any other document stays as it is. -/
inductive GrownRecord (declared : List (String × Growth)) : Growth where
  /-- It stays as it is. -/
  | same (document : Document) : GrownRecord declared document document
  /-- Its fields grow. -/
  | fields {fields grown : List (String × Document)} (rest : GrownFields declared fields grown) :
      GrownRecord declared (.object fields) (.object grown)
  /-- Its values grow. -/
  | positions {values grown : List Document}
      (rest : GrownPositions declared (declared.map (·.1)) values grown) :
      GrownRecord declared (.list values) (.list grown)

/-- A list whose items grow; any other document stays as it is. -/
inductive GrownList (growth : Growth) : Growth where
  /-- It stays as it is. -/
  | same (document : Document) : GrownList growth document document
  /-- Its items grow. -/
  | items {items grown : List Document} (each : List.Forall₂ growth items grown) :
      GrownList growth (.list items) (.list grown)

/-- A table whose values grow while its keys, which are data, stay; any other document stays as it is. -/
inductive GrownTable (growth : Growth) : Growth where
  /-- It stays as it is. -/
  | same (document : Document) : GrownTable growth document document
  /-- Its values grow. -/
  | entries {entries grown : List (String × Document)}
      (each : List.Forall₂ (fun one other => one.1 = other.1 ∧ growth one.2 other.2) entries grown) :
      GrownTable growth (.object entries) (.object grown)

/-- A way of reading to which growth makes no difference. -/
def Unmoved {α : Type} (growth : Growth) (read : Document → Option α) : Prop :=
  ∀ document larger, growth document larger → read larger = read document

/-- A field that is given in a record, and in the same record after it has grown. -/
def GrownMember (declared : List (String × Growth)) (one other : String × Document) : Prop :=
  one.1 = other.1 ∧ (one.2 = other.2
    ∨ ∃ growth, declared.lookup one.1 = some growth ∧ growth one.2 other.2)

/-- A record, and the same record after it has grown. -/
def GrownGiven (declared : List (String × Growth)) (record larger : Record Document) : Prop :=
  List.Forall₂ (GrownMember declared) record.given larger.given

section Reading

variable {declared : List (String × Growth)} {α : Type}

/-- A field that stays as it is counts as grown. -/
theorem GrownMember.refl (field : String × Document) : GrownMember declared field field :=
  ⟨rfl, .inl rfl⟩

/-- A record that stays as it is counts as grown. -/
theorem GrownGiven.refl (record : Record Document) : GrownGiven declared record record :=
  List.forall₂_same.mpr fun field _ => GrownMember.refl field

/-- Fields that stay as they are count as grown. -/
theorem GrownFields.refl (fields : List (String × Document)) :
    GrownFields declared fields fields := by
  induction fields with
  | nil => exact .nil
  | cons field _ step => exact .kept field step

/-- Fields grow by a member that is not declared, wherever it is added. -/
theorem GrownFields.insert (before after : List (String × Document)) {key : String}
    (value : Document) (new : key ∉ declared.map (·.1)) :
    GrownFields declared (before ++ after) (before ++ (key, value) :: after) := by
  induction before with
  | nil => exact .added value new (.refl after)
  | cons field _ step => exact .kept field step

/-- Without the members that are not declared, the fields are those from before. -/
theorem GrownFields.filter {fields grown : List (String × Document)}
    (growth : GrownFields declared fields grown) :
    List.Forall₂ (GrownMember declared)
      (fields.filter fun field => (declared.map (·.1)).contains field.1)
      (grown.filter fun field => (declared.map (·.1)).contains field.1) := by
  induction growth with
  | nil => exact .nil
  | kept field _ step =>
    rw [List.filter_cons, List.filter_cons]
    split
    · exact .cons (GrownMember.refl field) step
    · exact step
  | @inside _ _ key growth value larger found within _ step =>
    rw [List.filter_cons, List.filter_cons]
    split
    · exact .cons ⟨rfl, .inr ⟨growth, found, within⟩⟩ step
    · exact step
  | @added _ _ key value new _ step =>
    -- The new member is left out.
    rw [List.filter_cons_of_neg (by simpa using new)]
    exact step

/-- The fields keep their keys. -/
theorem GrownMember.keys {fields grown : List (String × Document)}
    (each : List.Forall₂ (GrownMember declared) fields grown) :
    grown.map (·.1) = fields.map (·.1) := by
  induction each with
  | nil => rfl
  | cons member _ step => rw [List.map_cons, List.map_cons, step, member.1]

/-- A list of values does not get longer. -/
theorem GrownPositions.length_eq {keys : List String} {values grown : List Document}
    (growth : GrownPositions declared keys values grown) : grown.length = values.length := by
  induction growth with
  | kept => rfl
  | inside _ _ _ step => rw [List.length_cons, List.length_cons, step]

/-- With their keys, the values are fields that grow. -/
theorem GrownPositions.zip {keys : List String} {values grown : List Document}
    (growth : GrownPositions declared keys values grown) :
    List.Forall₂ (GrownMember declared) (keys.zip values) (keys.zip grown) := by
  induction growth with
  | kept keys values => exact List.forall₂_same.mpr fun field _ => GrownMember.refl field
  | @inside keys values grown key growth value larger found within _ step =>
    exact .cons ⟨rfl, .inr ⟨growth, found, within⟩⟩ step

/-- A record is read after it has grown exactly when it was read before, and its fields have grown
with it. -/
theorem GrownRecord.read? {document larger : Document} (growth : GrownRecord declared document larger) :
    Option.Rel (GrownGiven declared) (Record.read? (declared.map (·.1)) document)
      (Record.read? (declared.map (·.1)) larger) := by
  cases growth with
  | same =>
    cases Record.read? (declared.map (·.1)) document with
    | none => exact .none
    | some record => exact .some (GrownGiven.refl record)
  | fields rest =>
    -- The keys that must not repeat are those from before.
    have each := rest.filter
    show Option.Rel _ (Record.ofEntries? _ _) (Record.ofEntries? _ _)
    simp only [Record.ofEntries?, GrownMember.keys each]
    split
    · exact .none
    · exact .some each
  | positions rest =>
    -- There is no room for values of other fields.
    show Option.Rel _ (Record.ofPositions? _ _) (Record.ofPositions? _ _)
    simp only [Record.ofPositions?, rest.length_eq]
    split
    · exact .some rest.zip
    · exact .none

/-- What is made of related values, or of their absence, is the same if it is the same for the values
alone. -/
theorem eq_of_rel {ν β : Type} {related : ν → ν → Prop} {one other : Option ν}
    (both : Option.Rel related one other) (make : Option ν → β)
    (same : ∀ value larger, related value larger → make (some larger) = make (some value)) :
    make other = make one := by
  cases both with
  | none => rfl
  | some change => exact same _ _ change

/-- Growth makes no difference to a record when it makes none to what is read from its fields. -/
theorem Unmoved.record {read : Record Document → Option α}
    (keeps : ∀ record larger, GrownGiven declared record larger → read larger = read record) :
    Unmoved (GrownRecord declared)
      fun document => Record.read? (declared.map (·.1)) document >>= read := by
  intro document larger growth
  exact eq_of_rel growth.read? (· >>= read) keeps

/-- Fields whose values do not grow. -/
def leaves (keys : List String) : List (String × Growth) := keys.map fun key => (key, (· = ·))

/-- The keys of fields whose values do not grow. -/
theorem leaves_keys (keys : List String) : (leaves keys).map (·.1) = keys := by
  rw [leaves, List.map_map]
  exact List.map_id keys

/-- The value of such a field does not grow. -/
theorem leaves_lookup {keys : List String} {key : String} {growth : Growth}
    (found : (leaves keys).lookup key = some growth) : growth = (· = ·) := by
  induction keys with
  | nil => cases found
  | cons name keys step =>
    rw [leaves, List.map_cons, List.lookup_cons] at found
    split at found
    · exact (Option.some.inj found).symm
    · exact step found

/-- A record in which no value grows has the same fields as before. -/
theorem GrownGiven.eq_of_leaves {keys : List String} {record larger : Record Document}
    (grown : GrownGiven (leaves keys) record larger) : larger = record := by
  obtain ⟨fields⟩ := record
  obtain ⟨others⟩ := larger
  change List.Forall₂ _ fields others at grown
  induction grown with
  | nil => rfl
  | @cons field other _ _ member _ step =>
    -- A value that grows is still the same.
    have value : field.2 = other.2 := by
      rcases member.2 with same | ⟨growth, found, within⟩
      · exact same
      · rw [leaves_lookup found] at within
        exact within
    rw [Prod.ext member.1 value, Record.mk.inj step]

/-- Growth makes no difference to a record in which no value grows, however its fields are read. -/
theorem Unmoved.flat (keys : List String) (read : Record Document → Option α) :
    Unmoved (GrownRecord (leaves keys)) fun document => Record.read? keys document >>= read := by
  have unmoved : Unmoved (GrownRecord (leaves keys)) fun document =>
      Record.read? ((leaves keys).map (·.1)) document >>= read :=
    Unmoved.record fun record larger grown => by rw [grown.eq_of_leaves]
  rwa [leaves_keys] at unmoved

variable {record larger : Record Document} {key : String} {growth : Growth}
  {read : Document → Option α}

/-- What is found under a declared key is what was found there, or what it has grown into. -/
theorem GrownGiven.lookup (grown : GrownGiven declared record larger)
    (found : declared.lookup key = some growth) :
    Option.Rel (fun value other => value = other ∨ growth value other) (record.given.lookup key)
      (larger.given.lookup key) := by
  obtain ⟨fields⟩ := record
  obtain ⟨others⟩ := larger
  change List.Forall₂ _ fields others at grown
  induction grown with
  | nil => exact .none
  | @cons field other _ _ member _ step =>
    obtain ⟨name, value⟩ := field
    obtain ⟨_, after⟩ := other
    obtain ⟨rfl, change⟩ := member
    rw [List.lookup_cons, List.lookup_cons]
    by_cases here : key = name
    · -- The key stands for one growth only.
      subst here
      rw [beq_self_eq_true]
      refine .some (change.imp_right ?_)
      rintro ⟨other, same, within⟩
      rwa [found.symm.trans same |> Option.some.inj]
    · rw [beq_eq_false_iff_ne.mpr here]
      exact step

/-- A value that stays or grows is read as before. -/
theorem Unmoved.read_eq (unmoved : Unmoved growth read) (value other : Document)
    (change : value = other ∨ growth value other) : read other = read value := by
  rcases change with rfl | within
  · rfl
  · exact unmoved value other within

/-- A field that must be given is read as before. -/
theorem GrownGiven.required? (grown : GrownGiven declared record larger) (key : String)
    (found : declared.lookup key = some growth) (unmoved : Unmoved growth read) :
    larger.required? key read = record.required? key read :=
  eq_of_rel (grown.lookup found) (· >>= read) unmoved.read_eq

/-- A field with a default has it where nothing is found. -/
theorem Record.orDefault?_eq_elim (record : Record Document) (key : String) (default : α)
    (read : Document → Option α) :
    record.orDefault? key default read = (record.given.lookup key).elim (some default) read := by
  unfold Record.orDefault?
  cases record.given.lookup key <;> rfl

/-- A field with a default is read as before. -/
theorem GrownGiven.orDefault? (grown : GrownGiven declared record larger) (key : String)
    (default : α) (found : declared.lookup key = some growth) (unmoved : Unmoved growth read) :
    larger.orDefault? key default read = record.orDefault? key default read := by
  rw [Record.orDefault?_eq_elim, Record.orDefault?_eq_elim]
  exact eq_of_rel (grown.lookup found) (·.elim (some default) read) unmoved.read_eq

/-- A field that may stand for nothing is read as before when what stands for nothing does not
grow. -/
theorem GrownGiven.optional? (grown : GrownGiven declared record larger) (key : String)
    (found : declared.lookup key = some growth) (unmoved : Unmoved growth read)
    (absence : Unmoved growth Source.isAbsent?) :
    larger.optional? key read = record.optional? key read := by
  -- It is decided first whether there is something to be read.
  refine grown.orDefault? key none found fun value other within => ?_
  rw [Source.orAbsent?, Source.orAbsent?, absence value other within, unmoved value other within]

/-- What does not grow is read as before. -/
theorem Unmoved.same (read : Document → Option α) : Unmoved (· = ·) read :=
  fun _ _ same => congrArg read same.symm

/-- A record stands for something before and after. -/
theorem Unmoved.isAbsent? : Unmoved (GrownRecord declared) Source.isAbsent? := by
  intro document larger growth
  cases growth <;> rfl

/-- A list is read as before when its items are. -/
theorem Unmoved.list (unmoved : Unmoved growth read) :
    Unmoved (GrownList growth) (Source.list? read) := by
  intro document larger growth
  cases growth with
  | same => rfl
  | @items items grown each =>
    -- Only the items differ, and each is read on its own.
    show grown.mapM read = items.mapM read
    induction each with
    | nil => rfl
    | cons within _ step => rw [List.mapM_cons, List.mapM_cons, step, unmoved _ _ within]

/-- The entries of a table are read as before when their values are. -/
theorem Unmoved.entries (unmoved : Unmoved growth read) :
    Unmoved (GrownTable growth) (Source.entries? read) := by
  intro document larger growth
  cases growth with
  | same => rfl
  | @entries entries grown each =>
    -- The keys are read too, so they must be the same.
    show grown.mapM _ = entries.mapM _
    induction each with
    | nil => rfl
    | cons within _ step =>
      rw [List.mapM_cons, List.mapM_cons, step, within.1, unmoved _ _ within.2]

/-- What is made of what is read is the same as before. -/
theorem Unmoved.map {β : Type} (unmoved : Unmoved growth read) (image : α → β) :
    Unmoved growth fun document => (read document).map image :=
  fun document larger within => congrArg (Option.map image) (unmoved document larger within)

end Reading

end DatabaseLifecycle
