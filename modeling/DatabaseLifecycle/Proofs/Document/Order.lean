import DatabaseLifecycle.Proofs.Document.Record
import DatabaseLifecycle.Proofs.Document.Table

/-!
Documents whose fields stand in another order. An object means the same in every order of its
fields, so what is written is read back from all of them: as it was written, and with sorted keys.
-/

namespace DatabaseLifecycle.Document

/-- A choice of an order for the fields of every object. It drops no field unless a key repeats. -/
structure FieldOrder where
  /-- The fields in this order. -/
  move : List (String × Document) → List (String × Document)
  /-- Nothing is added. -/
  subset : ∀ fields, move fields ⊆ fields
  /-- Fields with distinct keys are only moved. -/
  perm : ∀ fields, (fields.map (·.1)).Nodup → (move fields).Perm fields

mutual

/-- The document with the fields of every object in the order. -/
def arranged (order : FieldOrder) : Document → Document
  | .list items => .list (arrangedItems order items)
  | .object fields => .object (order.move (arrangedFields order fields))
  | other => other

/-- The items, each arranged. -/
def arrangedItems (order : FieldOrder) : List Document → List Document
  | [] => []
  | item :: rest => arranged order item :: arrangedItems order rest

/-- The fields, each with its value arranged. -/
def arrangedFields (order : FieldOrder) : List (String × Document) → List (String × Document)
  | [] => []
  | (key, value) :: rest => (key, arranged order value) :: arrangedFields order rest

end

/-- The fields as they were written. -/
def FieldOrder.asWritten : FieldOrder := ⟨id, fun _ => .refl _, fun _ _ => .refl _⟩

section Insertion

variable {key : String} {value : Document} {fields : List (String × Document)}

/-- Fields in increasing order of their keys, the last value of a repeated key kept. -/
def byIncreasingKey (fields : List (String × Document)) : List (String × Document) :=
  fields.foldr (fun field inside => insertField field.1 field.2 inside) []

/-- A field after an insertion is the new one or was there before. -/
theorem insertField_subset : insertField key value fields ⊆ (key, value) :: fields := by
  induction fields with
  | nil => exact .refl _
  | cons field rest step =>
    obtain ⟨other, kept⟩ := field
    unfold insertField
    split
    · exact .refl _
    · split
      · exact List.subset_cons_self _ _
      · -- The first field stays, and the others come from the insertion further down.
        intro entry listed
        rcases List.mem_cons.mp listed with rfl | later
        · simp
        · rcases List.mem_cons.mp (step later) with rfl | old <;> simp [*]

/-- A field with a new key is inserted somewhere. -/
theorem insertField_perm (unlike : key ∉ fields.map (·.1)) :
    (insertField key value fields).Perm ((key, value) :: fields) := by
  induction fields with
  | nil => exact .refl _
  | cons field rest step =>
    obtain ⟨other, kept⟩ := field
    simp only [List.map_cons, List.mem_cons, not_or] at unlike
    unfold insertField
    rw [if_neg unlike.1]
    split
    · exact .refl _
    · -- The field goes further down, past the one that stands here.
      exact ((step unlike.2).cons _).trans (.swap _ _ _)

end Insertion

/-- The fields in increasing order of their keys. -/
def FieldOrder.byKey : FieldOrder where
  move := byIncreasingKey
  subset fields := by
    induction fields with
    | nil => exact .refl _
    | cons field rest step =>
      exact List.Subset.trans insertField_subset (List.cons_subset_cons _ step)
  perm fields distinct := by
    induction fields with
    | nil => exact .refl _
    | cons field rest step =>
      obtain ⟨unlike, later⟩ := List.nodup_cons.mp distinct
      have inside := step later
      have new : field.1 ∉ (byIncreasingKey rest).map (·.1) := fun listed =>
        unlike ((inside.map (·.1)).mem_iff.mp listed)
      exact (insertField_perm new).trans (inside.cons _)

variable (order : FieldOrder)

/-- The items of a list are arranged one by one. -/
theorem arrangedItems_eq (items : List Document) :
    arrangedItems order items = items.map (arranged order) := by
  induction items with
  | nil => rfl
  | cons item rest step => rw [arrangedItems, step, List.map_cons]

/-- The values of fields are arranged one by one. -/
theorem arrangedFields_eq (fields : List (String × Document)) :
    arrangedFields order fields = fields.map fun field => (field.1, field.2.arranged order) := by
  induction fields with
  | nil => rfl
  | cons field rest step => rw [arrangedFields, step, List.map_cons]

/-- A document in the order in which it was written is itself. -/
@[simp] theorem arranged_asWritten (document : Document) :
    document.arranged .asWritten = document := by
  induction document using byParts with
  | list items step =>
    rw [arranged, arrangedItems_eq, List.map_congr_left step, List.map_id']
  | object fields step =>
    have same : fields.map (fun field => (field.1, field.2.arranged .asWritten)) = fields :=
      (List.map_congr_left fun field listed => by rw [step field listed]).trans (List.map_id' _)
    rw [arranged, arrangedFields_eq, same]
    rfl
  | _ => rfl

/-- Sorting puts the fields in the order of their keys. -/
theorem arranged_byKey (document : Document) : document.arranged .byKey = document.sorted := by
  induction document using byParts with
  | list items step =>
    rw [arranged, arrangedItems_eq, sorted]
    congr 1
    induction items with
    | nil => rfl
    | cons item rest later =>
      rw [List.map_cons, sortedItems, step item List.mem_cons_self,
        later fun item listed => step item (List.mem_cons_of_mem _ listed)]
  | object fields step =>
    rw [arranged, arrangedFields_eq, sorted]
    congr 1
    -- Both insert the arranged fields one by one, beginning with the last.
    induction fields with
    | nil => rfl
    | cons field rest later =>
      obtain ⟨key, value⟩ := field
      rw [sortedFields, ← later fun field listed => step field (List.mem_cons_of_mem _ listed),
        ← step (key, value) List.mem_cons_self]
      rfl
  | _ => rfl

/-- A plain document is plain in every order. -/
theorem isPlain_arranged {document : Document} {depth : Nat}
    (plain : document.isPlain depth = true) : (document.arranged order).isPlain depth = true := by
  induction document using byParts generalizing depth with
  | list items step =>
    simp only [arranged, isPlain, Bool.and_eq_true, arePlainItems_iff, arrangedItems_eq] at plain ⊢
    refine ⟨plain.1, fun item listed => ?_⟩
    obtain ⟨source, member, rfl⟩ := List.mem_map.mp listed
    exact step source member (plain.2 source member)
  | object fields step =>
    simp only [arranged, isPlain, Bool.and_eq_true, arePlainFields_iff, arrangedFields_eq] at plain ⊢
    refine ⟨plain.1, fun field listed => ?_⟩
    -- Whatever stands in the object is an arranged field: an order adds nothing.
    obtain ⟨source, member, rfl⟩ := List.mem_map.mp (order.subset _ listed)
    exact step source member (plain.2 source member)
  | _ => exact plain

/-- A value stands for nothing in every order or in none. -/
theorem isAbsent?_arranged (document : Document) :
    Source.isAbsent? (document.arranged order) = Source.isAbsent? document := by
  cases document <;> rfl

@[simp] theorem arranged_text (value : String) : (text value).arranged order = text value := rfl

@[simp] theorem arranged_bool (value : Bool) : (bool value).arranged order = bool value := rfl

/-- An object whose keys are distinct has its fields moved and their values arranged. -/
theorem arranged_object {fields : List (String × Document)}
    (distinct : (fields.map (·.1)).Nodup) : ∃ others, (object fields).arranged order = object others
      ∧ others.Perm (fields.map fun field => (field.1, field.2.arranged order)) := by
  refine ⟨_, rfl, ?_⟩
  rw [arrangedFields_eq]
  refine order.perm _ ?_
  rw [List.map_map]
  exact distinct

/-- Two fields with different keys stand in one of two orders. -/
theorem arranged_pair {first second : String} (different : first ≠ second)
    (one other : Document) :
    (object [(first, one), (second, other)]).arranged order
        = object [(first, one.arranged order), (second, other.arranged order)]
      ∨ (object [(first, one), (second, other)]).arranged order
        = object [(second, other.arranged order), (first, one.arranged order)] := by
  have distinct : ([(first, one), (second, other)].map Prod.fst).Nodup := by simpa using different
  obtain ⟨others, shown, moved⟩ := arranged_object order distinct
  rw [shown]
  -- Either the same field stands first, or the other one.
  match others, moved.length_eq with
  | [left, right], _ =>
    have among : left = (first, one.arranged order) ∨ left = (second, other.arranged order) := by
      simpa using moved.subset List.mem_cons_self
    rcases among with rfl | rfl
    · exact .inl (by simpa using moved)
    · have swapped := moved.trans (.swap _ _ _)
      exact .inr (by simpa using swapped)

/-- Under a key stands the arranged value of the field. -/
theorem lookup_arrangedValues (fields : List (String × Document)) (key : String) :
    (fields.map fun field => (field.1, field.2.arranged order)).lookup key
      = (fields.lookup key).map (arranged order) := by
  induction fields with
  | nil => rfl
  | cons field rest step =>
    obtain ⟨other, value⟩ := field
    by_cases here : key = other
    · simp [here]
    · simp [List.lookup_cons, beq_eq_false_iff_ne.mpr here, step]

section Fields

variable {fields : List (String × Option Document)}

/-- The fields of an object that is arranged. -/
def inOrder (fields : List (String × Option Document)) : List (String × Option Document) :=
  (order.move (arrangedFields order (given fields))).map fun field => (field.1, some field.2)

/-- The fields with a value are those that stand in the object. -/
theorem given_inOrder : given (inOrder order fields)
    = order.move (arrangedFields order (given fields)) := by
  rw [given, inOrder, List.filterMap_map]
  exact List.filterMap_some

/-- An object is arranged by putting its fields in order. -/
@[simp] theorem arranged_ofFields : (ofFields fields).arranged order = ofFields (inOrder order fields) := by
  show Document.object _ = Document.object (given (inOrder order fields))
  rw [given_inOrder]
  rfl

/-- The fields that stand in the object are the given ones, moved. -/
theorem given_inOrder_perm (distinct : (fields.map (·.1)).Nodup) :
    (given (inOrder order fields)).Perm
      ((given fields).map fun field => (field.1, field.2.arranged order)) := by
  rw [given_inOrder, arrangedFields_eq]
  refine order.perm _ ?_
  rw [List.map_map]
  exact given_nodup distinct

/-- Keys stay distinct in every order. -/
@[simp] theorem nodup_inOrder (distinct : (fields.map (·.1)).Nodup) :
    ((inOrder order fields).map (·.1)).Nodup := by
  have moved := (given_inOrder_perm order distinct).map (·.1)
  rw [given_inOrder, List.map_map] at moved
  rw [inOrder, List.map_map]
  exact moved.nodup_iff.mpr (given_nodup distinct)

/-- In every order, the arranged value of a field stands under its key. -/
@[simp] theorem lookup_inOrder (distinct : (fields.map (·.1)).Nodup) (key : String) :
    ((inOrder order fields).lookup key).join = (fields.lookup key).join.map (arranged order) := by
  have same := nodup_inOrder order distinct
  rw [← lookup_given same, Table.lookup_perm (given_inOrder_perm order distinct) (given_nodup same),
    lookup_arrangedValues, lookup_given distinct]

end Fields

/-- Images that are each read back are read back in order. -/
theorem mapM_map {α β : Type} {read : β → Option α} {image : α → β}
    (back : ∀ value, read (image value) = some value) (values : List α) :
    (values.map image).mapM read = some values := by
  induction values with
  | nil => rfl
  | cons value rest step => simp only [List.map_cons, List.mapM_cons, back, step]; rfl

/-- Images that are each read back are read back in whatever order they stand. -/
theorem mapM_perm {α β : Type} {read : β → Option α} {image : α → β}
    (back : ∀ value, read (image value) = some value) {values : List α} {images : List β}
    (moved : images.Perm (values.map image)) :
    ∃ others, images.mapM read = some others ∧ others.Perm values := by
  -- Wherever an image stands, what is read from it is the value it was made of.
  refine ⟨images.filterMap read, ?_, ?_⟩
  · have each : ∀ one ∈ images, ∃ value, one = image value := fun one listed => by
      obtain ⟨value, -, rfl⟩ := List.mem_map.mp (moved.mem_iff.mp listed)
      exact ⟨value, rfl⟩
    clear moved
    induction images with
    | nil => rfl
    | cons one rest step =>
      obtain ⟨value, rfl⟩ := each one List.mem_cons_self
      have later := step fun one listed => each one (List.mem_cons_of_mem _ listed)
      simp [back, later]
  · have whole := moved.filterMap read
    rwa [List.filterMap_map, show read ∘ image = some from funext back, List.filterMap_some] at whole

/-- A way of reading that undoes a way of writing in whatever order the fields of objects stand. As
with `Restores`, no value is written as nothing or needs more than `depth` lists and objects. -/
structure RestoresAnyOrder {α : Type} (read : Document → Option α) (write : α → Document)
    (depth : Nat) : Prop where
  /-- A written value is read back in every order. -/
  read_arranged : ∀ order value, read ((write value).arranged order) = some value
  /-- A written value does not stand for nothing. -/
  present : ∀ value, Source.isAbsent? (write value) = some false
  /-- A written value is plain. -/
  plain : ∀ value, (write value).isPlain depth = true

namespace RestoresAnyOrder

variable {α : Type} {read : Document → Option α} {write : α → Document} {depth : Nat}

/-- The order in which the fields were written is one of all. -/
theorem restores (restores : RestoresAnyOrder read write depth) : Restores read write depth where
  read_write value := by simpa using restores.read_arranged .asWritten value
  present := restores.present
  plain := restores.plain

/-- A field that is there is read back in every order. -/
theorem field?_some (restores : RestoresAnyOrder read write depth) (value : α) :
    Record.field? read (some ((write value).arranged order)) = some (some value) := by
  simp [Record.field?, Source.orAbsent?, isAbsent?_arranged, restores.present,
    restores.read_arranged]

/-- A field that may be missing is read back in every order. -/
theorem field?_map (restores : RestoresAnyOrder read write depth) (value : Option α) :
    Record.field? read (value.map (arranged order ∘ write)) = some value := by
  cases value with
  | none => rfl
  | some value => exact restores.field?_some order value

/-- A field that stands for nothing when there is no value is read back in every order. -/
theorem field?_getD (restores : RestoresAnyOrder read write depth) (value : Option α) :
    Record.field? read (some (((value.map write).getD .null).arranged order)) = some value := by
  cases value with
  | none => rfl
  | some value => exact restores.field?_some order value

/-- A field that stands for nothing when there is no value is plain. -/
theorem plain_getD (restores : RestoresAnyOrder read write depth) {deeper : Nat}
    (more : depth ≤ deeper) (value : Option α) :
    IsPlainField deeper (some ((value.map write).getD .null)) := by
  cases value with
  | none => exact fun _ held => Option.some.inj held ▸ rfl
  | some value => exact restores.restores.plain_some more value

/-- A field that is there is plain. -/
theorem plain_some (restores : RestoresAnyOrder read write depth) {deeper : Nat}
    (more : depth ≤ deeper) (value : α) : IsPlainField deeper (some (write value)) :=
  restores.restores.plain_some more value

/-- A field that may be missing is plain. -/
theorem plain_map (restores : RestoresAnyOrder read write depth) {deeper : Nat}
    (more : depth ≤ deeper) (value : Option α) : IsPlainField deeper (value.map write) :=
  restores.restores.plain_map more value

/-- More room does no harm. -/
theorem mono {deeper : Nat} (restores : RestoresAnyOrder read write depth) (more : depth ≤ deeper) :
    RestoresAnyOrder read write deeper :=
  ⟨restores.read_arranged, restores.present,
    fun value => isPlain_mono _ more (restores.plain value)⟩

/-- Texts have no fields. -/
theorem text : RestoresAnyOrder Source.text? Document.text 0 :=
  ⟨fun _ _ => rfl, fun _ => rfl, fun _ => rfl⟩

/-- Truth values have no fields. -/
theorem bool : RestoresAnyOrder Source.bool? Document.bool 0 :=
  ⟨fun _ _ => rfl, fun _ => rfl, fun _ => rfl⟩

/-- Lists are read back item by item. -/
theorem list (restores : RestoresAnyOrder read write depth) :
    RestoresAnyOrder (Source.list? read) (fun items => .list (items.map write)) (depth + 1) where
  read_arranged order items := by
    rw [arranged, arrangedItems_eq]
    show ((items.map write).map (arranged order)).mapM read = some items
    rw [List.map_map]
    exact mapM_map (restores.read_arranged order) items
  present _ := rfl
  plain items := by
    simp only [isPlain, Bool.and_eq_true, arePlainItems_iff]
    refine ⟨by simp, fun item listed => ?_⟩
    obtain ⟨value, -, rfl⟩ := List.mem_map.mp listed
    exact restores.plain value

/-- Tables are read back entry by entry. -/
theorem table (restores : RestoresAnyOrder read write depth) :
    RestoresAnyOrder (fun value => (Source.entries? read value).map Table.ofList)
      (fun table => .object (table.entries.map fun entry => (entry.1, write entry.2)))
      (depth + 1) where
  read_arranged order table := by
    let image (entry : String × α) : String × Document := (entry.1, (write entry.2).arranged order)
    let back (field : String × Document) : Option (String × α) := (read field.2).map (field.1, ·)
    have undone (entry : String × α) : back (image entry) = some entry := by
      simp [back, image, restores.read_arranged]
    -- What stands in the object are the images of the entries, moved.
    have distinct : ((table.entries.map fun entry => (entry.1, write entry.2)).map (·.1)).Nodup := by
      rw [List.map_map]
      exact table.entries_nodup
    obtain ⟨fields, shown, moved⟩ := arranged_object order distinct
    rw [List.map_map] at moved
    obtain ⟨entries, read_back, same⟩ := mapM_perm undone moved
    rw [shown]
    show (fields.mapM back).map Table.ofList = some table
    rw [read_back, Option.map_some, Table.ofList_perm same]
  present _ := rfl
  plain table := by
    refine isPlain_object fun field listed => ?_
    obtain ⟨entry, -, rfl⟩ := List.mem_map.mp listed
    exact restores.plain_some (Nat.le_refl depth) entry.2

end RestoresAnyOrder

end DatabaseLifecycle.Document
