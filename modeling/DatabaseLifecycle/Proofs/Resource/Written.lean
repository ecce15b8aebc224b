import DatabaseLifecycle.Proofs.Document.Order
import DatabaseLifecycle.Proofs.Text.Base64
import DatabaseLifecycle.Resource.Kind

/-!
Every record of the cluster is read back from the document it is written as, whatever its fields
hold and in whatever order they stand.
-/

namespace DatabaseLifecycle

open Document (Restores RestoresAnyOrder)

/-- A whole number within the bounds is read as a number of 32 bits without sign. -/
theorem natural32?_integer {value : Int} (positive : 0 ≤ value) (small : value < UInt32.size) :
    Source.natural32? (Document.integer value) = some value.toNat.toUInt32 := by
  have within : (0 ≤ value && value < UInt32.size) = true := by
    rw [Bool.and_eq_true, decide_eq_true_eq, decide_eq_true_eq]
    exact ⟨positive, small⟩
  unfold Source.natural32?
  simp only [Source.integer?]
  exact if_pos within

/-- Numbers of 32 bits without sign are read back. -/
theorem natural32_restores : RestoresAnyOrder Source.natural32? Document.natural32 0 where
  read_arranged order number := by
    show Source.natural32? (Document.natural32 number) = some number
    have same : number.toNat.toUInt32 = number := UInt32.ofNat_toNat
    rw [Document.natural32, natural32?_integer (Int.natCast_nonneg _)
      (Int.ofNat_lt.mpr number.toNat_lt_size), Int.toNat_natCast, same]
  present _ := rfl
  plain number := by
    -- Thirty-two bits are within the bound for numbers that are written exactly.
    have small := number.toNat_lt
    have within : number.toNat < Document.sizeBound := by
      simp only [Document.sizeBound]
      omega
    simpa [Document.natural32, Document.isPlain] using within

/-- Numbers of 32 bits with sign are read back. -/
theorem integer32_restores :
    RestoresAnyOrder Source.integer32? (fun number : Int32 => .integer number.toInt) 0 where
  read_arranged order number := by
    show Source.integer32? (Document.integer number.toInt) = some number
    have below := number.le_toInt
    have above := number.toInt_lt
    have within : -2147483648 ≤ number.toInt ∧ number.toInt ≤ 2147483647 := by omega
    simp [Source.integer32?, Source.integer?, within, Int32.ofInt_toInt]
  present _ := rfl
  plain number := by
    have below := number.le_toInt
    have above := number.toInt_lt
    have within : number.toInt.natAbs < Document.sizeBound := by
      simp only [Document.sizeBound]
      omega
    simpa [Document.isPlain] using within

/-- Tables of texts are read back. -/
theorem Table.restores : RestoresAnyOrder Table.texts? Table.write 1 :=
  RestoresAnyOrder.table RestoresAnyOrder.text

/-- What a record says about itself is read back. -/
theorem Metadata.restores : RestoresAnyOrder Metadata.read? Metadata.write 2 where
  read_arranged order metadata := by
    simp [Metadata.read?, Metadata.write, Record.lenient?_ofFields, Record.last?_given,
      List.lookup_cons, RestoresAnyOrder.text.field?_map, Table.restores.field?_map]
  present _ := rfl
  plain metadata := by
    refine Document.isPlain_ofFields ?_
    simp [Restores.text.plain_map, Table.restores.plain_map]

/-- A service is read back. -/
theorem Service.restores : RestoresAnyOrder Service.read? Service.write 3 where
  read_arranged order service := by
    simp [Service.read?, Service.write, Record.lenient?_ofFields, Record.last?_given,
      Record.always_given, List.lookup_cons, Metadata.restores.field?_some]
  present _ := rfl
  plain service := by
    refine Document.isPlain_ofFields ?_
    simp [Restores.text.plain_some, Metadata.restores.plain_some]

/-- Bytes are read back from their Base64 form. -/
theorem Secret.bytes_restores :
    RestoresAnyOrder Secret.bytes? (fun bytes => .text (Text.Base64.encode bytes)) 0 where
  read_arranged _ bytes := Text.Base64.decode?_encode bytes
  present _ := rfl
  plain _ := rfl

/-- The bytes of a secret are read back. -/
theorem Secret.data_restores :
    RestoresAnyOrder (fun table => (Source.entries? Secret.bytes? table).map Table.ofList)
      (fun table => (table.map Text.Base64.encode).write) 1 := by
  -- Bytes are written as texts in Base64, so the table is one of texts.
  have entries : (fun table : Table (List UInt8) => (table.map Text.Base64.encode).write)
      = fun table => .object (table.entries.map fun entry =>
          (entry.1, .text (Text.Base64.encode entry.2))) := by
    funext table
    simp [Table.write, Table.map]
  rw [entries]
  exact RestoresAnyOrder.table bytes_restores

/-- A secret is read back. -/
theorem Secret.restores : RestoresAnyOrder Secret.read? Secret.write 3 where
  read_arranged order secret := by
    simp [Secret.read?, Secret.write, Record.lenient?_ofFields, Record.last?_given,
      Record.always_given, List.lookup_cons, Metadata.restores.field?_some, data_restores.field?_map,
      Table.restores.field?_map, RestoresAnyOrder.text.field?_map, RestoresAnyOrder.bool.field?_map]
  present _ := rfl
  plain secret := by
    refine Document.isPlain_ofFields ?_
    simp [Restores.text.plain_some, Restores.text.plain_map, Restores.bool.plain_map,
      Metadata.restores.plain_some, data_restores.plain_map, Table.restores.plain_map]

/-- The name of a value of a secret is read back. -/
theorem SecretKey.restores : RestoresAnyOrder SecretKey.read? SecretKey.write 1 where
  read_arranged order key := by
    simp [SecretKey.read?, SecretKey.write, Record.lenient?_ofFields, Record.last?_given,
      List.lookup_cons, Restores.text.field?_some]
  present _ := rfl
  plain key := by
    refine Document.isPlain_ofFields ?_
    simp [Restores.text.plain_some]

/-- Where a variable's value comes from is read back, with or without a secret. -/
theorem Variable.origin_restores :
    RestoresAnyOrder (fun origin => (Record.lenient? origin).bind
        fun record => record.last? "secretKeyRef" SecretKey.read?)
      (fun key : Option SecretKey => .ofFields [("secretKeyRef", key.map SecretKey.write)]) 2 where
  read_arranged order key := by
    simp [Record.lenient?_ofFields, Record.last?_given, SecretKey.restores.field?_map]
  present _ := rfl
  plain key := by
    refine Document.isPlain_ofFields ?_
    simp [SecretKey.restores.plain_map]

/-- A variable is read back. -/
theorem Variable.restores : RestoresAnyOrder Variable.read? Variable.write 3 where
  read_arranged order given := by
    have origin := origin_restores.field?_map order given.valueFrom
    simp [Variable.read?, Variable.write, Record.lenient?_ofFields, Record.last?_given,
      List.lookup_cons, Restores.text.field?_some, RestoresAnyOrder.text.field?_map, origin]
  present _ := rfl
  plain given := by
    refine Document.isPlain_ofFields ?_
    simp [Restores.text.plain_some, Restores.text.plain_map, origin_restores.plain_map]

/-- A port is read back. -/
theorem ContainerPort.restores : RestoresAnyOrder ContainerPort.read? ContainerPort.write 1 where
  read_arranged order port := by
    simp [ContainerPort.read?, ContainerPort.write, Record.lenient?_ofFields, Record.last?_given,
      List.lookup_cons, integer32_restores.field?_some, RestoresAnyOrder.text.field?_map]
  present _ := rfl
  plain port := by
    refine Document.isPlain_ofFields ?_
    simp [integer32_restores.plain_some, Restores.text.plain_map]

/-- A container is read back. -/
theorem Container.restores : RestoresAnyOrder Container.read? Container.write 5 where
  read_arranged order container := by
    simp [Container.read?, Container.write, Record.lenient?_ofFields, Record.last?_given,
      List.lookup_cons, Restores.text.field?_some, RestoresAnyOrder.text.field?_map,
      Variable.restores.list.field?_map, ContainerPort.restores.list.field?_map]
  present _ := rfl
  plain container := by
    refine Document.isPlain_ofFields ?_
    simp [Restores.text.plain_some, Restores.text.plain_map, Variable.restores.list.plain_map,
      ContainerPort.restores.list.plain_map]

/-- The containers of a pod's specification are read back. -/
theorem Pod.containers_restores :
    RestoresAnyOrder (fun spec => (Record.lenient? spec).bind fun record =>
        (record.last? "containers" (Source.list? Container.read?)).bind
          fun containers => some (containers.getD []))
      (fun containers => .ofFields [("containers", some (.list (containers.map Container.write)))])
      7 where
  read_arranged order containers := by
    simp [Record.lenient?_ofFields, Record.last?_given,
      Container.restores.list.field?_some]
  present _ := rfl
  plain containers := by
    refine Document.isPlain_ofFields ?_
    simp [Container.restores.list.plain_some]

/-- The phase of a pod's status is read back, if there is one. -/
theorem Pod.phase_restores :
    RestoresAnyOrder (fun status => (Record.lenient? status).bind
        fun record => record.last? "phase" Source.text?)
      (fun phase : Option String => .ofFields [("phase", phase.map .text)]) 1 where
  read_arranged order phase := by
    simp [Record.lenient?_ofFields, Record.last?_given, RestoresAnyOrder.text.field?_map]
  present _ := rfl
  plain phase := by
    refine Document.isPlain_ofFields ?_
    simp [Restores.text.plain_map]

/-- A pod is read back. -/
theorem Pod.restores : RestoresAnyOrder Pod.read? Pod.write 8 where
  read_arranged order pod := by
    have containers := containers_restores.field?_map order pod.containers
    have status := phase_restores.field?_map order pod.status
    simp [Pod.read?, Pod.write, Record.lenient?_ofFields, Record.last?_given, Record.always_given,
      List.lookup_cons, Metadata.restores.field?_some, containers, status]
  present _ := rfl
  plain pod := by
    refine Document.isPlain_ofFields ?_
    simp [Restores.text.plain_some, Metadata.restores.plain_some, containers_restores.plain_map,
      phase_restores.plain_map]

/-- What a server registration asks for is read back. -/
theorem ServerSpec.restores : RestoresAnyOrder ServerSpec.read? ServerSpec.write 1 where
  read_arranged order spec := by
    simp [ServerSpec.read?, ServerSpec.write, Record.read?_ofFields, Record.orDefault?_written,
      Record.required?_written, Record.optional?_written, List.lookup_cons, Restores.text.read_write,
      Restores.bool.read_write, RestoresAnyOrder.text.field?_map]
  present _ := rfl
  plain spec := by
    refine Document.isPlain_ofFields ?_
    simp [Restores.text.plain_some, Restores.bool.plain_some, Restores.text.plain_map]

/-- What is known of a registered server is read back. -/
theorem ServerStatus.restores : RestoresAnyOrder ServerStatus.read? ServerStatus.write 1 where
  read_arranged order status := by
    simp [ServerStatus.read?, ServerStatus.write, Record.read?_ofFields, Record.orDefault?_written,
      Record.optional?_written, List.lookup_cons, Restores.text.read_write,
      RestoresAnyOrder.text.field?_map]
  present _ := rfl
  plain status := by
    refine Document.isPlain_ofFields ?_
    simp [Restores.text.plain_some, Restores.text.plain_map]

/-- A server registration is read back. -/
theorem Server.restores : RestoresAnyOrder Server.read? Server.write 3 where
  read_arranged order server := by
    simp [Server.read?, Server.write, Record.readResource?, Record.read?_ofFields,
      Document.fields?_ofFields, Record.required?_written, Record.optional?_written, List.lookup_cons,
      Metadata.restores.read_arranged, ServerSpec.restores.read_arranged,
      ServerStatus.restores.field?_map]
  present _ := rfl
  plain server := by
    refine Document.isPlain_ofFields ?_
    simp [Restores.text.plain_some, Metadata.restores.plain_some, ServerSpec.restores.plain_some,
      ServerStatus.restores.plain_map]

/-- A text that is left out when it is empty is read back. -/
theorem Document.textUnlessEmpty_elim (order : Document.FieldOrder) (text : String) :
    (Document.textUnlessEmpty text).elim (some "") (Source.text? ∘ Document.arranged order)
      = some text := by
  unfold Document.textUnlessEmpty
  split
  case isTrue empty =>
    rw [String.isEmpty_iff.mp empty]
    rfl
  case isFalse => rfl

/-- A text that is left out when it is empty is plain. -/
theorem Document.textUnlessEmpty_plain (text : String) (depth : Nat) :
    Document.IsPlainField depth (Document.textUnlessEmpty text) := by
  unfold Document.textUnlessEmpty
  split
  · exact fun _ held => nomatch held
  · exact Restores.text.plain_some (Nat.zero_le depth) text

/-- A backup policy is read back. -/
theorem BackupPolicy.restores : RestoresAnyOrder BackupPolicy.read? BackupPolicy.write 1 where
  read_arranged order policy := by
    -- The kernel must not compute with the bound of the numbers, so every step is a lemma.
    simp -implicitDefEqProofs [BackupPolicy.read?, BackupPolicy.declared, BackupPolicy.write, Document.object_eq_ofFields,
      Record.read?_ofFields, Record.orDefault?_written, List.lookup_cons, Restores.text.read_write,
      natural32_restores.read_arranged]
  present _ := rfl
  plain policy := by
    refine Document.isPlain_object ?_
    simp [Restores.text.plain_some, natural32_restores.plain_some]

/-- The names of databases as they are written: left out when there are none. -/
def InstanceSpec.writtenNames (names : List String) : Option Document :=
  if names.isEmpty then none else some (.list (names.map .text))

/-- The names of databases are read back. -/
theorem InstanceSpec.writtenNames_elim (order : Document.FieldOrder) (names : List String) :
    (writtenNames names).elim (some []) (Source.list? Source.text? ∘ Document.arranged order)
      = some names := by
  cases names with
  | nil => rfl
  | cons name rest => exact RestoresAnyOrder.text.list.read_arranged order (name :: rest)

/-- The names of databases are plain. -/
theorem InstanceSpec.writtenNames_plain (names : List String) :
    Document.IsPlainField 1 (writtenNames names) := by
  cases names with
  | nil => exact fun _ held => nomatch held
  | cons name rest => exact RestoresAnyOrder.text.list.plain_some (Nat.le_refl 1) (name :: rest)

/-- What is asked of a fresh instance is read back. -/
theorem InstanceSpec.restores : RestoresAnyOrder InstanceSpec.read? InstanceSpec.write 2 := by
  have write : InstanceSpec.write = fun spec : InstanceSpec => .ofFields [
      ("name", some (.text spec.name)),
      ("description", some (.text spec.description)),
      ("clusterId", some (.text spec.clusterId)),
      ("databaseNames", writtenNames spec.databaseNames),
      ("credentialSecret", some (.text spec.credentialSecret)),
      ("size", some (.natural32 spec.size)),
      ("timezone", Document.textUnlessEmpty spec.timezone),
      ("type", some (.text spec.type)),
      ("timeMachine", spec.timeMachine.map BackupPolicy.write)] := rfl
  rw [write]
  refine ⟨fun order spec => ?_, fun _ => rfl, fun spec => Document.isPlain_ofFields ?_⟩
  · -- Again the kernel must not compute with the bound of the numbers.
    simp -implicitDefEqProofs [InstanceSpec.read?, InstanceSpec.declared, Record.read?_ofFields,
      Record.orDefault?_written, Record.required?_written, Record.optional?_written, List.lookup_cons,
      Restores.text.read_write, natural32_restores.read_arranged, writtenNames_elim,
      Document.textUnlessEmpty_elim, BackupPolicy.restores.field?_map]
  · simp [Restores.text.plain_some, natural32_restores.plain_some, writtenNames_plain,
      Document.textUnlessEmpty_plain, BackupPolicy.restores.plain_map]

/-- What is asked of a clone is read back. -/
theorem CloneSpec.restores : RestoresAnyOrder CloneSpec.read? CloneSpec.write 1 where
  read_arranged order spec := by
    simp [CloneSpec.read?, CloneSpec.declared, CloneSpec.write, Record.read?_ofFields, Record.orDefault?_written,
      Record.required?_written, List.lookup_cons, Restores.text.read_write,
      Document.textUnlessEmpty_elim]
  present _ := rfl
  plain spec := by
    refine Document.isPlain_ofFields ?_
    simp [Restores.text.plain_some, Document.textUnlessEmpty_plain]

/-- A specification is read from the name of the server and the part for the mode, whichever of the
two stands first. -/
theorem DatabaseSpec.readWithin?_arranged (order : Document.FieldOrder) (around : Nat)
    (serverRef : String) {key : String} {part : Document} {mode : DatabaseMode}
    (different : "serverRef" ≠ key) (named : key ∈ DatabaseMode.keys) {depth : Nat}
    (plain : part.isPlain depth = true) (shallow : depth ≤ Document.openDepth - around)
    (back : DatabaseMode.read? key (part.arranged order) = some mode) :
    DatabaseSpec.readWithin? around
        ((Document.object [("serverRef", .text serverRef), (key, part)]).arranged order)
      = some ⟨serverRef, mode⟩ := by
  -- The part is kept whole first and read afterwards.
  have kept : DatabaseMode.kept? around key (part.arranged order) = some (part.arranged order) :=
    Document.document?_of_isPlain _ (Document.isPlain_arranged order plain) shallow
  have either := Document.arranged_pair order different (.text serverRef) part
  rcases either with shown | shown <;>
    simp [DatabaseSpec.readWithin?, shown, Source.fields?, Record.ofEntries?, Record.hasRepeats,
      Record.required?, Source.text?, different.symm, kept, named, back]

/-- What a database record asks for is read back, be it an instance or a clone, by itself and in the
record. -/
theorem DatabaseSpec.restoresWithin {around : Nat} (shallow : around ≤ 2) :
    RestoresAnyOrder (DatabaseSpec.readWithin? around) DatabaseSpec.write 3 where
  read_arranged order spec := by
    obtain ⟨serverRef, mode⟩ := spec
    -- The deepest part has two lists or objects, far fewer than are left.
    have deep : 2 ≤ Document.openDepth - around := by unfold Document.openDepth; omega
    cases mode with
    | fresh fresh =>
      refine readWithin?_arranged order around serverRef (by decide) (by decide)
        (InstanceSpec.restores.plain fresh) deep ?_
      simp [DatabaseMode.read?, InstanceSpec.restores.read_arranged]
    | clone clone =>
      refine readWithin?_arranged order around serverRef (by decide) (by decide)
        (CloneSpec.restores.plain clone) (Nat.le_of_succ_le deep) ?_
      simp [DatabaseMode.read?, CloneSpec.restores.read_arranged]
  present _ := rfl
  plain spec := by
    obtain ⟨serverRef, mode⟩ := spec
    cases mode with
    | fresh fresh =>
      simp [DatabaseSpec.write, Document.isPlain, Document.arePlainFields,
        InstanceSpec.restores.plain]
    | clone clone =>
      have plain := Document.isPlain_mono _ (Nat.le_succ 1) (CloneSpec.restores.plain clone)
      simp [DatabaseSpec.write, Document.isPlain, Document.arePlainFields, plain]

/-- What is known of a database is read back. -/
theorem DatabaseStatus.restores : RestoresAnyOrder DatabaseStatus.read? DatabaseStatus.write 1 where
  read_arranged order status := by
    simp [DatabaseStatus.read?, DatabaseStatus.write, Record.read?_ofFields,
      Record.orDefault?_written, List.lookup_cons, Restores.text.read_write,
      Document.textUnlessEmpty_elim]
  present _ := rfl
  plain status := by
    refine Document.isPlain_ofFields ?_
    simp [Restores.text.plain_some, Document.textUnlessEmpty_plain]

/-- A database record is read back. -/
theorem Database.restores : RestoresAnyOrder Database.read? Database.write 4 where
  read_arranged order database := by
    simp [Database.read?, Database.write, Record.readResource?, Record.read?_ofFields,
      Document.fields?_ofFields, Record.required?_written, Record.optional?_written, List.lookup_cons,
      Metadata.restores.read_arranged, (DatabaseSpec.restoresWithin (Nat.le_refl 2)).read_arranged,
      DatabaseStatus.restores.field?_map]
  present _ := rfl
  plain database := by
    refine Document.isPlain_ofFields ?_
    simp [Restores.text.plain_some, Metadata.restores.plain_some, (DatabaseSpec.restoresWithin (Nat.le_refl 2)).plain_some,
      DatabaseStatus.restores.plain_map]

namespace Kind

/-- Every record of every kind is read back in every order. -/
theorem restores_anyOrder (kind : Kind) : RestoresAnyOrder kind.read? kind.write 8 := by
  -- A pod is the deepest of all records.
  cases kind with
  | secret => exact Secret.restores.mono (by decide)
  | server => exact Server.restores.mono (by decide)
  | database => exact Database.restores.mono (by decide)
  | pod => exact Pod.restores
  | service => exact Service.restores.mono (by decide)

/-- Every record of every kind is read back. -/
theorem restores (kind : Kind) : Restores kind.read? kind.write 8 := kind.restores_anyOrder.restores

/-- The text of a record is read as the record. -/
theorem read_writtenText (kind : Kind) (record : kind.Record) :
    Json.read (Json.write (kind.write record)) >>= kind.read? = some record := by
  rw [Json.read_write (kind.restores.plain record), Option.bind_eq_bind, Option.bind_some,
    kind.restores.read_write]

end Kind

end DatabaseLifecycle
