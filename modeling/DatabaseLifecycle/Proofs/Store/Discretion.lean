import DatabaseLifecycle.Proofs.Coupling
import DatabaseLifecycle.Proofs.Store.Locality
import DatabaseLifecycle.Proofs.Workflow.Concealment

/-!
Stores that do not tell passwords apart: calls that are the same but for passwords get replies that are.
A record map is such a store.
-/

namespace DatabaseLifecycle

/-- Two secrets have the same values but for their passwords, which are not empty. -/
structure Secret.Interchangeable (first second : Secret) : Prop where
  /-- The other values are the same. -/
  others : ∀ key, key ≠ Credentials.passwordKey → first.values.find? key = second.values.find? key
  /-- Both have a password. -/
  passwords : ∃ password other, password ≠ "" ∧ other ≠ ""
    ∧ first.values.find? Credentials.passwordKey = some password
    ∧ second.values.find? Credentials.passwordKey = some other

namespace Call

/-- Whether a call hands over no password and gets none. -/
def IsPlain : Call → Prop
  | create kind _ | fetch kind _ _ => kind ≠ .secret
  | connect _ => False
  | delete _ _ _ | lookup _ | sleep _ | log _ => True

/-- Whether provisioning may make a call. -/
def OfProvisioning : Call → Prop
  | fetch kind _ _ => kind ≠ .secret
  | create _ _ | sleep _ | log _ => True
  | delete _ _ _ | connect _ | lookup _ => False

/-- Whether resolution may make a call. -/
def OfResolution : Call → Prop
  | fetch _ _ _ | connect _ | lookup _ | log _ => True
  | create _ _ | delete _ _ _ | sleep _ => False

/-- Replies to two calls that are the same but for passwords: a submitted secret is accepted or refused in
both cases, and where a secret is fetched the two may have different passwords. -/
inductive RepliesAlike : (first second : Call) → first.Reply → second.Reply → Prop where
  | same (call : Call) (reply : call.Reply) : RepliesAlike call call reply reply
  | submitted (first second : Secret) (reply answer : Except Error Secret)
      (alike : failure? reply = failure? answer) :
      RepliesAlike (create .secret first) (create .secret second) reply answer
  | fetched (namespaceName name : String) (first second : Secret)
      (alike : first.Interchangeable second) :
      RepliesAlike (fetch .secret namespaceName name) (fetch .secret namespaceName name)
        (.ok first) (.ok second)
  | connected (first second : Credentials) (reply : Except Error Unit) :
      RepliesAlike (connect first) (connect second) reply reply

/-- Replies without passwords are the same. -/
theorem RepliesAlike.eq_of_isPlain {call : Call} {reply answer : call.Reply}
    (alike : RepliesAlike call call reply answer) (plain : call.IsPlain) : reply = answer := by
  cases alike with
  | same => rfl
  | submitted => exact absurd rfl plain
  | fetched => exact absurd rfl plain
  | connected => exact plain.elim

/-- A submission is refused for the same cause, if it is refused. -/
theorem RepliesAlike.failure?_eq {kind : Kind} {record other : kind.Record}
    {reply answer : Except Error kind.Record}
    (alike : RepliesAlike (create kind record) (create kind other) reply answer) :
    failure? reply = failure? answer := by
  cases alike with
  | same => rfl
  | submitted _ _ _ _ alike => exact alike

/-- Runs that make only some calls, compared without their passwords. -/
def concealing (among : Call → Prop) : Coupling Call.interface where
  call first second := among first ∧ first.concealed = second.concealed
  reply := RepliesAlike

end Call

/-- Two runs of provisioning, compared without their passwords. -/
abbrev Coupling.provisioning : Coupling Call.interface := Call.concealing Call.OfProvisioning

/-- Two runs of resolution, compared without their passwords. -/
abbrev Coupling.resolution : Coupling Call.interface := Call.concealing Call.OfResolution

/-- Two maps have the same records, and related secrets. -/
structure RecordMap.SameButSecrets (related : Option Secret → Option Secret → Prop)
    (first second : RecordMap) : Prop where
  /-- Records of other kinds are the same. -/
  others : ∀ kind, kind ≠ .secret → ∀ key, first.get? kind key = second.get? kind key
  /-- Secrets are related. -/
  secrets : ∀ key, related (first.get? .secret key) (second.get? .secret key)

/-- Either both secrets are there, or none is. -/
def Secret.BothThere (first second : Option Secret) : Prop := first.isSome = second.isSome

/-- The two secrets are the same, or they differ in their passwords only. -/
def Secret.Indistinct (first second : Option Secret) : Prop :=
  first = second
    ∨ ∃ one other, first = some one ∧ second = some other ∧ one.Interchangeable other

/-- A map has the same records as itself. -/
theorem RecordMap.SameButSecrets.refl (records : RecordMap) :
    SameButSecrets Secret.BothThere records records := ⟨fun _ _ _ => rfl, fun _ => rfl⟩

/-- A secret that is put into a map can be told apart from another one only by its password. -/
theorem RecordMap.SameButSecrets.insert (records : RecordMap) (key : RecordKey) {one other : Secret}
    (alike : one.Interchangeable other) :
    SameButSecrets Secret.Indistinct (records.insert .secret key one)
      (records.insert .secret key other) := by
  -- Records that are no secrets stay, and so do secrets under other keys.
  constructor
  · intro kind ordinary wanted
    rw [get?_insert_of_ne (Ne.symm ordinary), get?_insert_of_ne (Ne.symm ordinary)]
  · intro wanted
    rw [get?_insert, get?_insert]
    by_cases here : wanted = key
    · rw [if_pos here, if_pos here]
      exact Or.inr ⟨one, other, rfl, rfl, alike⟩
    · rw [if_neg here, if_neg here]
      exact Or.inl rfl

namespace Call

/-- Concealing does not change what is to be concealed. -/
theorem isPlain_concealed (call : Call) : call.concealed.IsPlain ↔ call.IsPlain := by
  cases call <;> exact Iff.rfl

/-- Concealing a call without passwords changes nothing. -/
theorem concealed_of_isPlain {call : Call} (plain : call.IsPlain) : call.concealed = call := by
  -- Passwords are handed over with secrets and with credentials only.
  cases call with
  | create kind record =>
    cases kind with
    | secret => exact absurd rfl plain
    | server | database | pod | service => rfl
  | connect credentials => exact plain.elim
  | fetch _ _ _ | delete _ _ _ | lookup _ | sleep _ | log _ => rfl

/-- A call without passwords is no other one without its passwords. -/
theorem eq_of_concealed {call other : Call} (plain : call.IsPlain)
    (same : call.concealed = other.concealed) : call = other := by
  have also : other.IsPlain := by rwa [← isPlain_concealed, ← same, isPlain_concealed]
  rw [← concealed_of_isPlain plain, same, concealed_of_isPlain also]

/-- A submitted secret is no call but the submission of another one without its password. -/
theorem create_of_concealed {secret : Secret} {call : Call}
    (same : (create .secret secret).concealed = call.concealed) :
    ∃ other : Secret, call = create .secret other ∧ secret.concealed = other.concealed := by
  cases call with
  | create kind other =>
    cases kind with
    | secret => exact ⟨other, rfl, eq_of_heq (create.inj same).2⟩
    | server | database | pod | service => cases (create.inj same).1
  | fetch _ _ _ | delete _ _ _ | connect _ | lookup _ | sleep _ | log _ => cases same

/-- What provisioning does without handing over a password is not about a secret. -/
theorem ne_secret_of_touches {call : Call} (among : call.OfProvisioning) (plain : call.IsPlain)
    {kind : Kind} {key : RecordKey} (touches : call.Touches kind key) : kind ≠ .secret := by
  -- Only submissions and requests are about records here, and a plain one is not about a secret.
  cases call with
  | create other record =>
    rcases touches with creates | fetches | deletes
    · exact creates.1 ▸ plain
    · exact fetches.elim
    · exact deletes.elim
  | fetch other namespaceName name =>
    rcases touches with creates | fetches | deletes
    · exact creates.elim
    · exact fetches.1 ▸ plain
    · exact deletes.elim
  | delete _ _ _ => exact among.elim
  | connect _ | lookup _ | sleep _ | log _ => cases touches.isStoreCall

end Call

namespace Rehearsal

/-- A record map treats submitted secrets alike if they are to lie under one key. -/
theorem submitted_alike {first second : RecordMap} {secret other : Secret}
    (hidden : RecordMap.SameButSecrets Secret.BothThere first second)
    (same : Kind.secret.metadata secret = Kind.secret.metadata other) :
    Call.RepliesAlike (.create .secret secret) (.create .secret other)
        (plain (.create .secret secret) first).1 (plain (.create .secret other) second).1
      ∧ RecordMap.SameButSecrets Secret.BothThere (plain (.create .secret secret) first).2
        (plain (.create .secret other) second).2 := by
  have there := hidden.secrets (.ofMetadata (Kind.secret.metadata other))
  rw [plain_create, plain_create, same]
  generalize RecordKey.ofMetadata (Kind.secret.metadata other) = key at there ⊢
  -- The key is free in both maps, or it is taken in both.
  cases found : first.get? .secret key with
  | some kept =>
    cases also : second.get? .secret key with
    | some _ => exact ⟨.submitted _ _ _ _ rfl, hidden⟩
    | none =>
      rw [found, also] at there
      cases there
  | none =>
    cases also : second.get? .secret key with
    | some _ =>
      rw [found, also] at there
      cases there
    | none =>
      refine ⟨.submitted _ _ _ _ rfl, fun kind ordinary wanted => ?_, fun wanted => ?_⟩
      · dsimp only
        rw [RecordMap.get?_insert_of_ne (Ne.symm ordinary),
          RecordMap.get?_insert_of_ne (Ne.symm ordinary)]
        exact hidden.others kind ordinary wanted
      · dsimp only
        rw [RecordMap.get?_insert, RecordMap.get?_insert]
        by_cases here : wanted = key
        · rw [if_pos here, if_pos here]
          rfl
        · rw [if_neg here, if_neg here]
          exact hidden.secrets wanted

/-- In a record map what provisioning can see does not depend on the contents of submitted secrets. -/
theorem heldBy_provisioning :
    Coupling.provisioning.HeldBy plain plain (RecordMap.SameButSecrets Secret.BothThere) := by
  rintro call other ⟨among, same⟩ first second hidden
  by_cases ordinary : call.IsPlain
  · -- The call is the same in both runs, and it is not about secrets.
    obtain rfl := Call.eq_of_concealed ordinary same
    have replied : (plain call first).1 = (plain call second).1 :=
      LocalStore.rehearsed.determined call first second fun kind key touches =>
        hidden.others kind (Call.ne_secret_of_touches among ordinary touches) key
    have answers := answers_plain call second
    rw [← replied] at answers
    refine ⟨replied ▸ .same call _, fun kind ordinary key => ?_, fun key => ?_⟩
    · exact RecordMap.get?_congr ⟨call, (plain call first).1⟩ (answers_plain call first) answers
        (hidden.others kind ordinary key)
    · have untouched : ¬ call.Touches .secret key := fun touches =>
        Call.ne_secret_of_touches among ordinary touches rfl
      rw [RecordMap.get?_of_untouched ⟨call, _⟩ (answers_plain call first) untouched,
        RecordMap.get?_of_untouched ⟨call, _⟩ answers untouched]
      exact hidden.secrets key
  · cases call with
    | create kind record =>
      obtain rfl : kind = .secret := Classical.byContradiction ordinary
      obtain ⟨other, rfl, shown⟩ := Call.create_of_concealed same
      have described := congrArg Secret.metadata shown
      exact submitted_alike hidden described
    | fetch kind _ _ => exact absurd among ordinary
    | delete _ _ _ | connect _ | lookup _ => exact among.elim
    | sleep _ | log _ => exact absurd trivial ordinary

/-- In a record map resolution sees nothing of a password but what it hands over. -/
theorem heldBy_resolution :
    Coupling.resolution.HeldBy plain plain (RecordMap.SameButSecrets Secret.Indistinct) := by
  rintro call other ⟨among, same⟩ first second hidden
  cases call with
  | create _ _ | delete _ _ _ | sleep _ => exact among.elim
  | lookup wanted =>
    obtain rfl := Call.eq_of_concealed (show (Call.lookup wanted).IsPlain from trivial) same
    exact ⟨.same _ _, hidden⟩
  | log line =>
    obtain rfl := Call.eq_of_concealed (show (Call.log line).IsPlain from trivial) same
    exact ⟨.same _ _, hidden⟩
  | connect credentials =>
    cases other with
    | connect others => exact ⟨.connected credentials others (.ok ()), hidden⟩
    | create _ _ | fetch _ _ _ | delete _ _ _ | lookup _ | sleep _ | log _ => cases same
  | fetch kind namespaceName name =>
    obtain rfl : Call.fetch kind namespaceName name = other := by
      cases other with
      | fetch _ _ _ => exact same
      | create _ _ | connect _ | delete _ _ _ | lookup _ | sleep _ | log _ => cases same
    rw [plain_fetch, plain_fetch]
    by_cases ordinary : kind = .secret
    · subst ordinary
      -- The two secrets are the same, or they are shown with different passwords.
      rcases hidden.secrets (.of namespaceName name) with same | ⟨one, another, here, there, alike⟩
      · rw [same]
        exact ⟨.same _ _, hidden⟩
      · rw [here, there]
        exact ⟨.fetched _ _ one another alike, hidden⟩
    · rw [hidden.others kind ordinary]
      exact ⟨.same _ _, hidden⟩

end Rehearsal

end DatabaseLifecycle
