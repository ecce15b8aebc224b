import DatabaseLifecycle.ControlPlane.Credentials
import DatabaseLifecycle.Proofs.Resource.Secret
import DatabaseLifecycle.Proofs.Text.Utf8

/-!
Secrets as the server of a cluster stores them, with every text turned into bytes. What such a secret
gives under its keys, and which credentials are made from it, is what the submitted one gives.
-/

namespace DatabaseLifecycle.Secret

/-- The bytes with one more text among them, in place of bytes under its key. -/
def withText (data : Option (Table (List UInt8))) (entry : String × String) :
    Option (Table (List UInt8)) :=
  some ((data.getD .empty).insert entry.1 entry.2.toUTF8.data.toList)

/-- The secret as the server stores it: each text is written into the bytes in its UTF-8 form, and
none is kept as a text. -/
def stored (secret : Secret) : Secret :=
  { secret with
    data := (secret.stringData.getD .empty).entries.foldl withText secret.data
    stringData := none }

/-- Of the texts that go into the bytes one after another the last under a key is found there, and
where there is none the bytes that were there before. -/
theorem find?_withTexts (texts : List (String × String)) (data : Option (Table (List UInt8)))
    (key : String) :
    (texts.foldl withText data).bind (·.find? key)
      = ((texts.reverse.lookup key).map (·.toUTF8.data.toList)).or (data.bind (·.find? key)) := by
  induction texts generalizing data with
  | nil => rfl
  | cons entry rest found =>
    obtain ⟨other, text⟩ := entry
    have written : (withText data (other, text)).bind (·.find? key)
        = if key = other then some text.toUTF8.data.toList else data.bind (·.find? key) := by
      rw [withText, Option.bind_some, Table.find?_insert]
      -- Where there are no bytes at all, a table is made that gives nothing else.
      cases data <;> rfl
    rw [List.foldl_cons, found, written, List.reverse_cons, List.lookup_append, List.lookup_cons,
      List.lookup_nil]
    -- The first text counts only if no later one has its key.
    cases rest.reverse.lookup key with
    | some later => rfl
    | none =>
      by_cases here : key = other
      · simp [here]
      · simp [here, beq_eq_false_iff_ne.mpr here]

variable (secret : Secret)

/-- A stored secret has no texts. -/
theorem text?_stored (key : String) : secret.stored.text? key = none := rfl

/-- The bytes that are stored under a key are read as what the secret gave there. -/
theorem decoded?_stored (key : String) :
    secret.stored.decoded? key = (secret.text? key).or (secret.decoded? key) := by
  have texts : (secret.stringData.getD .empty).entries.reverse.lookup key = secret.text? key := by
    rw [Table.lookup_reverse (Table.entries_nodup _), text?]
    cases secret.stringData <;> rfl
  rw [decoded?, stored, find?_withTexts, texts, decoded?]
  cases secret.text? key with
  | none => rfl
  | some text =>
    -- A text that was turned into bytes is read back from them.
    exact congrArg some (Text.Utf8.decodeLossy_toUTF8 text)

/-- Storing a secret changes none of its values. -/
theorem values_stored : secret.stored.values = secret.values := by
  apply Table.eq_of_find?
  intro key
  rw [find?_values, find?_values, text?_stored, decoded?_stored, Option.none_or]

/-- A key has an entry in a table that may be absent. -/
def HasKey {α : Type} (table : Option (Table α)) (key : String) : Prop :=
  ∃ entries value, table = some entries ∧ (key, value) ∈ entries.entries

/-- The keys with entries are those under which something is found. -/
theorem hasKey_iff {α : Type} {table : Option (Table α)} {key : String} :
    HasKey table key ↔ (table.bind (·.find? key)) ≠ none := by
  rw [Option.ne_none_iff_exists']
  constructor
  · rintro ⟨entries, value, rfl, listed⟩
    exact ⟨value, Table.find?_eq_some_iff.mpr listed⟩
  · rintro ⟨value, found⟩
    obtain ⟨entries, present, found⟩ := Option.bind_eq_some_iff.mp found
    exact ⟨entries, value, present, Table.find?_eq_some_iff.mp found⟩

/-- A secret has values under exactly the keys of its texts and its bytes: the text if there is one,
and otherwise what the bytes are read as. After it was stored it still has the same values, so the
same credentials are made from it, or they are refused for the same cause. -/
theorem values_survive_storing :
    (∀ key, HasKey (some secret.values) key ↔ HasKey secret.stringData key ∨ HasKey secret.data key)
      ∧ (∀ key, secret.values.find? key = (secret.stringData.bind (·.find? key)).or
          ((secret.data.bind (·.find? key)).map Text.Utf8.decodeLossy))
      ∧ secret.stored.values = secret.values
      ∧ ∀ name endpoint, Credentials.ofSecret name secret.stored.values endpoint
          = Credentials.ofSecret name secret.values endpoint := by
  refine ⟨?keys, secret.find?_values, secret.values_stored, ?credentials⟩
  case keys =>
    intro key
    rw [hasKey_iff, hasKey_iff, hasKey_iff, Option.bind_some, find?_values, text?, decoded?]
    cases secret.stringData.bind (·.find? key) <;> simp
  case credentials =>
    intro name endpoint
    rw [secret.values_stored]

end DatabaseLifecycle.Secret
