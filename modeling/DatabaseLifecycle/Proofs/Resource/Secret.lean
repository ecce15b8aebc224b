import DatabaseLifecycle.Proofs.Document.Table
import DatabaseLifecycle.Resource.Secret

/-! What stands under a key of a secret: as a text or as bytes, before and after texts are injected. -/

namespace DatabaseLifecycle.Secret

variable (secret : Secret)

/-- The value given as a text under a key. -/
def text? (key : String) : Option String := secret.stringData.bind (·.find? key)

/-- The value given as bytes under a key, read as a text. -/
def decoded? (key : String) : Option String :=
  (secret.data.bind (·.find? key)).map Text.Utf8.decodeLossy

/-- A text wins over bytes under the same key. -/
theorem find?_values (key : String) :
    secret.values.find? key = (secret.text? key).or (secret.decoded? key) := by
  rw [values, Table.find?_overriddenBy, Table.find?_map, text?, decoded?]
  -- Without a table there is nothing to be found, as in an empty one.
  cases secret.stringData <;> cases secret.data <;> rfl

/-- Of the injected texts the last under a key is found, and where there is none the text that was
there before. -/
theorem text?_inject (values : List (String × String)) (key : String) :
    (secret.inject values).text? key = (values.reverse.lookup key).or (secret.text? key) := by
  have inserted := Table.find?_inserted values (secret.stringData.getD .empty) key
  have before : (secret.stringData.getD .empty).find? key = secret.text? key := by
    rw [text?]
    cases secret.stringData <;> rfl
  rw [before] at inserted
  exact inserted

/-- The injected texts are among the values, and under all other keys there is what was there before. -/
theorem find?_values_inject (values : List (String × String)) (key : String) :
    (secret.inject values).values.find? key
      = (values.reverse.lookup key).or (secret.values.find? key) := by
  have decoded : (secret.inject values).decoded? key = secret.decoded? key := rfl
  rw [find?_values, text?_inject, decoded, Option.or_assoc, ← find?_values]

/-- Texts that are injected under the same keys replace those that were injected first. -/
theorem inject_inject {first second : List (String × String)}
    (keys : first.map Prod.fst = second.map Prod.fst) :
    (secret.inject first).inject second = secret.inject second := by
  let put (values : List (String × String)) (table : Table String) : Table String :=
    values.foldl (fun table entry => table.insert entry.1 entry.2) table
  have replaced (table : Table String) : put second (put first table) = put second table := by
    apply Table.eq_of_find?
    intro key
    rw [Table.find?_inserted, Table.find?_inserted, Table.find?_inserted]
    cases later : second.reverse.lookup key with
    | some value => rfl
    | none =>
      -- A key that is not among the second texts is not among the first ones either.
      have earlier : first.reverse.lookup key = none := by
        rw [List.lookup_eq_none_iff] at later ⊢
        intro entry listed
        have named : entry.1 ∈ second.map Prod.fst := by
          rw [← keys]
          exact List.mem_map_of_mem (List.mem_reverse.mp listed)
        obtain ⟨other, among, same⟩ := List.mem_map.mp named
        rw [← same]
        exact later other (List.mem_reverse.mpr among)
      rw [earlier]
      rfl
  have filled := replaced (secret.stringData.getD .empty)
  exact congrArg (fun table => { secret with stringData := some table }) filled

end DatabaseLifecycle.Secret
