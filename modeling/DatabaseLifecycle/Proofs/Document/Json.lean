import DatabaseLifecycle.Document.Json
import DatabaseLifecycle.Proofs.Text.Utf8

/-!
JSON text reads back as the document it was written from, as long as the document holds only what
the notation can say exactly: no scaled numbers and no numbers beyond 64 bits.
-/

namespace DatabaseLifecycle

namespace Document

/-- The bound below which the sizes of whole numbers lie that are written exactly: they have 64
bits. -/
def sizeBound : Nat := 18446744073709551616

mutual

/-- Whether the document is read back from its text, with no more than `depth` lists and objects
inside one another. -/
def isPlain (depth : Nat) : Document → Bool
  | .integer value => value.natAbs < sizeBound
  | .decimal _ => false
  | .unreadable => false
  | .list items => 0 < depth && arePlainItems (depth - 1) items
  | .object fields => 0 < depth && arePlainFields (depth - 1) fields
  | _ => true

/-- Whether every item is read back within the depth. -/
def arePlainItems (depth : Nat) : List Document → Bool
  | [] => true
  | item :: rest => isPlain depth item && arePlainItems depth rest

/-- Whether every field's value is read back within the depth. -/
def arePlainFields (depth : Nat) : List (String × Document) → Bool
  | [] => true
  | (_, value) :: rest => isPlain depth value && arePlainFields depth rest

end

/-- What every document has that has it as soon as its parts have it. -/
@[elab_as_elim]
theorem byParts {motive : Document → Prop} (null : motive .null)
    (bool : ∀ value, motive (.bool value)) (integer : ∀ value, motive (.integer value))
    (decimal : ∀ literal, motive (.decimal literal)) (text : ∀ value, motive (.text value))
    (unreadable : motive .unreadable)
    (list : ∀ items, (∀ item ∈ items, motive item) → motive (.list items))
    (object : ∀ fields, (∀ field ∈ fields, motive field.2) → motive (.object fields)) :
    (document : Document) → motive document
  | .null => null
  | .bool value => bool value
  | .integer value => integer value
  | .decimal literal => decimal literal
  | .text value => text value
  | .unreadable => unreadable
  | .list items => list items fun item _ =>
    byParts null bool integer decimal text unreadable list object item
  | .object fields => object fields fun field _ =>
    byParts null bool integer decimal text unreadable list object field.2
termination_by document => sizeOf document
decreasing_by
  · have := List.sizeOf_lt_of_mem ‹item ∈ items›
    simp only [Document.list.sizeOf_spec]
    omega
  · have := List.sizeOf_lt_of_mem ‹field ∈ fields›
    obtain ⟨key, value⟩ := field
    simp only [Document.object.sizeOf_spec, Prod.mk.sizeOf_spec] at *
    omega

/-- The items are read back when each of them is. -/
theorem arePlainItems_iff {depth : Nat} {items : List Document} :
    arePlainItems depth items = true ↔ ∀ item ∈ items, item.isPlain depth = true := by
  induction items with
  | nil => simp [arePlainItems]
  | cons item rest step => simp [arePlainItems, step]

/-- The fields are read back when each of their values is. -/
theorem arePlainFields_iff {depth : Nat} {fields : List (String × Document)} :
    arePlainFields depth fields = true ↔ ∀ field ∈ fields, field.2.isPlain depth = true := by
  induction fields with
  | nil => simp [arePlainFields]
  | cons field rest step => simp [arePlainFields, step]

end Document

namespace Json

/-! ### Texts -/

/-- Four hexadecimal digits are read the same whatever follows them. -/
theorem readUnit_append {text left : List Char} {unit : Nat}
    (read : readUnit text = some (unit, left)) (rest : List Char) :
    readUnit (text ++ rest) = some (unit, left ++ rest) := by
  match text, read with
  | a :: b :: c :: d :: others, read =>
    simp only [readUnit, List.cons_append, Option.bind_eq_bind, Option.bind_eq_some_iff,
      Option.pure_def, Option.some.injEq, Prod.mk.injEq] at read ⊢
    obtain ⟨first, firstRead, second, secondRead, third, thirdRead, last, lastRead, rfl, rfl⟩ :=
      read
    exact ⟨first, firstRead, second, secondRead, third, thirdRead, last, lastRead, rfl, rfl⟩

/-- The digits of the escape of a character that does not show. -/
def paddedDigits (code : Nat) : List Char :=
  List.replicate (4 - (Text.hexDigits code).length) '0' ++ Text.hexDigits code

/-- The digits of such an escape are read as the character's code. -/
theorem readUnit_paddedDigits : ∀ code < 0x20, readUnit (paddedDigits code) = some (code, []) := by
  decide

/-- A written character is read back, and reading goes on behind it. -/
theorem readText_writtenChar (character : Char) (fuel : Nat) (rest : List Char) :
    readText (fuel + 1) (writtenChar character ++ rest)
      = (readText fuel rest).map fun read => (read.1.map (character :: ·), read.2) := by
  unfold writtenChar
  split
  case h_8 notQuote notBackslash _ _ _ _ _ =>
    split
    case isTrue control =>
      -- The escape gives the code of the character, which is no half of a pair.
      have unit : readUnit (paddedDigits character.toNat ++ rest) = some (character.toNat, rest) :=
        readUnit_append (readUnit_paddedDigits _ control) rest
      have whole : character.toNat < 0xD800 := by omega
      have same : Char.ofNat character.toNat = character := Char.ofNat_toNat character
      simp only [paddedDigits, List.append_assoc] at unit
      cases behind : readText fuel rest <;> simp [readText, unit, whole, same, behind]
    case isFalse shown =>
      -- The character stands for itself: it is neither a quote nor a backslash.
      have plain : ¬(character.toNat < 0x20 || character == '\\') = true := by
        simpa [shown] using notBackslash
      rw [List.singleton_append, readText, if_neg plain]
      · cases behind : readText fuel rest <;> simp
      · exact notQuote
      · exact fun _ slash _ => notBackslash slash
      · exact fun _ _ slash _ => notBackslash slash
  all_goals cases behind : readText fuel rest <;> simp [readText, escaped?, behind]

/-- The characters of a text are read back up to its closing quote. -/
theorem readText_written (characters : List Char) :
    ∀ (fuel : Nat) (rest : List Char), characters.length < fuel →
      readText fuel (characters.flatMap writtenChar ++ '"' :: rest)
        = some (some characters, rest) := by
  -- Each character takes one step, and so does the closing quote.
  induction characters with
  | nil =>
    intro fuel rest enough
    obtain ⟨fuel, rfl⟩ : ∃ less, fuel = less + 1 := ⟨fuel - 1, by omega⟩
    simp [readText]
  | cons character others step =>
    intro fuel rest enough
    obtain ⟨fuel, rfl⟩ : ∃ less, fuel = less + 1 := ⟨fuel - 1, by omega⟩
    have shorter : others.length < fuel := by simpa using enough
    rw [List.flatMap_cons, List.append_assoc, readText_writtenChar, step fuel rest shorter]
    rfl

/-! ### Numbers -/

/-- What may stand behind a value: nothing, or the sign that the value is over. -/
def Follows (rest : List Char) : Prop := ∀ next ∈ rest.head?, next ∈ [',', ']', '\x7d']

/-- A sign behind a value is no digit. -/
theorem Follows.not_digit {rest : List Char} (follows : Follows rest) :
    ∀ next ∈ rest.head?, next.isDigit = false := by
  intro next first
  have sign := follows next first
  simp only [List.mem_cons, List.not_mem_nil, or_false] at sign
  rcases sign with rfl | rfl | rfl <;> rfl

/-- The digits of a number are taken up to what follows them. -/
theorem takeWhile_digits (number : Nat) {rest : List Char}
    (behind : ∀ next ∈ rest.head?, next.isDigit = false) :
    (Nat.toDigits 10 number ++ rest).takeWhile Char.isDigit = Nat.toDigits 10 number
      ∧ (Nat.toDigits 10 number ++ rest).dropWhile Char.isDigit = rest := by
  have digits : ∀ digit ∈ Nat.toDigits 10 number, digit.isDigit = true :=
    fun digit listed => Nat.isDigit_of_mem_toDigits (by decide) (by decide) listed
  -- What follows does not begin with a digit, so the digits end where the number does.
  have stop : rest.takeWhile Char.isDigit = [] ∧ rest.dropWhile Char.isDigit = rest := by
    cases rest with
    | nil => exact ⟨rfl, rfl⟩
    | cons next others => simp [behind next rfl]
  rw [List.takeWhile_append_of_pos digits, List.dropWhile_append_of_pos digits, stop.1, stop.2]
  exact ⟨List.append_nil _, rfl⟩

/-- A number is written as a digit and perhaps others, and only zero begins with zero. -/
theorem toDigits_cons (number : Nat) : ∃ first others, Nat.toDigits 10 number = first :: others
    ∧ first.isDigit = true ∧ (first = '0' → number = 0) := by
  induction number using Nat.strongRecOn with
  | ind number step =>
    by_cases single : number < 10
    · have digits : ∀ digit < 10, (Nat.digitChar digit).isDigit = true
          ∧ (Nat.digitChar digit = '0' → digit = 0) := by decide
      exact ⟨number.digitChar, [], Nat.toDigits_of_lt_base single, digits number single⟩
    · -- All digits but the last are those of a tenth of the number.
      obtain ⟨first, others, written, digit, zero⟩ := step (number / 10) (by omega)
      refine ⟨first, others ++ [Nat.digitChar (number % 10)], ?_, digit, fun leading => ?_⟩
      · rw [Nat.toDigits_of_base_le (by decide) (by omega), written, List.cons_append]
      · have := zero leading
        omega

/-- Digits written for a number give the number. -/
theorem digitsValue_toDigits (number : Nat) :
    Text.digitsValue (Nat.toDigits 10 number) = number := by
  have agree (digits : List Char) : Text.digitsValue digits = Nat.ofDigitChars 10 digits 0 := by
    simp only [Text.digitsValue, Nat.ofDigitChars, Nat.mul_comm 10]
  rw [agree, Nat.ofDigitChars_ten_toDigits]

/-- A number of 64 bits is far from the bound of double-precision numbers. -/
theorem not_exceedsDouble {number : Nat} (small : number < Document.sizeBound) :
    exceedsDouble (Nat.toDigits 10 number) 0 = false := by
  -- Twenty digits at most, where the bound has more than three hundred.
  have short : (Nat.toDigits 10 number).length ≤ 20 := by
    refine (Nat.length_toDigits_le_iff (by decide) (by decide)).mpr ?_
    have : Document.sizeBound < 10 ^ 20 := by decide
    omega
  have shorter := (List.dropWhile_sublist (· == '0') (l := Nat.toDigits 10 number)).length_le
  unfold exceedsDouble
  rw [if_pos]
  simp only [Bool.or_eq_true, decide_eq_true_eq]
  omega

/-- A number without a sign is written as its digits, behind a minus when it is negative. -/
theorem toList_toString (value : Int) : (toString value).toList
    = (if value < 0 then ['-'] else []) ++ Nat.toDigits 10 value.natAbs := by
  rw [Int.toString_eq_repr, Int.repr_eq_if]
  -- The sign is written apart from the size.
  by_cases negative : value < 0
  · have size : (-value).toNat = value.natAbs := by omega
    rw [if_neg (by omega), if_pos negative, String.toList_append, Nat.toList_repr, size]
    rfl
  · have size : value.toNat = value.natAbs := by omega
    rw [if_pos (by omega), if_neg negative, Nat.toList_repr, size]
    rfl

/-- No fraction begins where a value is over. -/
theorem readFraction_of_follows {rest : List Char} (follows : Follows rest) :
    readFraction rest = some (none, rest) := by
  unfold readFraction
  split
  · exact absurd (follows _ rfl) (by decide)
  · rfl

/-- No exponent begins where a value is over. -/
theorem readExponent_of_follows {rest : List Char} (follows : Follows rest) :
    readExponent rest = some (none, rest) := by
  -- An exponent begins with a letter, and no letter ends a value.
  cases rest with
  | nil => rfl
  | cons next others =>
    have sign := follows next rfl
    simp only [List.mem_cons, List.not_mem_nil, or_false] at sign
    rcases sign with rfl | rfl | rfl <;> rfl

/-- The digits of a number are read as the number. -/
theorem readNumber_toDigits (number : Nat) (small : number < Document.sizeBound)
    {rest : List Char} (follows : Follows rest) :
    readNumber (Nat.toDigits 10 number ++ rest) = some (.integer number, rest) := by
  -- The digits are taken whole, and neither fraction nor exponent comes behind them.
  obtain ⟨taken, dropped⟩ := takeWhile_digits number follows.not_digit
  have near := not_exceedsDouble small
  have value := digitsValue_toDigits number
  obtain ⟨first, others, written, digit, zero⟩ := toDigits_cons number
  have unsigned : first ≠ '-' := by
    rintro rfl
    exact absurd digit (by decide)
  have proper : first = '0' → others = [] := by
    intro leading
    rw [zero leading, Nat.toDigits_zero] at written
    exact (List.cons.inj written).2.symm
  rw [written] at near value
  rw [written, List.cons_append] at taken dropped ⊢
  simpa [readNumber, unsigned, taken, dropped, readFraction_of_follows follows,
    readExponent_of_follows follows, value, near] using proper

/-- The digits of a positive number behind a minus are read as its opposite. -/
theorem readNumber_minus (number : Nat) (positive : 0 < number)
    (small : number < Document.sizeBound) {rest : List Char} (follows : Follows rest) :
    readNumber ('-' :: (Nat.toDigits 10 number ++ rest)) = some (.integer (-number), rest) := by
  obtain ⟨taken, dropped⟩ := takeWhile_digits number follows.not_digit
  have near := not_exceedsDouble small
  have value := digitsValue_toDigits number
  obtain ⟨first, others, written, digit, zero⟩ := toDigits_cons number
  -- A positive number does not begin with zero, so this is not minus zero.
  have leading : first ≠ '0' := fun same => absurd (zero same) (by omega)
  rw [written] at near value
  rw [written, List.cons_append] at taken dropped ⊢
  simp [readNumber, taken, dropped, leading, readFraction_of_follows follows,
    readExponent_of_follows follows, value, near]

/-- A piece that begins at once is not skipped. -/
@[simp] theorem skipSpace_cons {first : Char} {rest : List Char} (shown : isSpace first = false) :
    skipSpace (first :: rest) = first :: rest := by
  rw [skipSpace, List.dropWhile_cons_of_neg (by simp [shown])]

/-- A character that begins a number. -/
def BeginsNumber (first : Char) : Prop := first = '-' ∨ first.isDigit = true

instance (first : Char) : Decidable (BeginsNumber first) :=
  inferInstanceAs (Decidable (first = '-' ∨ first.isDigit = true))

/-- What begins a number is none of the other characters. -/
theorem BeginsNumber.ne {first mark : Char} (begins : BeginsNumber first)
    (unlike : ¬ BeginsNumber mark) : first ≠ mark :=
  fun same => unlike (same ▸ begins)

/-- What begins a number is no space. -/
theorem BeginsNumber.not_space {first : Char} (begins : BeginsNumber first) :
    isSpace first = false := by
  simp only [isSpace, Bool.or_eq_false_iff, beq_eq_false_iff_ne]
  refine ⟨⟨⟨?_, ?_⟩, ?_⟩, ?_⟩ <;> exact begins.ne (by decide)

/-- What begins a number begins no other value. -/
theorem readValue_number {first : Char} (begins : BeginsNumber first) (fuel : Nat)
    (rest : List Char) : readValue (fuel + 1) (first :: rest) = readNumber (first :: rest) := by
  -- The reader looks for six other beginnings first, and a number has none of them.
  have other {mark : Char} (unlike : ¬ BeginsNumber mark) : first ≠ mark := begins.ne unlike
  rw [readValue, skipSpace_cons begins.not_space]
  simp [other (show ¬ BeginsNumber 'n' by decide), other (show ¬ BeginsNumber 't' by decide),
    other (show ¬ BeginsNumber 'f' by decide), other (show ¬ BeginsNumber '"' by decide),
    other (show ¬ BeginsNumber '[' by decide), other (show ¬ BeginsNumber '\x7b' by decide)]

/-- A whole number is read back. -/
theorem readValue_integer (value : Int) (small : value.natAbs < Document.sizeBound) (fuel : Nat)
    {rest : List Char} (follows : Follows rest) :
    readValue (fuel + 1) ((toString value).toList ++ rest) = some (.integer value, rest) := by
  rw [toList_toString]
  -- Only a negative number has a sign, and the sign is no digit.
  by_cases negative : value < 0
  · have opposite : -(value.natAbs : Int) = value := by omega
    rw [if_pos negative, List.append_assoc, List.singleton_append, readValue_number (.inl rfl),
      readNumber_minus _ (by omega) small follows, opposite]
  · have same : (value.natAbs : Int) = value := by omega
    have read := readNumber_toDigits value.natAbs small follows
    obtain ⟨first, others, written, digit, -⟩ := toDigits_cons value.natAbs
    rw [written, List.cons_append] at read
    rw [if_neg negative, List.nil_append, written, List.cons_append, readValue_number (.inr digit),
      read, same]

/-! ### Values -/

/-- The items of a list as they stand between its brackets. -/
def joinedItems (items : List Document) : List Char := (",".intercalate (writeItems items)).toList

/-- The fields of an object as they stand between its braces. -/
def joinedFields (fields : List (String × Document)) : List Char :=
  (",".intercalate (writeFields fields)).toList

/-- A text stands between quotes. -/
theorem toList_writeText (text : String) :
    (writeText text).toList = '"' :: (text.toList.flatMap writtenChar ++ ['"']) := by
  rw [writeText, String.toList_ofList]

theorem joinedItems_singleton (item : Document) : joinedItems [item] = (write item).toList := by
  simp [joinedItems, writeItems, String.intercalate_singleton]

theorem joinedItems_cons (item next : Document) (rest : List Document) :
    joinedItems (item :: next :: rest)
      = (write item).toList ++ ',' :: joinedItems (next :: rest) := by
  simp [joinedItems, writeItems, String.intercalate_cons_cons]

theorem joinedFields_singleton (key : String) (value : Document) : joinedFields [(key, value)]
    = (writeText key).toList ++ ':' :: (write value).toList := by
  simp [joinedFields, writeFields, String.intercalate_singleton]

theorem joinedFields_cons (key : String) (value : Document) (next : String × Document)
    (rest : List (String × Document)) :
    joinedFields ((key, value) :: next :: rest)
      = (writeText key).toList
        ++ ':' :: ((write value).toList ++ ',' :: joinedFields (next :: rest)) := by
  obtain ⟨other, last⟩ := next
  simp [joinedFields, writeFields, String.intercalate_cons_cons]

/-- A list is written between brackets. -/
theorem toList_write_list (items : List Document) :
    (write (.list items)).toList = '[' :: (joinedItems items ++ [']']) := by
  simp [write, joinedItems]

/-- An object is written between braces. -/
theorem toList_write_object (fields : List (String × Document)) :
    (write (.object fields)).toList = '\x7b' :: (joinedFields fields ++ ['\x7d']) := by
  simp [write, joinedFields]

/-- Fields with readable keys make an object. -/
theorem ofPairs_some (fields : List (String × Document)) :
    ofPairs (fields.map fun field => (some field.1, field.2)) = .object fields := by
  have keys : (fields.map fun field => (some field.1, field.2)).mapM
      (fun field => field.1.map (·, field.2)) = some fields := by
    induction fields with
    | nil => rfl
    | cons field rest step => simp [step]
  rw [ofPairs, keys]

/-- The rest of a word is read over. -/
theorem readWord_append (word : String) (rest : List Char) :
    readWord word (word.toList ++ rest) = some rest := by
  rw [readWord, if_pos (by simp), ← String.length_toList, List.drop_left]

/-- No character is written as nothing. -/
theorem length_le_written (characters : List Char) :
    characters.length ≤ (characters.flatMap writtenChar).length := by
  induction characters with
  | nil => exact Nat.le_refl 0
  | cons character others step =>
    -- An escape is longer than its character, and a character that shows is written as itself.
    have shown : 1 ≤ (writtenChar character).length := by
      unfold writtenChar
      split <;> try split
      all_goals simp
    rw [List.flatMap_cons, List.length_append, List.length_cons]
    omega

/-- A text is read back behind its opening quote. -/
theorem readText_writeText (text : String) (rest : List Char) :
    readText ((text.toList.flatMap writtenChar ++ '"' :: rest).length + 1)
      (text.toList.flatMap writtenChar ++ '"' :: rest) = some (some text.toList, rest) := by
  have enough := length_le_written text.toList
  exact readText_written text.toList _ rest (by rw [List.length_append]; omega)

/-- A written value begins with a character that is no space and closes no list. -/
theorem write_begins {document : Document} {depth : Nat} (plain : document.isPlain depth = true) :
    ∃ first others, (write document).toList = first :: others ∧ isSpace first = false
      ∧ first ≠ ']' := by
  -- A number begins with a digit or a minus, everything else with its own sign or word.
  cases document with
  | null => exact ⟨'n', ['u', 'l', 'l'], by decide⟩
  | bool value => cases value <;> exact ⟨_, _, rfl, by decide, by decide⟩
  | integer value =>
    obtain ⟨first, others, written, digit, -⟩ := toDigits_cons value.natAbs
    rw [write, toList_toString, written]
    by_cases negative : value < 0
    · exact ⟨'-', first :: others, by simp [negative], rfl, by decide⟩
    · refine ⟨first, others, by simp [negative], BeginsNumber.not_space (.inr digit), ?_⟩
      rintro rfl
      exact absurd digit (by decide)
  | decimal literal => simp [Document.isPlain] at plain
  | text value => exact ⟨'"', _, toList_writeText value, rfl, by decide⟩
  | unreadable => simp [Document.isPlain] at plain
  | list items => exact ⟨'[', _, toList_write_list items, rfl, by decide⟩
  | object fields => exact ⟨'\x7b', _, toList_write_object fields, rfl, by decide⟩

/-- The value is read back from its text, whatever sign follows it. -/
def ReadsBack (document : Document) : Prop :=
  ∀ (fuel : Nat) (rest : List Char), 2 * (write document).toList.length ≤ fuel → Follows rest →
    readValue fuel ((write document).toList ++ rest) = some (document, rest)

/-- A value that is written as something needs some fuel to be read back. -/
theorem ReadsBack.of_succ {document : Document} (nonempty : (write document).toList ≠ [])
    (value : ∀ (fuel : Nat) (rest : List Char), 2 * (write document).toList.length ≤ fuel + 1 →
      Follows rest →
        readValue (fuel + 1) ((write document).toList ++ rest) = some (document, rest)) :
    ReadsBack document := by
  intro fuel rest enough follows
  have positive := List.length_pos_iff.mpr nonempty
  obtain ⟨fuel, rfl⟩ : ∃ less, fuel = less + 1 := ⟨fuel - 1, by omega⟩
  exact value fuel rest enough follows

/-- The items of a list are read back up to its closing bracket. -/
theorem readItems_written (items : List Document) (values : ∀ item ∈ items, ReadsBack item)
    (nonempty : items ≠ []) : ∀ (fuel : Nat) (rest : List Char),
      2 * (joinedItems items).length + 1 ≤ fuel →
        readItems fuel (joinedItems items ++ ']' :: rest) = some (items, rest) := by
  -- Each item takes one step, and the comma behind it pays for that.
  induction items with
  | nil => exact absurd rfl nonempty
  | cons item others step =>
    intro fuel rest enough
    obtain ⟨fuel, rfl⟩ : ∃ less, fuel = less + 1 := ⟨fuel - 1, by omega⟩
    have first := values item List.mem_cons_self
    match others with
    | [] =>
      rw [joinedItems_singleton] at enough ⊢
      have value := first fuel (']' :: rest) (by omega) (by simp [Follows])
      simp [readItems, value, isSpace]
    | next :: others =>
      rw [joinedItems_cons] at enough ⊢
      simp only [List.length_append, List.length_cons] at enough
      have value := first fuel (',' :: (joinedItems (next :: others) ++ ']' :: rest)) (by omega)
        (by simp [Follows])
      have more := step (fun item listed => values item (List.mem_cons_of_mem _ listed))
        (List.cons_ne_nil _ _) fuel rest (by omega)
      simp [readItems, value, more, isSpace]

/-- The fields of an object are read back up to its closing brace. -/
theorem readFields_written (fields : List (String × Document))
    (values : ∀ field ∈ fields, ReadsBack field.2) (nonempty : fields ≠ []) :
    ∀ (fuel : Nat) (rest : List Char), 2 * (joinedFields fields).length + 1 ≤ fuel →
      readFields fuel (joinedFields fields ++ '\x7d' :: rest)
        = some (fields.map fun field => (some field.1, field.2), rest) := by
  -- As with the items of a list, the comma behind a field pays for its step.
  induction fields with
  | nil => exact absurd rfl nonempty
  | cons field others step =>
    intro fuel rest enough
    obtain ⟨fuel, rfl⟩ : ∃ less, fuel = less + 1 := ⟨fuel - 1, by omega⟩
    obtain ⟨key, value⟩ := field
    have first : ReadsBack value := values (key, value) List.mem_cons_self
    cases others with
    | nil =>
      rw [joinedFields_singleton, toList_writeText] at enough ⊢
      simp only [List.length_append, List.length_cons] at enough
      have read := first fuel ('\x7d' :: rest) (by omega) (by simp [Follows])
      simp only [List.cons_append, List.append_assoc, List.nil_append, readFields,
        skipSpace_cons (show isSpace '"' = false from rfl), readText_writeText]
      simp [read, isSpace]
    | cons next others =>
      rw [joinedFields_cons, toList_writeText] at enough ⊢
      simp only [List.length_append, List.length_cons] at enough
      have read := first fuel (',' :: (joinedFields (next :: others) ++ '\x7d' :: rest)) (by omega)
        (by simp [Follows])
      have more := step (fun item listed => values item (List.mem_cons_of_mem _ listed))
        (List.cons_ne_nil _ _) fuel rest (by omega)
      simp only [List.cons_append, List.append_assoc, List.nil_append, readFields,
        skipSpace_cons (show isSpace '"' = false from rfl), readText_writeText]
      simp [read, more, isSpace]

/-- The items of a list begin as the first of them does. -/
theorem joinedItems_begins (item : Document) (items : List Document) {depth : Nat}
    (plain : item.isPlain depth = true) :
    ∃ first others, joinedItems (item :: items) = first :: others ∧ isSpace first = false
      ∧ first ≠ ']' := by
  obtain ⟨first, others, begins, shown, inside⟩ := write_begins plain
  cases items with
  | nil => exact ⟨first, others, by rw [joinedItems_singleton, begins], shown, inside⟩
  | cons next rest => exact ⟨first, _, by rw [joinedItems_cons, begins]; rfl, shown, inside⟩

/-- What is written for some fields begins with a quote. -/
theorem joinedFields_begins (field : String × Document) (fields : List (String × Document)) :
    ∃ others, joinedFields (field :: fields) = '"' :: others := by
  obtain ⟨key, value⟩ := field
  cases fields with
  | nil => exact ⟨_, by rw [joinedFields_singleton, toList_writeText]; rfl⟩
  | cons next rest => exact ⟨_, by rw [joinedFields_cons, toList_writeText]; rfl⟩

/-- A list of values that are read back is read back. -/
theorem ReadsBack.list {items : List Document} {depth : Nat}
    (plain : ∀ item ∈ items, item.isPlain depth = true) (values : ∀ item ∈ items, ReadsBack item) :
    ReadsBack (.list items) := by
  refine .of_succ (by simp [toList_write_list]) fun fuel rest enough _ => ?_
  rw [toList_write_list] at enough ⊢
  simp only [List.length_cons, List.length_append] at enough
  -- An empty list is closed at once; otherwise its first item does not close it.
  match items with
  | [] => simp [joinedItems, writeItems, readValue, isSpace]
  | item :: others =>
    have read := readItems_written _ values (List.cons_ne_nil _ _) fuel rest (by omega)
    obtain ⟨first, remainder, begins, shown, inside⟩ :=
      joinedItems_begins item others (plain item List.mem_cons_self)
    rw [begins, List.cons_append] at read
    simp [begins, readValue, skipSpace_cons shown, inside, read, isSpace]

/-- An object of values that are read back is read back. -/
theorem ReadsBack.object {fields : List (String × Document)}
    (values : ∀ field ∈ fields, ReadsBack field.2) : ReadsBack (.object fields) := by
  refine .of_succ (by simp [toList_write_object]) fun fuel rest enough _ => ?_
  rw [toList_write_object] at enough ⊢
  simp only [List.length_cons, List.length_append] at enough
  -- An empty object is closed at once; otherwise a quote opens its first key.
  match fields with
  | [] => simp [joinedFields, writeFields, readValue, isSpace]
  | field :: others =>
    have read := readFields_written _ values (List.cons_ne_nil _ _) fuel rest (by omega)
    have whole := ofPairs_some (field :: others)
    obtain ⟨remainder, begins⟩ := joinedFields_begins field others
    rw [begins, List.cons_append] at read
    simpa [begins, readValue, isSpace, read] using whole

/-- Every plain value is read back. -/
theorem readsBack_of_isPlain {document : Document} {depth : Nat}
    (plain : document.isPlain depth = true) : ReadsBack document := by
  -- A list or an object is read back because what it holds is, one level further down.
  induction document using Document.byParts generalizing depth with
  | null =>
    refine .of_succ (List.cons_ne_nil 'n' _) fun fuel rest _ _ => ?_
    simpa [write, readValue, isSpace] using readWord_append "ull" rest
  | bool value =>
    cases value with
    | true =>
      refine .of_succ (List.cons_ne_nil 't' _) fun fuel rest _ _ => ?_
      simpa [write, readValue, isSpace] using readWord_append "rue" rest
    | false =>
      refine .of_succ (List.cons_ne_nil 'f' _) fun fuel rest _ _ => ?_
      simpa [write, readValue, isSpace] using readWord_append "alse" rest
  | integer value =>
    obtain ⟨first, others, begins, -⟩ := write_begins plain
    have small : value.natAbs < Document.sizeBound := by simpa [Document.isPlain] using plain
    exact .of_succ (begins ▸ List.cons_ne_nil first others) fun fuel rest _ follows =>
      readValue_integer value small fuel follows
  | decimal literal => simp [Document.isPlain] at plain
  | text value =>
    refine .of_succ (by simp [write, toList_writeText]) fun fuel rest _ _ => ?_
    rw [write, toList_writeText, List.cons_append, List.append_assoc, List.singleton_append]
    simp only [readValue, skipSpace_cons (show isSpace '"' = false from rfl), readText_writeText]
    simp
  | unreadable => simp [Document.isPlain] at plain
  | list items step =>
    simp only [Document.isPlain, Bool.and_eq_true, Document.arePlainItems_iff] at plain
    exact .list plain.2 fun item listed => step item listed (plain.2 item listed)
  | object fields step =>
    simp only [Document.isPlain, Bool.and_eq_true, Document.arePlainFields_iff] at plain
    exact .object fun field listed => step field listed (plain.2 field listed)

/-- The text of a plain document is read as the document. -/
theorem read_write {document : Document} {depth : Nat} (plain : document.isPlain depth = true) :
    read (write document) = some document := by
  have value := readsBack_of_isPlain plain (2 * (write document).toList.length + 2) []
    (by omega) (by simp [Follows])
  rw [List.append_nil] at value
  -- Nothing comes behind the value.
  rw [read, value]
  rfl

/-- Pieces that all are characters hold these, inside of a text between quotes and outside. -/
theorem characters?_eq (quoted : Bool) {pieces : List Text.Utf8.Piece}
    (whole : ∀ piece ∈ pieces, ∃ character, piece = .char character) :
    characters? quoted pieces = some (pieces.map (·.shown)) := by
  -- Where a piece is invalid it would have to be a character.
  fun_induction characters? quoted pieces with
  | case1 => rfl
  | case2 => simp at whole
  | case3 character rest shorter =>
    rw [shorter fun piece listed => whole piece (by simp [listed])]
    rfl
  | case4 => simp at whole
  | case5 => simp at whole
  | case6 quoted character rest _ _ shorter =>
    rw [shorter fun piece listed => whole piece (by simp [listed])]
    rfl

/-- The bytes of a text are read as the text is. -/
theorem readBytes_encode (text : String) : readBytes (Text.Utf8.encode text) = read text := by
  have whole : ∀ piece ∈ Text.Utf8.pieces (Text.Utf8.encode text), ∃ character,
      piece = .char character := by
    intro piece listed
    rw [Text.Utf8.encode, Text.Utf8.pieces_encode, List.mem_map] at listed
    obtain ⟨character, -, rfl⟩ := listed
    exact ⟨character, rfl⟩
  rw [readBytes, characters?_eq false whole, Option.bind_eq_bind, Option.bind_some,
    ← Text.Utf8.decodeChars, ← Text.Utf8.decodeLossy, Text.Utf8.decodeLossy_encode]

end Json

end DatabaseLifecycle
