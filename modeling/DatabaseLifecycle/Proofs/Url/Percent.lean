import DatabaseLifecycle.Proofs.Text.Utf8
import DatabaseLifecycle.Url.Percent

/-!
Percent-encoding undone. Writing characters as the numbers of their bytes does not change the bytes that
a text stands for; these are its own bytes unless it has numbers in it already, and fewer if it has.
-/

namespace DatabaseLifecycle.Url

/-- The byte that a text stands for behind a percent sign, with the rest of the text. -/
def number? : List Char → Option (UInt8 × List Char)
  | high :: low :: rest => do
    let first ← Json.hexValue? high
    let second ← Json.hexValue? low
    return ((first * 16 + second).toUInt8, rest)
  | _ => none

/-- Somewhere in the text a percent sign begins a number. -/
def HasNumber (text : List Char) : Prop :=
  ∃ before high low after, text = before ++ '%' :: high :: low :: after
    ∧ (Json.hexValue? high).isSome = true ∧ (Json.hexValue? low).isSome = true

/-- The text with some characters written as numbers. -/
def writtenChars (isEncoded : Char → Bool) (text : List Char) : List Char :=
  text.flatMap fun character => if isEncoded character then encodedChar character else [character]

/-- The characters of an encoded text. -/
theorem toList_encode (isEncoded : Char → Bool) (text : List Char) :
    (encode isEncoded text).toList = writtenChars isEncoded text := String.toList_ofList

/-- A written text begins with what its first character is written as. -/
theorem writtenChars_cons (isEncoded : Char → Bool) (character : Char) (rest : List Char) :
    writtenChars isEncoded (character :: rest) =
      (if isEncoded character then encodedChar character else [character])
        ++ writtenChars isEncoded rest := rfl

/-- A byte is written with its two hexadecimal digits. -/
theorem hexByte_eq (byte : UInt8) : ∃ high low, hexByte byte = [high, low]
    ∧ Json.hexValue? high = some (byte.toNat / 16)
    ∧ Json.hexValue? low = some (byte.toNat % 16) := by
  have small : ∀ number < 256,
      let digits := hexByte number.toUInt8
      digits = [digits.getD 0 '0', digits.getD 1 '0']
        ∧ Json.hexValue? (digits.getD 0 '0') = some (number / 16)
        ∧ Json.hexValue? (digits.getD 1 '0') = some (number % 16) := by decide +kernel
  have own := small byte.toNat byte.toNat_lt
  rw [show byte.toNat.toUInt8 = byte from UInt8.ofNat_toNat] at own
  exact ⟨_, _, own⟩

/-- A character that is no percent sign stands for its own bytes. -/
theorem decodeBytes_cons {character : Char} (plain : character ≠ '%') (rest : List Char) :
    decodeBytes (character :: rest) = Text.Utf8.encodeChar character ++ decodeBytes rest := by
  rw [decodeBytes]
  intro _ _ _ percent
  exact absurd percent plain

/-- A percent sign stands for a byte if it begins a number, and for itself otherwise. -/
theorem decodeBytes_percent (rest : List Char) :
    decodeBytes ('%' :: rest) =
      match number? rest with
      | some (byte, rest) => byte :: decodeBytes rest
      | none => Text.Utf8.encodeChar '%' ++ decodeBytes rest := by
  match rest with
  | [] | [_] => rfl
  | high :: low :: rest =>
    rw [decodeBytes, number?]
    cases Json.hexValue? high <;> cases Json.hexValue? low <;> rfl

/-- A percent sign before no number stands for itself. -/
theorem decodeBytes_unread {rest : List Char} (unread : number? rest = none) :
    decodeBytes ('%' :: rest) = Text.Utf8.encodeChar '%' ++ decodeBytes rest := by
  rw [decodeBytes_percent, unread]

/-- Only what goes on with two hexadecimal digits is a number. -/
theorem number?_eq_some_iff {text rest : List Char} {byte : UInt8} :
    number? text = some (byte, rest) ↔
      ∃ high low first second, text = high :: low :: rest ∧ Json.hexValue? high = some first
        ∧ Json.hexValue? low = some second ∧ byte = (first * 16 + second).toUInt8 := by
  match text with
  | [] | [_] => simp [number?]
  | high :: low :: after =>
    simp only [number?, Option.bind_eq_bind, Option.bind_eq_some_iff, Option.pure_def,
      Option.some.injEq, Prod.mk.injEq, List.cons.injEq]
    constructor
    · rintro ⟨first, high, second, low, rfl, rfl⟩
      exact ⟨_, _, first, second, ⟨rfl, rfl, rfl⟩, high, low, rfl⟩
    · rintro ⟨_, _, first, second, ⟨rfl, rfl, rfl⟩, high, low, rfl⟩
      exact ⟨first, high, second, low, rfl, rfl⟩

/-- Two hexadecimal digits are a number. -/
theorem number?_of_values {high low : Char} {first second : Nat}
    (highValue : Json.hexValue? high = some first) (lowValue : Json.hexValue? low = some second)
    (rest : List Char) :
    number? (high :: low :: rest) = some ((first * 16 + second).toUInt8, rest) :=
  number?_eq_some_iff.mpr ⟨high, low, first, second, rfl, highValue, lowValue, rfl⟩

/-- Two characters of which one is no hexadecimal digit are no number. -/
theorem number?_valueless {high low : Char} {rest : List Char}
    (valueless : ∀ first second, Json.hexValue? high = some first →
      Json.hexValue? low = some second → False) : number? (high :: low :: rest) = none := by
  rw [Option.eq_none_iff_forall_ne_some]
  rintro ⟨byte, after⟩ read
  obtain ⟨_, _, first, second, shape, highValue, lowValue, _⟩ := number?_eq_some_iff.mp read
  obtain ⟨rfl, rfl, rfl⟩ : high = _ ∧ low = _ ∧ rest = _ := by simpa using shape
  exact valueless first second highValue lowValue

/-- Every character has a byte. -/
theorem encodeChar_ne_nil (character : Char) : Text.Utf8.encodeChar character ≠ [] := by
  unfold Text.Utf8.encodeChar
  dsimp only
  split
  · simp
  · split
    · simp
    · split <;> simp

/-- A text has a number if one begins it behind a percent sign, or if the rest has one. -/
theorem hasNumber_cons {character : Char} {rest : List Char} :
    HasNumber (character :: rest) ↔
      (character = '%' ∧ ∃ read, number? rest = some read) ∨ HasNumber rest := by
  constructor
  · rintro ⟨before, high, low, after, shape, highDigit, lowDigit⟩
    cases before with
    | nil =>
      obtain ⟨rfl, rfl⟩ := List.cons.inj shape
      obtain ⟨first, highValue⟩ := Option.isSome_iff_exists.mp highDigit
      obtain ⟨second, lowValue⟩ := Option.isSome_iff_exists.mp lowDigit
      exact .inl ⟨rfl, _, number?_of_values highValue lowValue after⟩
    | cons other before =>
      obtain ⟨rfl, rfl⟩ := List.cons.inj shape
      exact .inr ⟨before, high, low, after, rfl, highDigit, lowDigit⟩
  · rintro (⟨rfl, ⟨byte, after⟩, read⟩ | ⟨before, high, low, after, rfl, digits⟩)
    · obtain ⟨high, low, first, second, rfl, highValue, lowValue, _⟩ :=
        number?_eq_some_iff.mp read
      exact ⟨[], high, low, after, rfl, by simp [highValue], by simp [lowValue]⟩
    · exact ⟨character :: before, high, low, after, rfl, digits⟩

/-- A text stands for no more bytes than it has. -/
theorem length_decodeBytes_le (text : List Char) :
    (decodeBytes text).length ≤ (text.flatMap Text.Utf8.encodeChar).length := by
  fun_induction decodeBytes text with
  | case1 high low rest first second lowValue highValue bound =>
    simp only [List.flatMap_cons, List.length_append, List.length_cons]
    have sign : (Text.Utf8.encodeChar '%').length = 1 := by decide
    omega
  | case2 high low rest valueless bound => simpa using bound
  | case3 character rest unnumbered bound => simpa using bound
  | case4 => exact Nat.le_refl 0

/-- A text without a number stands for its own bytes, and any other for fewer than it has. -/
theorem decodeBytes_or_lt (text : List Char) :
    (¬ HasNumber text ∧ decodeBytes text = text.flatMap Text.Utf8.encodeChar)
      ∨ (HasNumber text
        ∧ (decodeBytes text).length < (text.flatMap Text.Utf8.encodeChar).length) := by
  fun_induction decodeBytes text with
  | case1 high low rest first second lowValue highValue _ =>
    -- Three characters are one byte, and what follows them has no more than it seems.
    have read := number?_of_values highValue lowValue rest
    refine .inr ⟨hasNumber_cons.mpr (.inl ⟨rfl, _, read⟩), ?_⟩
    have bound := length_decodeBytes_le rest
    have highByte := List.length_pos_iff.mpr (encodeChar_ne_nil high)
    simp only [List.flatMap_cons, List.length_append, List.length_cons]
    have sign : (Text.Utf8.encodeChar '%').length = 1 := by decide
    omega
  | case2 high low rest valueless known =>
    have same : HasNumber ('%' :: high :: low :: rest) ↔ HasNumber (high :: low :: rest) := by
      rw [hasNumber_cons, number?_valueless valueless]
      simp
    rw [same, List.flatMap_cons, List.length_append, List.length_append, List.append_right_inj,
      Nat.add_lt_add_iff_left]
    exact known
  | case3 character rest unnumbered known =>
    have same : HasNumber (character :: rest) ↔ HasNumber rest := by
      rw [hasNumber_cons, or_iff_right]
      rintro ⟨rfl, ⟨byte, after⟩, read⟩
      obtain ⟨high, low, _, _, rfl, _⟩ := number?_eq_some_iff.mp read
      exact unnumbered high low after rfl rfl
    rw [same, List.flatMap_cons, List.length_append, List.length_append, List.append_right_inj,
      Nat.add_lt_add_iff_left]
    exact known
  | case4 =>
    refine .inl ⟨?_, rfl⟩
    rintro ⟨before, _, _, _, shape, _⟩
    simp at shape

/-- A text without a number stands for its own bytes. -/
theorem decodeBytes_eq {text : List Char} (numberless : ¬ HasNumber text) :
    decodeBytes text = text.flatMap Text.Utf8.encodeChar := by
  rcases decodeBytes_or_lt text with ⟨_, own⟩ | ⟨numbered, _⟩
  · exact own
  · exact absurd numbered numberless

/-- Whether a text has a number shows in the bytes that it stands for. -/
instance : DecidablePred HasNumber := fun text =>
  decidable_of_iff (decodeBytes text ≠ text.flatMap Text.Utf8.encodeChar) <| by
    rcases decodeBytes_or_lt text with ⟨numberless, own⟩ | ⟨numbered, fewer⟩
    · exact iff_of_false (not_not_intro own) numberless
    · exact iff_of_true (fun own => absurd fewer (by simp [own])) numbered

/-- Of two texts of which one is part of the other that one has no more bytes. -/
theorem length_bytes_le {part text : List Char} (within : part.Sublist text) :
    (part.flatMap Text.Utf8.encodeChar).length ≤ (text.flatMap Text.Utf8.encodeChar).length := by
  induction within with
  | slnil => exact Nat.le_refl 0
  | cons character _ bound => simp only [List.flatMap_cons, List.length_append]; omega
  | cons_cons character _ bound => simpa using bound

/-- A part of a text can stand for all of its bytes only if it is the whole and has no number. -/
theorem eq_of_decodeBytes {part text : List Char} (within : part.Sublist text)
    (same : decodeBytes part = text.flatMap Text.Utf8.encodeChar) :
    part = text ∧ ¬ HasNumber text := by
  rcases decodeBytes_or_lt part with ⟨numberless, own⟩ | ⟨_, fewer⟩
  · have equal : part = text := Text.Utf8.eq_of_bytes (own.symm.trans same)
    exact ⟨equal, equal ▸ numberless⟩
  · have bound := length_bytes_le within
    rw [same] at fewer
    omega

/-- A byte that is written as a number is read. -/
theorem decodeBytes_hexByte (byte : UInt8) (rest : List Char) :
    decodeBytes ('%' :: (hexByte byte ++ rest)) = byte :: decodeBytes rest := by
  obtain ⟨high, low, digits, first, second⟩ := hexByte_eq byte
  -- The digits are the byte's quotient and remainder.
  have whole : (byte.toNat / 16 * 16 + byte.toNat % 16).toUInt8 = byte := by
    rw [Nat.div_add_mod' byte.toNat 16]
    exact UInt8.ofNat_toNat
  rw [digits, decodeBytes_percent, List.cons_append, List.cons_append, List.nil_append,
    number?_of_values first second, whole]

/-- A character that is written as numbers stands for its own bytes. -/
theorem decodeBytes_encodedChar (character : Char) (rest : List Char) :
    decodeBytes (encodedChar character ++ rest)
      = Text.Utf8.encodeChar character ++ decodeBytes rest := by
  unfold encodedChar
  induction Text.Utf8.encodeChar character with
  | nil => rfl
  | cons byte bytes read =>
    rw [List.flatMap_cons, List.append_assoc, List.cons_append, decodeBytes_hexByte, read]
    rfl

/-- A character that is written as numbers begins with a percent sign. -/
theorem encodedChar_eq (character : Char) : ∃ rest, encodedChar character = '%' :: rest := by
  unfold encodedChar
  cases bytes : Text.Utf8.encodeChar character with
  | nil => exact absurd bytes (encodeChar_ne_nil character)
  | cons byte bytes => exact ⟨_, rfl⟩

/-- Only percent signs and hexadecimal digits are written in the place of other characters. -/
theorem mem_of_mem_encode {isEncoded : Char → Bool} {text : List Char} {character : Char}
    (listed : character ∈ (encode isEncoded text).toList) :
    character = '%' ∨ (Json.hexValue? character).isSome = true ∨ character ∈ text := by
  rw [toList_encode, writtenChars, List.mem_flatMap] at listed
  obtain ⟨original, origin, listed⟩ := listed
  split at listed
  · obtain ⟨byte, _, listed⟩ := List.mem_flatMap.mp listed
    obtain ⟨high, low, digits, highValue, lowValue⟩ := hexByte_eq byte
    simp only [digits, List.mem_cons, List.not_mem_nil, or_false] at listed
    rcases listed with percent | rfl | rfl
    · exact .inl percent
    · exact .inr (.inl (by simp [highValue]))
    · exact .inr (.inl (by simp [lowValue]))
  · rw [List.mem_singleton.mp listed]
    exact .inr (.inr origin)

/-- Without a digit at its start a text is no number. -/
theorem number?_eq_none {first : Char} (digitless : Json.hexValue? first = none)
    (rest : List Char) : number? (first :: rest) = none := by
  cases rest with
  | nil => rfl
  | cons second rest => rw [number?, digitless]; rfl

section Written

variable {isEncoded : Char → Bool}

/-- What is no hexadecimal digit before it is written is none afterwards either. -/
theorem number?_written
    (digits : ∀ character, isEncoded character = true → Json.hexValue? character = none)
    (text : List Char) :
    number? (writtenChars isEncoded text)
      = (number? text).map fun read => (read.1, writtenChars isEncoded read.2) := by
  have percent : Json.hexValue? '%' = none := by decide
  match text with
  | [] => rfl
  | first :: rest =>
    rw [writtenChars_cons]
    by_cases encoded : isEncoded first = true
    · -- Neither the character nor the percent sign in its place is a digit.
      obtain ⟨more, written⟩ := encodedChar_eq first
      rw [if_pos encoded, written, List.cons_append, number?_eq_none percent,
        number?_eq_none (digits first encoded)]
      rfl
    · rw [if_neg encoded]
      match rest with
      | [] => rfl
      | second :: rest =>
        rw [writtenChars_cons]
        by_cases encoded : isEncoded second = true
        · obtain ⟨more, written⟩ := encodedChar_eq second
          rw [if_pos encoded, written]
          cases value : Json.hexValue? first <;> simp [number?, percent, digits second encoded, value]
        · rw [if_neg encoded]
          simp only [List.cons_append, List.nil_append, number?]
          cases Json.hexValue? first <;> cases Json.hexValue? second <;> rfl

/-- Writing characters as numbers does not change the bytes that a text stands for. -/
theorem decodeBytes_written
    (digits : ∀ character, isEncoded character = true → Json.hexValue? character = none)
    (percent : isEncoded '%' = false) (text : List Char) :
    decodeBytes (writtenChars isEncoded text) = decodeBytes text := by
  -- A percent sign is written as itself, and then the same number follows it or none.
  have kept {rest : List Char} (unread : number? rest = none)
      (same : decodeBytes (writtenChars isEncoded rest) = decodeBytes rest) :
      decodeBytes (writtenChars isEncoded ('%' :: rest))
        = Text.Utf8.encodeChar '%' ++ decodeBytes rest := by
    rw [writtenChars_cons, if_neg (by simp [percent]), List.singleton_append, decodeBytes_unread,
      same]
    rw [number?_written digits, unread, Option.map_none]
  fun_induction decodeBytes text with
  | case1 high low rest first second lowValue highValue same =>
    have read := number?_of_values highValue lowValue rest
    rw [writtenChars_cons, if_neg (by simp [percent]), List.singleton_append, decodeBytes_percent,
      number?_written digits, read, Option.map_some]
    exact congrArg (_ :: ·) same
  | case2 high low rest valueless same => exact kept (number?_valueless valueless) same
  | case3 character rest unnumbered same =>
    by_cases encoded : isEncoded character = true
    · rw [writtenChars_cons, if_pos encoded, decodeBytes_encodedChar, same]
    · by_cases sign : character = '%'
      · subst sign
        refine kept ?_ same
        match rest with
        | [] | [_] => rfl
        | high :: low :: after => exact (unnumbered high low after rfl rfl).elim
      · rw [writtenChars_cons, if_neg encoded, List.singleton_append, decodeBytes_cons sign, same]
  | case4 => rfl

end Written

/-- No hexadecimal digit is written as a number in a path. -/
theorem hexValue?_of_isPathEncoded {character : Char} (encoded : isPathEncoded character = true) :
    Json.hexValue? character = none := by
  have digits : ∀ code ≤ 0x66, isPathEncoded (Char.ofNat code) = true →
      Json.hexValue? (Char.ofNat code) = none := by decide
  by_cases small : character.toNat ≤ 0x66
  · rw [← Char.ofNat_toNat character] at encoded ⊢
    exact digits character.toNat small encoded
  · -- The last of the digits is a small letter.
    have bound (digit : Char) (upper : digit.toNat ≤ 0x66) : ¬ character ≤ digit := by
      intro below
      have : character.toNat ≤ digit.toNat := below
      omega
    simp [Json.hexValue?, bound '9' (by decide), bound 'f' (by decide), bound 'F' (by decide)]

/-- No hexadecimal digit is written as a number in a user or a password. -/
theorem hexValue?_of_isUserEncoded {character : Char} (encoded : isUserEncoded character = true) :
    Json.hexValue? character = none := by
  have marks : ∀ mark ∈ ['/', ':', ';', '=', '@', '[', '\\', ']', '^', '|'],
      Json.hexValue? mark = none := by simp [Json.hexValue?]
  rw [isUserEncoded, Bool.or_eq_true, List.contains_iff_mem] at encoded
  rcases encoded with path | mark
  · exact hexValue?_of_isPathEncoded path
  · exact marks character mark

/-- Nothing is written for an empty text only. -/
theorem isEmpty_encode (isEncoded : Char → Bool) (text : List Char) :
    (encode isEncoded text).isEmpty = text.isEmpty := by
  rw [Bool.eq_iff_iff, String.isEmpty_iff, ← String.toList_eq_nil_iff, toList_encode]
  cases text with
  | nil => simp [writtenChars]
  | cons character rest =>
    obtain ⟨more, written⟩ := encodedChar_eq character
    by_cases encoded : isEncoded character = true <;> simp [writtenChars_cons, encoded, written]

/-- A path stands for the bytes that it stands for before it is written. -/
theorem decodeBytes_encode (text : List Char) :
    decodeBytes (encode isPathEncoded text).toList = decodeBytes text := by
  rw [toList_encode]
  exact decodeBytes_written (fun _ => hexValue?_of_isPathEncoded) (by decide) text

end DatabaseLifecycle.Url
