import DatabaseLifecycle.Text.Utf8

/-! The UTF-8 form of a text is the one that `String.toUTF8` gives, and it is read as that text. -/

namespace DatabaseLifecycle.Text.Utf8

/-- A byte that is written as a number below 256 has that number. -/
theorem toNat_toUInt8 {number : Nat} (small : number < 256) : number.toUInt8.toNat = number := by
  rw [Nat.toUInt8, UInt8.toNat_ofNat', Nat.mod_eq_of_lt small]

/-- How wide a character is can be told from the number of its first byte. -/
theorem width?_toUInt8 {number : Nat} (small : number < 256) :
    width? number.toUInt8 =
      if number < 0x80 then some 1
      else if 0xC2 ≤ number ∧ number ≤ 0xDF then some 2
      else if 0xE0 ≤ number ∧ number ≤ 0xEF then some 3
      else if 0xF0 ≤ number ∧ number ≤ 0xF4 then some 4
      else none := by
  simp only [width?, UInt8.lt_iff_toNat_lt, UInt8.le_iff_toNat_le, toNat_toUInt8 small,
    Bool.and_eq_true, decide_eq_true_eq]
  rfl

/-- Whether a byte continues a character can be told from its number. -/
theorem isContinuation_toUInt8 {number : Nat} (small : number < 256) :
    isContinuation number.toUInt8 = decide (0x80 ≤ number ∧ number ≤ 0xBF) := by
  simp only [isContinuation, UInt8.le_iff_toNat_le, toNat_toUInt8 small]
  rw [← Bool.decide_and]
  rfl

/-- Whether a second byte may follow a first one can be told from their numbers. -/
theorem mayFollow_toUInt8 {first second : Nat} (firstSmall : first < 256)
    (secondSmall : second < 256) :
    mayFollow first.toUInt8 second.toUInt8 =
      if first = 0xE0 then decide (0xA0 ≤ second ∧ second ≤ 0xBF)
      else if first = 0xED then decide (0x80 ≤ second ∧ second ≤ 0x9F)
      else if first = 0xF0 then decide (0x90 ≤ second ∧ second ≤ 0xBF)
      else if first = 0xF4 then decide (0x80 ≤ second ∧ second ≤ 0x8F)
      else decide (0x80 ≤ second ∧ second ≤ 0xBF) := by
  have same (limit : UInt8) : (first.toUInt8 == limit) = decide (first = limit.toNat) := by
    rw [Bool.eq_iff_iff, beq_iff_eq, decide_eq_true_eq, ← UInt8.toNat_inj, toNat_toUInt8 firstSmall]
  simp only [mayFollow, same, UInt8.le_iff_toNat_le, toNat_toUInt8 secondSmall,
    isContinuation_toUInt8 secondSmall, ← Bool.decide_and, decide_eq_true_eq]
  rfl

/-- A continuation byte carries the low six bits of its number. -/
theorem payload_toUInt8 {number : Nat} (small : number < 256) :
    payload number.toUInt8 = number % 64 := by
  rw [payload, toNat_toUInt8 small]

/-- A code point of one byte is a piece of its own. -/
theorem pieces_one {code : Nat} (upper : code < 0x80) (rest : List UInt8) :
    pieces (code.toUInt8 :: rest) = .char (Char.ofNat code) :: pieces rest := by
  have begins : width? code.toUInt8 = some 1 := by
    rw [width?_toUInt8 (by omega), if_pos upper]
  rw [pieces.eq_def]
  simp only [begins, toNat_toUInt8 (show code < 256 by omega)]

/-- A code point of two bytes is a piece of its own. -/
theorem pieces_two {code : Nat} (lower : 0x80 ≤ code) (upper : code < 0x800)
    (rest : List UInt8) :
    pieces ((0xC0 + code / 64).toUInt8 :: (0x80 + code % 64).toUInt8 :: rest)
      = .char (Char.ofNat code) :: pieces rest := by
  have firstSmall : 0xC0 + code / 64 < 256 := by omega
  have secondSmall : 0x80 + code % 64 < 256 := by omega
  have begins : width? (0xC0 + code / 64).toUInt8 = some 2 := by
    rw [width?_toUInt8 firstSmall, if_neg (by omega), if_pos (by omega)]
  have follows : mayFollow (0xC0 + code / 64).toUInt8 (0x80 + code % 64).toUInt8 = true := by
    rw [mayFollow_toUInt8 firstSmall secondSmall, if_neg (by omega), if_neg (by omega),
      if_neg (by omega), if_neg (by omega)]
    exact decide_eq_true (by omega)
  have whole : (0xC0 + code / 64) % 32 * 64 + (0x80 + code % 64) % 64 = code := by omega
  rw [pieces.eq_def]
  simp only [begins, follows, if_true, payload_toUInt8 secondSmall, toNat_toUInt8 firstSmall, whole]

/-- A code point of three bytes that is not half of a pair is a piece of its own. -/
theorem pieces_three {code : Nat} (lower : 0x800 ≤ code) (upper : code < 0x10000)
    (unpaired : code < 0xD800 ∨ 0xDFFF < code) (rest : List UInt8) :
    pieces ((0xE0 + code / 4096).toUInt8 :: (0x80 + code / 64 % 64).toUInt8
        :: (0x80 + code % 64).toUInt8 :: rest)
      = .char (Char.ofNat code) :: pieces rest := by
  have firstSmall : 0xE0 + code / 4096 < 256 := by omega
  have secondSmall : 0x80 + code / 64 % 64 < 256 := by omega
  have thirdSmall : 0x80 + code % 64 < 256 := by omega
  have begins : width? (0xE0 + code / 4096).toUInt8 = some 3 := by
    rw [width?_toUInt8 firstSmall, if_neg (by omega), if_neg (by omega), if_pos (by omega)]
  -- Overlong forms and halves of pairs are ruled out by the bounds of the code point.
  have follows : mayFollow (0xE0 + code / 4096).toUInt8 (0x80 + code / 64 % 64).toUInt8 = true := by
    rw [mayFollow_toUInt8 firstSmall secondSmall]
    repeat' split
    all_goals exact decide_eq_true (by omega)
  have continues : isContinuation (0x80 + code % 64).toUInt8 = true := by
    rw [isContinuation_toUInt8 thirdSmall]
    exact decide_eq_true (by omega)
  have whole : (0xE0 + code / 4096) % 16 * 4096 + (0x80 + code / 64 % 64) % 64 * 64
      + (0x80 + code % 64) % 64 = code := by omega
  rw [pieces.eq_def]
  simp only [begins, follows, continues, Bool.not_true, Bool.false_eq_true, if_false,
    payload_toUInt8 secondSmall, payload_toUInt8 thirdSmall, toNat_toUInt8 firstSmall, whole]

/-- A code point of four bytes is a piece of its own. -/
theorem pieces_four {code : Nat} (lower : 0x10000 ≤ code) (upper : code < 0x110000)
    (rest : List UInt8) :
    pieces ((0xF0 + code / 262144).toUInt8 :: (0x80 + code / 4096 % 64).toUInt8
        :: (0x80 + code / 64 % 64).toUInt8 :: (0x80 + code % 64).toUInt8 :: rest)
      = .char (Char.ofNat code) :: pieces rest := by
  have firstSmall : 0xF0 + code / 262144 < 256 := by omega
  have secondSmall : 0x80 + code / 4096 % 64 < 256 := by omega
  have thirdSmall : 0x80 + code / 64 % 64 < 256 := by omega
  have fourthSmall : 0x80 + code % 64 < 256 := by omega
  have begins : width? (0xF0 + code / 262144).toUInt8 = some 4 := by
    rw [width?_toUInt8 firstSmall, if_neg (by omega), if_neg (by omega), if_neg (by omega),
      if_pos (by omega)]
  -- Overlong forms and codes past the last one are ruled out by the bounds of the code point.
  have follows :
      mayFollow (0xF0 + code / 262144).toUInt8 (0x80 + code / 4096 % 64).toUInt8 = true := by
    rw [mayFollow_toUInt8 firstSmall secondSmall]
    repeat' split
    all_goals exact decide_eq_true (by omega)
  have continues : isContinuation (0x80 + code / 64 % 64).toUInt8 = true := by
    rw [isContinuation_toUInt8 thirdSmall]
    exact decide_eq_true (by omega)
  have ends : isContinuation (0x80 + code % 64).toUInt8 = true := by
    rw [isContinuation_toUInt8 fourthSmall]
    exact decide_eq_true (by omega)
  have whole : (0xF0 + code / 262144) % 8 * 262144 + (0x80 + code / 4096 % 64) % 64 * 4096
      + (0x80 + code / 64 % 64) % 64 * 64 + (0x80 + code % 64) % 64 = code := by omega
  rw [pieces.eq_def]
  simp only [begins, follows, continues, ends, Bool.not_true, Bool.false_eq_true, if_false,
    payload_toUInt8 secondSmall, payload_toUInt8 thirdSmall, payload_toUInt8 fourthSmall,
    toNat_toUInt8 firstSmall, whole]

/-- The bytes of a character are one piece, whatever follows them. -/
theorem pieces_encodeChar (character : Char) (rest : List UInt8) :
    pieces (encodeChar character ++ rest) = .char character :: pieces rest := by
  have bounds : character.toNat < 0xD800 ∨ 0xDFFF < character.toNat ∧ character.toNat < 0x110000 :=
    character.valid
  conv => rhs; rw [← Char.ofNat_toNat character]
  unfold encodeChar
  dsimp only
  -- There is one case for each width.
  split
  case isTrue one => exact pieces_one one rest
  case isFalse wide =>
    split
    case isTrue two => exact pieces_two (by omega) two rest
    case isFalse wider =>
      split
      case isTrue three => exact pieces_three (by omega) three (by omega) rest
      case isFalse widest => exact pieces_four (by omega) (by omega) rest

/-- The pieces of the bytes of characters are these characters. -/
theorem pieces_encode (characters : List Char) :
    pieces (characters.flatMap encodeChar) = characters.map Piece.char := by
  induction characters with
  | nil => rw [List.flatMap_nil, pieces, List.map_nil]
  | cons character rest cut => rw [List.flatMap_cons, pieces_encodeChar, cut, List.map_cons]

/-- The bytes of characters are read as these characters. -/
theorem decodeChars_encode (characters : List Char) :
    decodeChars (characters.flatMap encodeChar) = characters := by
  rw [decodeChars, pieces_encode, List.map_map]
  exact List.map_id characters

/-- There is nothing wrong with characters. -/
theorem faultFrom?_chars (characters : List Char) (index : Nat) :
    faultFrom? index (characters.map Piece.char) = none := by
  induction characters generalizing index with
  | nil => rfl
  | cons character rest fine => exact fine _

/-- The form of a text is read as that text. -/
@[simp]
theorem decodeLossy_encode (text : String) : decodeLossy (encode text) = text := by
  rw [decodeLossy, encode, decodeChars_encode, String.ofList_toList]

/-- The form of a text is that text's own. -/
@[simp]
theorem decode_encode (text : String) : decode (encode text) = .ok text := by
  rw [decode, encode, pieces_encode, faultFrom?_chars, ← encode, decodeLossy_encode]

/-- Characters with the same bytes are the same. -/
theorem eq_of_bytes {characters others : List Char}
    (same : characters.flatMap encodeChar = others.flatMap encodeChar) : characters = others := by
  rw [← decodeChars_encode characters, same, decodeChars_encode]

/-- The bytes of a character are those that texts are kept as. -/
theorem encodeChar_eq (character : Char) : encodeChar character = String.utf8EncodeChar character := by
  have bound : character.toNat < 0x110000 := by
    have valid : character.toNat < 0xD800 ∨ 0xDFFF < character.toNat ∧ character.toNat < 0x110000 :=
      character.valid
    omega
  rw [encodeChar, String.utf8EncodeChar, show character.val.toNat = character.toNat from rfl]
  generalize character.toNat = code at bound ⊢
  -- Both sides distinguish the same four widths, and all bytes but the first are the same sums.
  rw [Nat.add_comm (code % 64), Nat.add_comm (code / 64 % 64), Nat.add_comm (code / 4096 % 64)]
  by_cases one : code < 0x80
  · rw [if_pos one, if_pos (show code ≤ 127 by omega)]
  · rw [if_neg one, if_neg (show ¬ code ≤ 127 by omega)]
    by_cases two : code < 0x800
    · rw [if_pos two, if_pos (show code ≤ 2047 by omega),
        show code / 64 % 32 + 192 = 0xC0 + code / 64 by omega]
    · rw [if_neg two, if_neg (show ¬ code ≤ 2047 by omega)]
      by_cases three : code < 0x10000
      · rw [if_pos three, if_pos (show code ≤ 65535 by omega),
          show code / 4096 % 16 + 224 = 0xE0 + code / 4096 by omega]
      · rw [if_neg three, if_neg (show ¬ code ≤ 65535 by omega),
          show code / 262144 % 8 + 240 = 0xF0 + code / 262144 by omega]

/-- The bytes of a text are those that it is kept as. -/
theorem encode_eq (text : String) : encode text = text.toUTF8.data.toList := by
  have kept : text.toUTF8 = text.toList.utf8Encode := by
    rw [String.toUTF8, ← String.toByteArray_ofList, String.ofList_toList]
  have bytes (list : List UInt8) : list.toByteArray.data.toList = list := by
    simp
  rw [kept, List.utf8Encode, bytes, encode, funext encodeChar_eq]

/-- The bytes that a text is kept as are read as that text, even if it holds the character that stands
for bytes that form none. -/
theorem decodeLossy_toUTF8 (text : String) : decodeLossy text.toUTF8.data.toList = text := by
  rw [← encode_eq, decodeLossy_encode]

end DatabaseLifecycle.Text.Utf8
