import DatabaseLifecycle.Text.Base64

/-! Bytes written in Base64 are read back. -/

namespace DatabaseLifecycle.Text.Base64

/-- Each digit has its value, and none is the sign that fills a group. -/
theorem value?_digit : ∀ value < 64, value? (digit value) = some value ∧ digit value ≠ '=' := by
  decide

/-- A number below 256 that a byte has is that byte's. -/
theorem toUInt8_eq {number : Nat} {byte : UInt8} (same : number = byte.toNat) :
    number.toUInt8 = byte := by
  rw [same]
  exact UInt8.ofNat_toNat

/-- A whole group of digits is read with what follows it. -/
theorem decodeChars_group {bits : Nat} (small : bits < 16777216) {rest : List Char}
    {others : List UInt8} (later : decodeChars rest = some others) :
    decodeChars (digit (bits / 262144) :: digit (bits / 4096 % 64) :: digit (bits / 64 % 64)
        :: digit (bits % 64) :: rest)
      = some ((bits / 65536).toUInt8 :: (bits / 256 % 256).toUInt8 :: (bits % 256).toUInt8
          :: others) := by
  obtain ⟨first, -⟩ := value?_digit (bits / 262144) (by omega)
  obtain ⟨second, -⟩ := value?_digit (bits / 4096 % 64) (by omega)
  obtain ⟨third, -⟩ := value?_digit (bits / 64 % 64) (by omega)
  obtain ⟨fourth, unfilled⟩ := value?_digit (bits % 64) (by omega)
  have whole : ((bits / 262144 * 64 + bits / 4096 % 64) * 64 + bits / 64 % 64) * 64 + bits % 64
      = bits := by omega
  rw [decodeChars]
  · simp [first, second, third, fourth, later, whole]
  -- The last digit fills no group, so the group is none of those at the end.
  · intro _ filled _
    exact unfilled filled
  · intro filled _
    exact unfilled filled

/-- The bytes of written groups are those that were written. -/
theorem decodeChars_encodeChars (bytes : List UInt8) :
    decodeChars (encodeChars bytes) = some bytes := by
  fun_induction encodeChars bytes with
  | case1 first second third rest bits step =>
    have firstSmall := first.toNat_lt
    have secondSmall := second.toNat_lt
    have thirdSmall := third.toNat_lt
    have firstByte : (bits / 65536).toUInt8 = first := toUInt8_eq (by omega)
    have secondByte : (bits / 256 % 256).toUInt8 = second := toUInt8_eq (by omega)
    have thirdByte : (bits % 256).toUInt8 = third := toUInt8_eq (by omega)
    rw [decodeChars_group (by omega) step, firstByte, secondByte, thirdByte]
  | case2 first second bits =>
    -- The third digit has two spare bits, which are zero.
    have firstSmall := first.toNat_lt
    have secondSmall := second.toNat_lt
    obtain ⟨firstValue, -⟩ := value?_digit (bits / 262144) (by omega)
    obtain ⟨secondValue, -⟩ := value?_digit (bits / 4096 % 64) (by omega)
    obtain ⟨thirdValue, unfilled⟩ := value?_digit (bits / 64 % 64) (by omega)
    have whole : (bits / 262144 * 64 + bits / 4096 % 64) * 64 + bits / 64 % 64 = bits / 64 := by
      omega
    have firstByte : (bits / 64 / 1024).toUInt8 = first := toUInt8_eq (by omega)
    have secondByte : (bits / 64 / 4 % 256).toUInt8 = second := toUInt8_eq (by omega)
    rw [decodeChars]
    · simp [firstValue, secondValue, thirdValue, whole, firstByte, secondByte]
    · exact unfilled
  | case3 first bits =>
    -- The second digit has four spare bits, which are zero.
    have firstSmall := first.toNat_lt
    obtain ⟨firstValue, -⟩ := value?_digit (bits / 262144) (by omega)
    obtain ⟨secondValue, -⟩ := value?_digit (bits / 4096 % 64) (by omega)
    have whole : bits / 262144 * 64 + bits / 4096 % 64 = bits / 4096 := by omega
    have firstByte : (bits / 4096 / 16).toUInt8 = first := toUInt8_eq (by omega)
    simp [decodeChars, firstValue, secondValue, whole, firstByte]
  | case4 => rfl

/-- The written form of bytes is read as the bytes. -/
theorem decode?_encode (bytes : List UInt8) : decode? (encode bytes) = some bytes := by
  have read : decodeChars (encode bytes).toList = some bytes := by
    rw [encode, String.toList_ofList, decodeChars_encodeChars]
  simp [decode?, read]

end DatabaseLifecycle.Text.Base64
