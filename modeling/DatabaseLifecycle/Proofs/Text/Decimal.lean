import DatabaseLifecycle.Proofs.Document.Json
import DatabaseLifecycle.Text.Padded

/-! Numbers are read back from their digits, also when zeros fill them up to two digits. -/

namespace DatabaseLifecycle.Text

/-- Numbers that are written alike are the same. -/
theorem toString_inj {first second : Nat} : toString first = toString second ↔ first = second := by
  refine ⟨fun same => ?_, congrArg toString⟩
  have digits (number : Nat) : (toString number).toList = Nat.toDigits 10 number := Nat.toList_repr
  rw [← Json.digitsValue_toDigits first, ← digits, same, digits, Json.digitsValue_toDigits]

/-- Zeros before digits do not count. -/
theorem digitsValue_zeros (count : Nat) (digits : List Char) :
    digitsValue (List.replicate count '0' ++ digits) = digitsValue digits := by
  induction count with
  | zero => rfl
  | succ count same =>
    -- The value is still nothing after a zero, so the digits behind it count as before.
    rw [List.replicate_succ, List.cons_append, ← same]
    rfl

/-- The digits of a number stand behind the zeros that it is filled up with. -/
theorem toList_twoDigits (number : Nat) : (twoDigits number).toList
    = List.replicate (2 - (toString number).length) '0' ++ Nat.toDigits 10 number := by
  have digits : (toString number).toList = Nat.toDigits 10 number := Nat.toList_repr
  simp only [twoDigits, padded, Alignment.split, String.toList_ofList, List.replicate_zero,
    List.append_nil, digits]

/-- The number is read back from its digits. -/
theorem digitsValue_twoDigits (number : Nat) : digitsValue (twoDigits number).toList = number := by
  rw [toList_twoDigits, digitsValue_zeros, Json.digitsValue_toDigits]

/-- A number is written in digits only. -/
theorem isDigit_of_mem_twoDigits {number : Nat} {digit : Char}
    (written : digit ∈ (twoDigits number).toList) : digit.isDigit = true := by
  rw [toList_twoDigits, List.mem_append] at written
  rcases written with zero | proper
  · obtain rfl := List.eq_of_mem_replicate zero
    rfl
  · exact Nat.isDigit_of_mem_toDigits (by decide) (by decide) proper

end DatabaseLifecycle.Text
