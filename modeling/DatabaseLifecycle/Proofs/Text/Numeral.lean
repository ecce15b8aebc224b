import DatabaseLifecycle.Proofs.Text.Decimal
import DatabaseLifecycle.Text.Digits
import Mathlib.Data.List.Induction
import Mathlib.Data.Nat.Digits.Defs

/-!
Numerals: texts of one or more decimal digits, with any number of zeros before them. A numeral that
is read digit by digit in thirty-two bits either fits into them or is given up; it never wraps
around.
-/

namespace DatabaseLifecycle.Text

/-- A text writes a number: it is made of decimal digits, and the number is the sum of their values,
each weighed by a power of ten. -/
structure IsNumeral (digits : List Char) (number : Nat) : Prop where
  /-- There is a digit. -/
  nonempty : digits ≠ []
  /-- There is nothing else. -/
  proper : ∀ digit ∈ digits, digit.isDigit = true
  /-- The last digit is worth least. -/
  value : Nat.ofDigits 10 (digits.reverse.map fun digit => digit.toNat - '0'.toNat) = number

/-- A text does not write two numbers. -/
theorem IsNumeral.unique {digits : List Char} {first second : Nat} (one : IsNumeral digits first)
    (other : IsNumeral digits second) : first = second := one.value.symm.trans other.value

/-- One more digit adds its value to ten times the number before it. -/
theorem digitsValue_append (digits : List Char) (digit : Char) :
    digitsValue (digits ++ [digit]) = digitsValue digits * 10 + (digit.toNat - '0'.toNat) := by
  simp [digitsValue, List.foldl_append]

/-- The value of digits is the sum of their weighed values. -/
theorem digitsValue_eq_ofDigits (digits : List Char) : digitsValue digits
    = Nat.ofDigits 10 (digits.reverse.map fun digit => digit.toNat - '0'.toNat) := by
  -- From the last digit backwards: each digit before it is worth ten times as much.
  induction digits using List.reverseRecOn with
  | nil => rfl
  | append_singleton digits digit same =>
    rw [digitsValue_append, same, List.reverse_append, List.reverse_singleton,
      List.singleton_append, List.map_cons, Nat.ofDigits_cons]
    omega

/-- A number is read from a text exactly when the text writes it. -/
theorem natural?_eq_some_iff {digits : List Char} {number : Nat} :
    natural? digits = some number ↔ IsNumeral digits number := by
  unfold natural?
  constructor
  · intro read
    split at read
    · cases read
    · rename_i proper
      simp only [Bool.or_eq_true, List.isEmpty_iff, Bool.not_eq_true', List.all_eq_false, not_or,
        not_exists, not_and, Bool.not_eq_true, Bool.not_eq_false] at proper
      refine ⟨proper.1, proper.2, ?_⟩
      rw [← digitsValue_eq_ofDigits]
      exact Option.some.inj read
  · rintro ⟨nonempty, proper, value⟩
    rw [if_neg, digitsValue_eq_ofDigits, value]
    simpa [nonempty] using proper

/-- The digits of a number, filled up to two, write it. -/
theorem isNumeral_twoDigits (number : Nat) : IsNumeral (twoDigits number).toList number where
  nonempty := by
    rw [toList_twoDigits]
    simp [Nat.toDigits_ne_nil]
  proper _ := isDigit_of_mem_twoDigits
  value := by rw [← digitsValue_eq_ofDigits, digitsValue_twoDigits]

/-- A number of thirty-two bits with one more digit, if it still fits. -/
def appended? (number : UInt32) (digit : Char) : Option UInt32 :=
  if number.toNat * 10 + (digit.toNat - '0'.toNat) < UInt32.size then
    some (number * 10 + (digit.val - '0'.val))
  else none

/-- The number that digits write, built up digit by digit in thirty-two bits; none if it does not
fit. -/
def number32? (digits : List Char) : Option UInt32 := digits.foldlM appended? 0

/-- A digit that still fits is added without wrapping around. -/
theorem appended?_eq {number : UInt32} {digit : Char} (proper : digit.isDigit = true)
    (fits : number.toNat * 10 + (digit.toNat - '0'.toNat) < UInt32.size) :
    ∃ grown : UInt32, appended? number digit = some grown
      ∧ grown.toNat = number.toNat * 10 + (digit.toNat - '0'.toNat) := by
  refine ⟨_, if_pos fits, ?_⟩
  have least : '0'.val ≤ digit.val := by
    simp only [Char.isDigit, Bool.and_eq_true, decide_eq_true_eq] at proper
    exact proper.1
  have value : (digit.val - '0'.val).toNat = digit.toNat - '0'.toNat :=
    UInt32.toNat_sub_of_le _ _ least
  have size : UInt32.size = 4294967296 := rfl
  have ten : (10 : UInt32).toNat = 10 := rfl
  rw [UInt32.toNat_add, UInt32.toNat_mul, value, ten]
  omega

/-- A number followed by further digits. -/
def followedBy (number : Nat) (digits : List Char) : Nat :=
  digits.foldl (fun value digit => value * 10 + (digit.toNat - '0'.toNat)) number

/-- Further digits never make a number smaller. -/
theorem le_followedBy (number : Nat) (digits : List Char) : number ≤ followedBy number digits := by
  induction digits generalizing number with
  | nil => exact Nat.le_refl _
  | cons digit rest grows =>
    have first := grows (number * 10 + (digit.toNat - '0'.toNat))
    rw [followedBy, List.foldl_cons, ← followedBy]
    omega

/-- In thirty-two bits a number is followed by digits as long as it fits. -/
theorem foldlM_appended? {digits : List Char} (number : UInt32)
    (proper : ∀ digit ∈ digits, digit.isDigit = true) :
    digits.foldlM appended? number = if followedBy number.toNat digits < UInt32.size then
      some (followedBy number.toNat digits).toUInt32 else none := by
  -- What has been read so far fits; once it does not, it can only grow.
  induction digits generalizing number with
  | nil =>
    have fits : number.toNat < UInt32.size := number.toNat_lt_size
    have same : number.toNat.toUInt32 = number := UInt32.ofNat_toNat
    simp [followedBy, fits, same]
  | cons digit rest later =>
    obtain ⟨first, others⟩ := List.forall_mem_cons.mp proper
    rw [List.foldlM_cons, followedBy, List.foldl_cons, ← followedBy]
    by_cases fits : number.toNat * 10 + (digit.toNat - '0'.toNat) < UInt32.size
    · obtain ⟨grown, appended, same⟩ := appended?_eq first fits
      rw [appended, ← same]
      exact later grown others
    · have least := le_followedBy (number.toNat * 10 + (digit.toNat - '0'.toNat)) rest
      rw [appended?, if_neg fits, if_neg (by omega)]
      rfl

/-- In thirty-two bits digits have their value if it fits, and none otherwise. -/
theorem number32?_eq {digits : List Char} (proper : ∀ digit ∈ digits, digit.isDigit = true) :
    number32? digits = if digitsValue digits < UInt32.size then some (digitsValue digits).toUInt32
      else none := foldlM_appended? 0 proper

end DatabaseLifecycle.Text
