import DatabaseLifecycle.Proofs.Text.Blank
import DatabaseLifecycle.Proofs.Text.Numeral
import DatabaseLifecycle.Schedule

/-!
The texts that are read as times of day: three numerals with colons between them and blanks around,
each within its limit. The wording of a time is one of them exactly if the time is one of a day.
-/

namespace DatabaseLifecycle

/-- A number of digits within a limit is what they write, if that is within the limit. -/
theorem boundedNumber?_eq_some_iff {limit : Nat} (small : limit < UInt32.size) {digits : List Char}
    {number : UInt32} : boundedNumber? limit digits = some number ↔
      Text.IsNumeral digits number.toNat ∧ number.toNat ≤ limit := by
  simp only [boundedNumber?, Option.map_eq_some_iff, Option.filter_eq_some_iff,
    Text.natural?_eq_some_iff, decide_eq_true_eq]
  constructor
  · rintro ⟨value, ⟨written, within⟩, rfl⟩
    have same : value.toUInt32.toNat = value := UInt32.toNat_ofNat_of_lt' (by omega)
    rw [same]
    exact ⟨written, within⟩
  · rintro ⟨written, within⟩
    exact ⟨number.toNat, ⟨written, within⟩, UInt32.ofNat_toNat⟩

/-- Reading a number within a limit and reading it in thirty-two bits before the limit is looked at
come to the same. -/
theorem boundedNumber?_eq (limit : UInt32) (digits : List Char) :
    boundedNumber? limit.toNat digits =
      if !digits.isEmpty && digits.all Char.isDigit then
        (Text.number32? digits).filter (· ≤ limit)
      else none := by
  have small : limit.toNat < UInt32.size := limit.toNat_lt_size
  have said : (!digits.isEmpty && digits.all Char.isDigit) = true
      ↔ digits ≠ [] ∧ ∀ digit ∈ digits, digit.isDigit = true := by simp
  simp only [said]
  by_cases proper : digits ≠ [] ∧ ∀ digit ∈ digits, digit.isDigit = true
  · have read : Text.natural? digits = some (Text.digitsValue digits) :=
      Text.natural?_eq_some_iff.mpr ⟨proper.1, proper.2, (Text.digitsValue_eq_ofDigits digits).symm⟩
    rw [if_pos proper, Text.number32?_eq proper.2, boundedNumber?, read]
    by_cases fits : Text.digitsValue digits < UInt32.size
    · have same : (Text.digitsValue digits).toUInt32.toNat = Text.digitsValue digits :=
        UInt32.toNat_ofNat_of_lt' fits
      simp [fits, UInt32.le_iff_toNat_le, same, Option.filter_some, apply_ite]
    · -- What does not fit is above every limit.
      have above : ¬ Text.digitsValue digits ≤ limit.toNat := by omega
      simp [fits, above, Option.filter_some]
  · -- Neither way reads what is not made of digits.
    have unread : Text.natural? digits = none := by
      refine Option.eq_none_iff_forall_ne_some.mpr fun number read => proper ?_
      have written := Text.natural?_eq_some_iff.mp read
      exact ⟨written.nonempty, written.proper⟩
    rw [if_neg proper, boundedNumber?, unread]
    rfl

namespace TimeOfDay

/-- Whether a time is one of a day. -/
def IsOfDay (time : TimeOfDay) : Prop :=
  time.hours.toNat ≤ 23 ∧ time.minutes.toNat ≤ 59 ∧ time.seconds.toNat ≤ 59

instance (time : TimeOfDay) : Decidable time.IsOfDay := inferInstanceAs (Decidable (_ ∧ _ ∧ _))

/-- A text writes a time: it consists of the numbers of its hours, minutes and seconds with two
colons between them, and of blanks at the ends. -/
def Writes (text : String) (time : TimeOfDay) : Prop :=
  ∃ before hours minutes seconds after : List Char,
    text.toList = before ++ (hours ++ ':' :: (minutes ++ ':' :: seconds)) ++ after
      ∧ (∀ character ∈ before, Text.isBlank character = true)
      ∧ (∀ character ∈ after, Text.isBlank character = true)
      ∧ Text.IsNumeral hours time.hours.toNat
      ∧ Text.IsNumeral minutes time.minutes.toNat
      ∧ Text.IsNumeral seconds time.seconds.toNat

/-- A text is read as a time exactly when three numbers within the limits are left of it between two
colons. -/
theorem parse?_eq_some_iff_splitOn {text : String} {time : TimeOfDay} : parse? text = some time ↔
    ∃ hours minutes seconds, (Text.trimmed text.toList).splitOn ':' = [hours, minutes, seconds]
      ∧ boundedNumber? 23 hours = some time.hours ∧ boundedNumber? 59 minutes = some time.minutes
      ∧ boundedNumber? 59 seconds = some time.seconds := by
  unfold parse?
  constructor
  · intro parsed
    split at parsed
    · rename_i hours minutes seconds parts
      simp only [Option.bind_eq_bind, Option.bind_eq_some_iff, Option.pure_def, Option.some.injEq]
        at parsed
      obtain ⟨_, first, _, second, _, third, rfl⟩ := parsed
      exact ⟨hours, minutes, seconds, parts, first, second, third⟩
    · cases parsed
  · rintro ⟨hours, minutes, seconds, parts, first, second, third⟩
    simp only [parts, first, second, third]
    rfl

/-- Numbers with colons between them are cut at the colons. -/
theorem splitOn_numerals {hours minutes seconds : List Char} {first second third : Nat}
    (hoursNumeral : Text.IsNumeral hours first) (minutesNumeral : Text.IsNumeral minutes second)
    (secondsNumeral : Text.IsNumeral seconds third) :
    (hours ++ ':' :: (minutes ++ ':' :: seconds)).splitOn ':' = [hours, minutes, seconds] := by
  -- No colon stands inside a number.
  have inside {digits : List Char} {number : Nat} (numeral : Text.IsNumeral digits number) :
      ':' ∉ digits := fun listed => Bool.false_ne_true (numeral.proper _ listed)
  have joined : hours ++ ':' :: (minutes ++ ':' :: seconds)
      = [':'].intercalate [hours, minutes, seconds] := by
    simp [List.intercalate, List.intersperse]
  rw [joined]
  refine List.splitOn_intercalate ':' ?_ (by simp)
  simp [inside hoursNumeral, inside minutesNumeral, inside secondsNumeral]

/-- A text writes a time exactly when trimming leaves three numbers of it between two colons. -/
theorem writes_iff {text : String} {time : TimeOfDay} : Writes text time ↔
    ∃ hours minutes seconds, (Text.trimmed text.toList).splitOn ':' = [hours, minutes, seconds]
      ∧ Text.IsNumeral hours time.hours.toNat ∧ Text.IsNumeral minutes time.minutes.toNat
      ∧ Text.IsNumeral seconds time.seconds.toNat := by
  constructor
  · rintro ⟨before, hours, minutes, seconds, after, around, blanksBefore, blanksAfter, first,
      second, third⟩
    refine ⟨hours, minutes, seconds, ?_, first, second, third⟩
    -- The numbers at the ends begin and end with digits, so nothing of them is trimmed away.
    obtain ⟨digit, others, rfl⟩ := List.exists_cons_of_ne_nil first.nonempty
    have ends : (digit :: others ++ ':' :: (minutes ++ ':' :: seconds)).getLast?
        = some (seconds.getLast third.nonempty) := by
      simp [List.getLast?_append, List.getLast?_cons,
        List.getLast?_eq_some_getLast third.nonempty]
    have left : Text.trimmed text.toList
        = digit :: others ++ ':' :: (minutes ++ ':' :: seconds) := by
      rw [around]
      refine Text.trimmed_eq_of_blanks_around blanksBefore blanksAfter rfl ends ?_ ?_
      · exact Text.isBlank_of_isDigit (first.proper digit List.mem_cons_self)
      · exact Text.isBlank_of_isDigit (third.proper _ (List.getLast_mem third.nonempty))
    rw [left, splitOn_numerals first second third]
  · rintro ⟨hours, minutes, seconds, parts, first, second, third⟩
    obtain ⟨before, after, around, blanksBefore, blanksAfter⟩ :=
      Text.exists_blanks_around text.toList
    refine ⟨before, hours, minutes, seconds, after, ?_, blanksBefore, blanksAfter, first, second,
      third⟩
    -- Joined by colons again, the parts are what was cut.
    have joined : [':'].intercalate ((Text.trimmed text.toList).splitOn ':')
        = Text.trimmed text.toList := List.intercalate_splitOn ':'
    rw [parts] at joined
    rw [around, ← joined]
    simp [List.intercalate, List.intersperse]

/-- A text does not write two times. -/
theorem Writes.unique {text : String} {first second : TimeOfDay} (one : Writes text first)
    (other : Writes text second) : first = second := by
  obtain ⟨hours, minutes, seconds, parts, firstHours, firstMinutes, firstSeconds⟩ :=
    writes_iff.mp one
  obtain ⟨_, _, _, same, secondHours, secondMinutes, secondSeconds⟩ := writes_iff.mp other
  rw [parts] at same
  -- Both times have their numbers from the same three parts.
  obtain ⟨rfl, rfl, rfl⟩ : hours = _ ∧ minutes = _ ∧ seconds = _ := by simpa using same
  have hoursSame := UInt32.toNat_inj.mp (firstHours.unique secondHours)
  have minutesSame := UInt32.toNat_inj.mp (firstMinutes.unique secondMinutes)
  have secondsSame := UInt32.toNat_inj.mp (firstSeconds.unique secondSeconds)
  cases first
  cases second
  simp_all

/-- A text is read as a time exactly when it writes the time and that is one of a day. -/
theorem parse?_eq_some_iff {text : String} {time : TimeOfDay} :
    parse? text = some time ↔ Writes text time ∧ time.IsOfDay := by
  have limits : 23 < UInt32.size ∧ 59 < UInt32.size := by decide
  simp only [parse?_eq_some_iff_splitOn, writes_iff, boundedNumber?_eq_some_iff limits.1,
    boundedNumber?_eq_some_iff limits.2]
  constructor
  · rintro ⟨hours, minutes, seconds, parts, ⟨first, early⟩, ⟨second, middle⟩, ⟨third, late⟩⟩
    exact ⟨⟨hours, minutes, seconds, parts, first, second, third⟩, early, middle, late⟩
  · rintro ⟨⟨hours, minutes, seconds, parts, first, second, third⟩, early, middle, late⟩
    exact ⟨hours, minutes, seconds, parts, ⟨first, early⟩, ⟨second, middle⟩, ⟨third, late⟩⟩

/-- The wording of a time writes it. -/
theorem writes_text (time : TimeOfDay) : Writes time.text time := by
  refine ⟨[], _, _, _, [], ?_, by simp, by simp, Text.isNumeral_twoDigits _,
    Text.isNumeral_twoDigits _, Text.isNumeral_twoDigits _⟩
  simp [text, String.toList_append]

/-- The wording of a time is read as the time if that is one of a day, and as none otherwise. -/
theorem parse?_text (time : TimeOfDay) :
    parse? time.text = if time.IsOfDay then some time else none := by
  by_cases ofDay : time.IsOfDay
  · rw [if_pos ofDay, parse?_eq_some_iff]
    exact ⟨writes_text time, ofDay⟩
  · -- The wording writes no other time that could be read.
    rw [if_neg ofDay]
    refine Option.eq_none_iff_forall_ne_some.mpr fun other parsed => ofDay ?_
    obtain ⟨written, otherOfDay⟩ := parse?_eq_some_iff.mp parsed
    rwa [(writes_text time).unique written]

/-- Exactly the texts that write a time of a day are read, each as the time that it writes, and what
exceeds thirty-two bits is never read as something smaller. The wording of a time is read as the time
if that is one of a day and not at all otherwise, so the wording of what was read is read as the
same. -/
theorem parse_reads_written_times (text : String) :
    (∀ time, parse? text = some time ↔ Writes text time ∧ time.IsOfDay)
      ∧ (∀ (limit : UInt32) (digits : List Char), boundedNumber? limit.toNat digits =
          if !digits.isEmpty && digits.all Char.isDigit then
            (Text.number32? digits).filter (· ≤ limit)
          else none)
      ∧ (∀ time : TimeOfDay, parse? time.text = if time.IsOfDay then some time else none)
      ∧ (parse? text).bind (fun time => parse? time.text) = parse? text := by
  refine ⟨fun time => parse?_eq_some_iff, boundedNumber?_eq, parse?_text, ?_⟩
  cases parsed : parse? text with
  | none => rfl
  | some time => rw [Option.bind_some, parse?_text, if_pos (parse?_eq_some_iff.mp parsed).2]

end TimeOfDay

end DatabaseLifecycle
