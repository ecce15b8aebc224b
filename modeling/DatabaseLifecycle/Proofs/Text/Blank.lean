import DatabaseLifecycle.Text.Blank
import Mathlib.Data.List.TakeWhile

/-!
Trimming takes away the blanks at the ends of a text and nothing else, and nothing is left exactly
of a text that holds nothing but blanks.
-/

namespace DatabaseLifecycle.Text

/-- Trimming leaves nothing exactly of blanks. -/
theorem trimmed_eq_nil_iff {characters : List Char} :
    trimmed characters = [] ↔ ∀ character ∈ characters, isBlank character = true := by
  -- What the first cut leaves is blank only if that cut left nothing.
  have cut : (∀ character ∈ characters.dropWhile isBlank, isBlank character = true)
      ↔ ∀ character ∈ characters, isBlank character = true := by
    constructor
    · intro left character listed
      rw [← List.takeWhile_append_dropWhile (p := isBlank) (l := characters),
        List.mem_append] at listed
      rcases listed with early | late
      · exact List.mem_takeWhile_imp early
      · exact left character late
    · intro blank character listed
      exact blank character ((List.dropWhile_suffix _).subset listed)
  rw [trimmed, List.reverse_eq_nil_iff, List.dropWhile_eq_nil_iff]
  simpa only [List.mem_reverse] using cut

/-- A text holds nothing but blanks exactly when its trimmed form is empty. -/
theorem isBlankText_iff {text : String} : isBlankText text = true ↔ trim text = "" := by
  rw [isBlankText, List.all_eq_true, trim, String.ofList_eq_empty_iff, trimmed_eq_nil_iff]

/-- A text is not blank exactly when trimming leaves something of it. -/
theorem isBlankText_eq_false_iff {text : String} : isBlankText text = false ↔ trim text ≠ "" := by
  rw [← Bool.not_eq_true, isBlankText_iff]

/-- What trimming takes away from a text are blanks at its ends. -/
theorem exists_blanks_around (characters : List Char) : ∃ before after,
    characters = before ++ trimmed characters ++ after
      ∧ (∀ character ∈ before, isBlank character = true)
      ∧ ∀ character ∈ after, isBlank character = true := by
  -- The blanks before are cut off first, and those after are the blanks before of what is reversed.
  let rest := characters.dropWhile isBlank
  have first : characters = characters.takeWhile isBlank ++ rest :=
    List.takeWhile_append_dropWhile.symm
  have last : rest = trimmed characters ++ (rest.reverse.takeWhile isBlank).reverse := by
    have cut : rest.reverse.takeWhile isBlank ++ rest.reverse.dropWhile isBlank = rest.reverse :=
      List.takeWhile_append_dropWhile
    rw [trimmed, ← List.reverse_append, cut, List.reverse_reverse]
  refine ⟨characters.takeWhile isBlank, (rest.reverse.takeWhile isBlank).reverse, ?_, ?_, ?_⟩
  · rw [List.append_assoc, ← last, ← first]
  · exact fun character listed => List.mem_takeWhile_imp listed
  · exact fun character listed => List.mem_takeWhile_imp (List.mem_reverse.mp listed)

/-- Blanks around a text that neither begins nor ends with one are what trimming takes away. -/
theorem trimmed_eq_of_blanks_around {before core after : List Char} {first last : Char}
    (blanksBefore : ∀ character ∈ before, isBlank character = true)
    (blanksAfter : ∀ character ∈ after, isBlank character = true)
    (begins : core.head? = some first) (ends : core.getLast? = some last)
    (firstVisible : isBlank first = false) (lastVisible : isBlank last = false) :
    trimmed (before ++ core ++ after) = core := by
  have shown {start : Char} {rest : List Char} (visible : isBlank start = false) :
      (start :: rest).dropWhile isBlank = start :: rest := by
    rw [List.dropWhile_cons_of_neg (by simp [visible])]
  obtain ⟨front, rfl⟩ := List.head?_eq_some_iff.mp begins
  -- Seen from its end, the text goes on with its last visible character.
  have back : ((first :: front) ++ after).reverse.dropWhile isBlank = (first :: front).reverse := by
    obtain ⟨inner, same⟩ := List.getLast?_eq_some_iff.mp ends
    rw [List.reverse_append, List.dropWhile_append_of_pos (by simpa using blanksAfter), same,
      List.reverse_append, List.reverse_singleton, List.singleton_append, shown lastVisible]
  rw [trimmed, List.append_assoc, List.dropWhile_append_of_pos blanksBefore, List.cons_append,
    shown firstVisible, ← List.cons_append, back, List.reverse_reverse]

/-- No digit is a blank. -/
theorem isBlank_of_isDigit {character : Char} (digit : character.isDigit = true) :
    isBlank character = false := by
  simp only [Char.isDigit, Bool.and_eq_true, decide_eq_true_eq, UInt32.le_iff_toNat_le] at digit
  have bounds : 48 ≤ character.toNat ∧ character.toNat ≤ 57 := digit
  simp [isBlank, blankRanges]
  omega

end DatabaseLifecycle.Text
