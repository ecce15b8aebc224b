import DatabaseLifecycle.Url.Basic

/-!
Slashes where texts are joined. However many stand at the end of the one and at the start of the other,
one is left between them, so it does not matter which of three texts are joined first.
-/

namespace DatabaseLifecycle.Url

/-- Slashes in a row. -/
def slashes (count : Nat) : String := String.ofList (List.replicate count '/')

@[simp] theorem toList_slashes (count : Nat) :
    (slashes count).toList = List.replicate count '/' := String.toList_ofList

/-- Whether a text has no slash at its start. -/
def BeginsBare (text : String) : Prop := text.toList.head? ≠ some '/'

/-- Whether a text has no slash at its end. -/
def EndsBare (text : String) : Prop := text.toList.getLast? ≠ some '/'

/-- Characters are slashes, and others that do not begin with one. -/
theorem exists_replicate_append (text : List Char) :
    ∃ count rest, rest.head? ≠ some '/' ∧ text = List.replicate count '/' ++ rest := by
  induction text with
  | nil => exact ⟨0, [], by simp, rfl⟩
  | cons first text step =>
    by_cases slash : first = '/'
    · -- One more slash stands in front of those of the rest.
      obtain ⟨count, rest, bare, same⟩ := step
      exact ⟨count + 1, rest, bare, by rw [slash, same, List.replicate_succ, List.cons_append]⟩
    · exact ⟨0, first :: text, by simpa using slash, rfl⟩

/-- A text is slashes, and one that begins bare. -/
theorem exists_beginsBare (text : String) :
    ∃ count back, BeginsBare back ∧ text = slashes count ++ back := by
  obtain ⟨count, rest, bare, same⟩ := exists_replicate_append text.toList
  refine ⟨count, .ofList rest, by rwa [BeginsBare, String.toList_ofList], ?_⟩
  apply String.toList_injective
  simpa using same

/-- A text is one that ends bare, and slashes. -/
theorem exists_endsBare (text : String) :
    ∃ front count, EndsBare front ∧ text = front ++ slashes count := by
  -- Read from its end, the text begins with the slashes.
  obtain ⟨count, rest, bare, same⟩ := exists_replicate_append text.toList.reverse
  refine ⟨.ofList rest.reverse, count, ?_, ?_⟩
  · rwa [EndsBare, String.toList_ofList, List.getLast?_reverse]
  · apply String.toList_injective
    simpa using congrArg List.reverse same

/-- Of slashes and what does not begin with one, the slashes are cut. -/
theorem dropWhile_slashes {text : List Char} (bare : text.head? ≠ some '/') (count : Nat) :
    (List.replicate count '/' ++ text).dropWhile (· == '/') = text := by
  have slash : ∀ character ∈ List.replicate count '/', (character == '/') = true := by
    intro character listed
    simpa using List.eq_of_mem_replicate listed
  rw [List.dropWhile_append_of_pos slash]
  cases text with
  | nil => rfl
  | cons first rest =>
    have other : first ≠ '/' := by simpa using bare
    simp [other]

/-- Joining leaves one slash of those at the end of the one and at the start of the other. -/
theorem join_bare {front back : String} (ends : EndsBare front) (begins : BeginsBare back)
    (before after : Nat) :
    join (front ++ slashes before) (slashes after ++ back) = front ++ "/" ++ back := by
  have last : front.toList.reverse.head? ≠ some '/' := by rwa [List.head?_reverse]
  apply String.toList_injective
  simp only [join, String.toList_ofList, String.toList_append, toList_slashes, List.reverse_append,
    List.reverse_replicate]
  rw [dropWhile_slashes last, dropWhile_slashes begins, List.reverse_reverse]
  simp

/-- Slashes after slashes are slashes. -/
theorem slashes_append (count more : Nat) : slashes count ++ slashes more = slashes (count + more) := by
  apply String.toList_injective
  simp

/-- More slashes at the end of the one and at the start of the other make no difference. -/
theorem join_slashes (base path : String) (before after : Nat) :
    join (base ++ slashes before) (slashes after ++ path) = join base path := by
  obtain ⟨front, count, ends, rfl⟩ := exists_endsBare base
  obtain ⟨other, back, begins, rfl⟩ := exists_beginsBare path
  have more : front ++ slashes count ++ slashes before = front ++ slashes (count + before) := by
    rw [String.append_assoc, slashes_append]
  have others : slashes after ++ (slashes other ++ back) = slashes (after + other) ++ back := by
    rw [← String.append_assoc, slashes_append]
  rw [more, others, join_bare ends begins, join_bare ends begins]

/-- A text that begins bare and is not empty still does so when something follows it. -/
theorem BeginsBare.append {text : String} (bare : BeginsBare text) (occupied : text ≠ "")
    (more : String) : BeginsBare (text ++ more) := by
  obtain ⟨first, rest, split⟩ := List.exists_cons_of_ne_nil (mt String.toList_eq_nil_iff.mp occupied)
  rw [BeginsBare, split] at bare
  rw [BeginsBare, String.toList_append, split]
  exact bare

/-- A text that is not empty decides whether what it is the end of ends bare. -/
theorem endsBare_append {text : String} (occupied : text ≠ "") (front : String) :
    EndsBare (front ++ text) ↔ EndsBare text := by
  have last := List.getLast?_eq_some_getLast (mt String.toList_eq_nil_iff.mp occupied)
  rw [EndsBare, EndsBare, String.toList_append, List.getLast?_append, last, Option.some_or]

/-- Of three texts either two neighbours may be joined first. -/
theorem join_join (base middle path : String) :
    join (join base middle) path = join base (join middle path) := by
  obtain ⟨front, before, ends, rfl⟩ := exists_endsBare base
  obtain ⟨after, back, begins, rfl⟩ := exists_beginsBare path
  obtain ⟨inside, last, insideEnds, rfl⟩ := exists_endsBare middle
  obtain ⟨first, core, coreBegins, rfl⟩ := exists_beginsBare inside
  -- The inner text gives its last slashes up to the text behind it.
  have right : join (slashes first ++ core ++ slashes last) (slashes after ++ back)
      = slashes first ++ (core ++ ("/" ++ back)) := by
    rw [join_bare insideEnds begins]
    simp only [String.append_assoc]
  by_cases empty : core = ""
  · -- Between the outer texts stand nothing but slashes, and of these one is left.
    subst empty
    have left : join (front ++ slashes before) (slashes first ++ "" ++ slashes last)
        = front ++ slashes 1 := by
      have joined := join_bare ends coreBegins before (first + last)
      rw [String.append_empty, String.append_empty] at joined
      rw [String.append_empty, slashes_append, joined]
      rfl
    have slash : slashes first ++ ("" ++ ("/" ++ back)) = slashes (first + 1) ++ back := by
      rw [String.empty_append, ← slashes_append, String.append_assoc]
      rfl
    rw [left, right, slash, join_bare ends begins, join_bare ends begins]
  · -- Either way the inner text stands between two slashes.
    have left : join (front ++ slashes before) (slashes first ++ core ++ slashes last)
        = front ++ "/" ++ core ++ slashes last := by
      rw [String.append_assoc, join_bare ends (coreBegins.append empty _)]
      simp only [String.append_assoc]
    have leftEnds : EndsBare (front ++ "/" ++ core) :=
      (endsBare_append empty _).mpr ((endsBare_append empty _).mp insideEnds)
    rw [left, right, join_bare leftEnds begins, join_bare ends (coreBegins.append empty _)]
    simp only [String.append_assoc]

/-- What is joined is the base without the slashes at its end, one slash, and the path without those at
its start. So slashes that are added or left out there make no difference, and three texts may be joined
in either order. -/
theorem join_leaves_one_slash (base path : String) :
    (∃ front back before after, EndsBare front ∧ BeginsBare back
        ∧ base = front ++ slashes before ∧ path = slashes after ++ back
        ∧ join base path = front ++ "/" ++ back)
      ∧ (∀ before after, join (base ++ slashes before) (slashes after ++ path) = join base path)
      ∧ ∀ middle, join (join base middle) path = join base (join middle path) := by
  refine ⟨?_, join_slashes base path, fun middle => join_join base middle path⟩
  obtain ⟨front, before, ends, rfl⟩ := exists_endsBare base
  obtain ⟨after, back, begins, rfl⟩ := exists_beginsBare path
  exact ⟨front, back, before, after, ends, begins, rfl, rfl, join_bare ends begins before after⟩

end DatabaseLifecycle.Url
