import DatabaseLifecycle.Proofs.Url.Percent
import DatabaseLifecycle.Url.Basic

/-!
Paths of URLs segment by segment: what the segments before the last one come to, and where the segments
of a resolved path come from.
-/

namespace DatabaseLifecycle.Url

/-- Whether a segment is resolved instead of kept. -/
def isDotted (segment : List Char) : Bool := isPlaceAbove segment || isSamePlace segment

/-- A text without numbers has none for a point. -/
theorem withPoints_eq {text : List Char} (numberless : ¬ HasNumber text) : withPoints text = text := by
  fun_induction withPoints text with
  | case1 letter rest point _ =>
    -- Both digits of the number of a point are hexadecimal.
    refine absurd (hasNumber_cons.mpr (.inl ⟨rfl, ?_⟩)) numberless
    rw [Bool.or_eq_true, beq_iff_eq, beq_iff_eq] at point
    rcases point with rfl | rfl
    · exact ⟨_, number?_of_values (show Json.hexValue? '2' = some 2 by decide)
        (show Json.hexValue? 'e' = some 14 by decide) rest⟩
    · exact ⟨_, number?_of_values (show Json.hexValue? '2' = some 2 by decide)
        (show Json.hexValue? 'E' = some 14 by decide) rest⟩
  | case2 letter rest _ same =>
    rw [same]
    exact fun numbered => numberless
      (hasNumber_cons.mpr (.inr (hasNumber_cons.mpr (.inr (hasNumber_cons.mpr (.inr numbered))))))
  | case3 character rest _ same =>
    rw [same]
    exact fun numbered => numberless (hasNumber_cons.mpr (.inr numbered))
  | case4 => rfl

/-- A text without numbers is kept in a path, unless it is one point or two. -/
theorem isDotted_eq_false_iff {text : List Char} (numberless : ¬ HasNumber text) :
    isDotted text = false ↔ text ≠ ['.'] ∧ text ≠ ['.', '.'] := by
  rw [isDotted, isPlaceAbove, isSamePlace, withPoints_eq numberless, Bool.or_eq_false_iff,
    beq_eq_false_iff_ne, beq_eq_false_iff_ne, and_comm]

/-- The segments that are done, the last one first, after one that is followed by others. -/
def climbed (done : List String) (segment : List Char) : List String :=
  if isPlaceAbove segment then done.drop 1
  else if isSamePlace segment then done
  else encode isPathEncoded segment :: done

/-- A segment that is kept is done. -/
theorem climbed_undotted (done : List String) {segment : List Char}
    (plain : isDotted segment = false) :
    climbed done segment = encode isPathEncoded segment :: done := by
  obtain ⟨above, same⟩ := Bool.or_eq_false_iff.mp plain
  simp [climbed, above, same]

/-- A segment that is followed by others is done before these. -/
theorem resolve_cons (done : List String) (segment : List Char) {rest : List (List Char)}
    (more : rest ≠ []) :
    resolve done (segment :: rest) = resolve (climbed done segment) rest := by
  cases rest with
  | nil => contradiction
  | cons second rest =>
    rw [resolve, climbed]
    · split
      · rfl
      · split <;> rfl
    · exact List.cons_ne_nil _ _

/-- Segments that are followed by others are done before these. -/
theorem resolve_append (done : List String) (earlier : List (List Char))
    {later : List (List Char)} (more : later ≠ []) :
    resolve done (earlier ++ later) = resolve (earlier.foldl climbed done) later := by
  induction earlier generalizing done with
  | nil => rfl
  | cons segment rest resolved =>
    rw [List.cons_append, resolve_cons done segment (by simp [more]), resolved, List.foldl_cons]

/-- A path that others could be added to is resolved to the segments before these, perhaps with an
empty one at the end. -/
theorem resolve_eq_append (done : List String) {segments : List (List Char)}
    (nonempty : segments ≠ []) :
    ∃ empties, resolve done segments
      = (segments.foldl climbed done).reverse ++ List.replicate empties "" := by
  induction segments generalizing done with
  | nil => contradiction
  | cons segment rest resolved =>
    cases rest with
    | nil =>
      rw [resolve, List.foldl_cons, List.foldl_nil, climbed]
      split
      · exact ⟨1, by simp⟩
      · split
        · exact ⟨1, by simp⟩
        · exact ⟨0, by simp⟩
    | cons second rest =>
      rw [resolve_cons done segment (List.cons_ne_nil _ _), List.foldl_cons]
      exact resolved _ (List.cons_ne_nil _ _)

/-- A segment of a resolved path is empty, or one of the segments that were resolved is written so. -/
def ComesFrom (segments : List (List Char)) (segment : String) : Prop :=
  segment = "" ∨ ∃ piece ∈ segments, isDotted piece = false ∧ segment = encode isPathEncoded piece

/-- What comes from some segments comes from more of them. -/
theorem ComesFrom.cons {segments : List (List Char)} {segment : String} (piece : List Char)
    (comes : ComesFrom segments segment) : ComesFrom (piece :: segments) segment := by
  rcases comes with empty | ⟨other, listed, plain, same⟩
  · exact .inl empty
  · exact .inr ⟨other, List.mem_cons_of_mem piece listed, plain, same⟩

/-- A resolved path keeps some of the segments that were done, and all others come from what was
resolved. -/
theorem resolve_eq_kept (done : List String) (segments : List (List Char)) :
    ∃ kept fresh, resolve done segments = kept ++ fresh ∧ kept <+: done.reverse
      ∧ ∀ segment ∈ fresh, ComesFrom segments segment := by
  induction segments generalizing done with
  | nil => exact ⟨done.reverse, [], (List.append_nil _).symm, List.prefix_rfl, nofun⟩
  | cons segment rest resolved =>
    have dropped : (done.drop 1).reverse <+: done.reverse :=
      List.reverse_prefix.mpr (List.drop_suffix 1 done)
    cases rest with
    | nil =>
      rw [resolve]
      split
      · exact ⟨_, [""], List.reverse_cons, dropped, by simp [ComesFrom]⟩
      · split
        · exact ⟨_, [""], List.reverse_cons, List.prefix_rfl, by simp [ComesFrom]⟩
        · exact ⟨_, [_], List.reverse_cons, List.prefix_rfl, by simp_all [ComesFrom, isDotted]⟩
    | cons second rest =>
      rw [resolve_cons done segment (List.cons_ne_nil _ _)]
      obtain ⟨kept, fresh, same, prefixed, comes⟩ := resolved (climbed done segment)
      have later (other : String) (listed : other ∈ fresh) := (comes other listed).cons segment
      unfold climbed at prefixed
      split at prefixed
      · exact ⟨kept, fresh, same, prefixed.trans dropped, later⟩
      · split at prefixed
        · exact ⟨kept, fresh, same, prefixed, later⟩
        · -- The new segment is kept with all that were done, or it is dropped again.
          rw [List.reverse_cons, List.prefix_concat_iff] at prefixed
          rcases prefixed with rfl | prefixed
          · refine ⟨done.reverse, encode isPathEncoded segment :: fresh, ?_, List.prefix_rfl, ?_⟩
            · rw [same, List.append_assoc, List.singleton_append]
            · rintro other (_ | ⟨_, listed⟩)
              · exact .inr ⟨segment, List.mem_cons_self, by simp_all [isDotted], rfl⟩
              · exact later other listed
          · exact ⟨kept, fresh, same, prefixed, later⟩

/-- Behind the segments that were done, a resolved path has only what comes from the others. -/
theorem comesFrom_of_mem_drop {done : List String} {segments : List (List Char)} {segment : String}
    (listed : segment ∈ (resolve done segments).drop done.length) : ComesFrom segments segment := by
  obtain ⟨kept, fresh, same, prefixed, comes⟩ := resolve_eq_kept done segments
  refine comes segment ?_
  have short : kept.length ≤ done.length := by simpa using prefixed.length_le
  rw [same, List.drop_append, List.drop_eq_nil_of_le short, List.nil_append] at listed
  exact List.mem_of_mem_drop listed

/-- Segments that are kept follow those that are done. -/
theorem resolve_undotted (done : List String) {segments : List (List Char)}
    (plain : ∀ segment ∈ segments, isDotted segment = false) :
    resolve done segments = done.reverse ++ segments.map (encode isPathEncoded) := by
  induction segments generalizing done with
  | nil => simp [resolve]
  | cons segment rest resolved =>
    have own := plain segment List.mem_cons_self
    cases rest with
    | nil =>
      obtain ⟨above, same⟩ := Bool.or_eq_false_iff.mp own
      simp [resolve, above, same]
    | cons second rest =>
      rw [resolve_cons done segment (List.cons_ne_nil _ _), climbed_undotted done own,
        resolved _ fun other listed => plain other (List.mem_cons_of_mem _ listed)]
      simp

/-- What lies between separators is part of the text and has none of them. -/
theorem sublist_of_mem_splitOnP {p : Char → Bool} {text piece : List Char}
    (listed : piece ∈ text.splitOnP p) :
    piece.Sublist text ∧ ∀ character ∈ piece, p character = false := by
  induction text generalizing piece with
  | nil =>
    rw [List.splitOnP_nil, List.mem_singleton] at listed
    simp [listed]
  | cons first rest parts =>
    rw [List.splitOnP_cons_eq_if_modifyHead] at listed
    split at listed
    · rcases List.mem_cons.mp listed with rfl | listed
      · exact ⟨List.nil_sublist _, nofun⟩
      · exact ⟨(parts listed).1.cons _, (parts listed).2⟩
    · rename_i apart
      cases split : rest.splitOnP p with
      | nil => exact absurd split (List.splitOnP_ne_nil p rest)
      | cons head others =>
        rw [split, List.modifyHead_cons] at listed
        rw [split] at parts
        rcases List.mem_cons.mp listed with rfl | listed
        · -- The first piece is longer by the character before it.
          obtain ⟨within, free⟩ := parts List.mem_cons_self
          refine ⟨within.cons_cons first, ?_⟩
          rintro character (_ | ⟨_, inside⟩)
          · simpa using apart
          · exact free character inside
        · obtain ⟨within, free⟩ := parts (List.mem_cons_of_mem _ listed)
          exact ⟨within.cons _, free⟩

/-- The segments of a path that is empty or begins with a slash, as they are written. -/
def pathPieces : List Char → List (List Char)
  | [] => []
  | _ :: rest => rest.splitOnP (isSlash true)

/-- A path that goes on behind a slash has its segments resolved before the others. -/
theorem pathSegments_append {path : List Char}
    (begins : ∀ first, path.head? = some first → isSlash true first = true) (more : List Char) :
    pathSegments true (path ++ '/' :: more)
      = resolve [] (pathPieces path ++ more.splitOnP (isSlash true)) := by
  have slash : isSlash true '/' = true := by decide
  cases path with
  | nil => rw [List.nil_append, pathSegments]; simp [slash, pathPieces]
  | cons first rest =>
    rw [List.cons_append, pathSegments]
    simp only [begins first rfl, if_true, pathPieces]
    rw [List.splitOnP_append_cons rest more slash]

/-- Nothing lies between slashes in a row. -/
theorem splitOnP_slashes (count : Nat) :
    (List.replicate count '/').splitOnP (isSlash true) = List.replicate (count + 1) [] := by
  have slash : isSlash true '/' = true := by decide
  induction count with
  | zero => exact List.splitOnP_nil
  | succ count split =>
    have first := List.splitOnP_append_cons [] (List.replicate count '/') slash
    rw [List.nil_append, List.splitOnP_nil, split] at first
    rw [List.replicate_succ, first, List.replicate_succ (n := count + 1)]
    rfl

/-- Empty segments are kept. -/
theorem foldl_climbed_empty (done : List String) (count : Nat) :
    (List.replicate count []).foldl climbed done = List.replicate count "" ++ done := by
  induction count generalizing done with
  | zero => rfl
  | succ count kept =>
    have empty : climbed done [] = "" :: done := rfl
    rw [List.replicate_succ, List.foldl_cons, kept, empty, List.replicate_succ',
      List.append_assoc, List.singleton_append]

/-- Slashes at the end of a path leave empty segments there. -/
theorem pathSegments_slashes {path : List Char}
    (begins : ∀ first, path.head? = some first → isSlash true first = true) (count : Nat) :
    ∃ empties, pathSegments true (path ++ List.replicate count '/')
      = ((pathPieces path).foldl climbed []).reverse ++ List.replicate empties "" := by
  cases count with
  | zero =>
    rw [List.replicate_zero, List.append_nil]
    cases path with
    | nil => exact ⟨1, rfl⟩
    | cons first rest =>
      rw [pathSegments]
      simp only [begins first rfl, if_true, pathPieces]
      exact resolve_eq_append [] (List.splitOnP_ne_nil _ _)
  | succ count =>
    rw [List.replicate_succ, pathSegments_append begins, splitOnP_slashes]
    have nonempty : pathPieces path ++ List.replicate (count + 1) [] ≠ [] := by simp
    obtain ⟨empties, resolved⟩ := resolve_eq_append [] nonempty
    refine ⟨count + 1 + empties, ?_⟩
    rw [resolved, List.foldl_append, foldl_climbed_empty, List.reverse_append,
      List.reverse_replicate, List.append_assoc, List.replicate_append_replicate]

end DatabaseLifecycle.Url
