import DatabaseLifecycle.Proofs.Text.Blank
import DatabaseLifecycle.Resource.Database

/-!
A clone is told from an instance by its mode, and it is accepted exactly when nothing that it cannot be
submitted without is blank.
-/

namespace DatabaseLifecycle

namespace DatabaseSpec

variable {spec : DatabaseSpec}

/-- A database with the specification of a clone is one. -/
theorem isClone_of_clone {clone : CloneSpec} (mode : spec.mode = .clone clone) :
    spec.isClone = true := by
  rw [isClone, mode]

/-- A database with the specification of a fresh instance is no clone. -/
theorem isClone_of_fresh {fresh : InstanceSpec} (mode : spec.mode = .fresh fresh) :
    spec.isClone = false := by
  rw [isClone, mode]

end DatabaseSpec

namespace CloneSpec

/-- The fields that a clone cannot be submitted without and that are empty once they are trimmed. -/
def blankFields (clone : CloneSpec) : List String :=
  (if Text.trim clone.sourceDatabaseId = "" then ["sourceDatabaseId"] else [])
    ++ (if Text.trim clone.clusterId = "" then ["clusterId"] else [])
    ++ (if Text.trim clone.snapshotId = "" then ["snapshotId"] else [])

/-- The missing fields are those that trimming leaves nothing of. -/
theorem missingFields_eq (clone : CloneSpec) : clone.missingFields = clone.blankFields := by
  -- Each of the three fields is kept or left out on its own, and the order is the same.
  simp only [missingFields, blankFields, List.filter_cons, List.filter_nil, Text.isBlankText_iff]
  split <;> split <;> split <;> rfl

/-- A clone is refused with the list of its blank fields, and accepted when there is none. -/
theorem validate_eq (clone : CloneSpec) (resource : String) :
    clone.validate resource =
      if clone.blankFields = [] then .ok ()
      else .error (.validation resource
        ("clone requires non-empty " ++ ", ".intercalate clone.blankFields)) := by
  simp only [validate, missingFields_eq, List.isEmpty_iff]

/-- No field is blank exactly when something is left of each of the three ids. -/
theorem blankFields_eq_nil_iff (clone : CloneSpec) :
    clone.blankFields = [] ↔ Text.trim clone.sourceDatabaseId ≠ "" ∧ Text.trim clone.clusterId ≠ ""
      ∧ Text.trim clone.snapshotId ≠ "" := by
  simp [blankFields]

/-- Some field is blank exactly when nothing is left of one of the three ids. -/
theorem blankFields_ne_nil_iff (clone : CloneSpec) :
    clone.blankFields ≠ [] ↔ Text.trim clone.sourceDatabaseId = "" ∨ Text.trim clone.clusterId = ""
      ∨ Text.trim clone.snapshotId = "" := by
  simp only [ne_eq, blankFields_eq_nil_iff, not_and_or, not_not]

end CloneSpec

end DatabaseLifecycle
