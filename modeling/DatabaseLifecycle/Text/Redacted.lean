import DatabaseLifecycle.Text.Quoted

/-! Descriptions of values for a reader, in which secrets are replaced by a fixed text. -/

namespace DatabaseLifecycle.Text

/-- What is shown in place of a secret. -/
def redacted : String := "<redacted>"

/-- A text that may be missing, described. -/
def describedOption : Option String → String
  | some text => "Some(" ++ quoted text ++ ")"
  | none => "None"

/-- A truth value, described. -/
def describedBool (value : Bool) : String := if value then "true" else "false"

/-- A named group of described fields. -/
def describedFields (name : String) (fields : List (String × String)) : String :=
  name ++ " \x7b " ++ ", ".intercalate (fields.map fun field => field.1 ++ ": " ++ field.2)
    ++ " \x7d"

end DatabaseLifecycle.Text
