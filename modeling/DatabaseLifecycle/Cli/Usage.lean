import DatabaseLifecycle.Cli.Setting

/-! What is shown when reading a command line ends without anything to carry out. -/

namespace DatabaseLifecycle.Cli

/-- The name of the program. -/
def programName : String := "dbflow"

/-- The version of the program. -/
def programVersion : String := "0.1.0"

/-- An argument as help shows it. -/
def Argument.usage (argument : Argument) : String :=
  let short := (argument.letter?.map fun letter => String.ofList ['-', letter, ',', ' ']).getD ""
  let value := match argument with
    | .switch _ => ""
    | .setting _ => " <VALUE>"
  "  " ++ short ++ "--" ++ argument.name ++ value ++ "\n"

/-- The arguments of a place as help shows them. -/
def usageOf (place : Place) : String :=
  let heading := match place with
    | none => "Usage: " ++ programName ++ " [OPTIONS] [COMMAND]\n"
    | some verb => "\n" ++ verb.name ++ ":\n"
  heading ++ String.join ((Argument.all place).map Argument.usage)

/-- All help. -/
def usage : String := usageOf none ++ String.join (Verb.all.map fun verb => usageOf (some verb))

namespace Ending

/-- The wording of an ending. -/
def message : Ending → String
  | help => usage
  | version => programName ++ " " ++ programVersion ++ "\n"
  | unknownArgument => "error: unexpected argument\n"
  | unknownCommand => "error: unrecognized subcommand\n"
  | needlessValue => "error: unexpected value for an argument that takes none\n"
  | repeated => "error: an argument cannot be used multiple times\n"
  | badValue => "error: a value is missing or not among the possible ones\n"
  | badNumber => "error: a value is not a number in its range\n"
  | missingArgument => "error: a required argument was not provided\n"

end Ending

end DatabaseLifecycle.Cli
