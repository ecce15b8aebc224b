import DatabaseLifecycle.Cli.Setting
import DatabaseLifecycle.Poll

/-!
Reading of a command line, word by word. A setting's value is judged only when the next argument
comes or the words are over, so that an unknown argument is reported before a bad value in front of
it; what stands after a command is judged before what stands in front of it.
-/

namespace DatabaseLifecycle.Cli

/-- The values given for settings. -/
abbrev Settings : Type := (setting : Setting) → Option setting.Value

namespace Settings

/-- No values. -/
def empty : Settings := fun _ => none

/-- The values with one more. -/
def insert (settings : Settings) (setting : Setting) (value : setting.Value) : Settings :=
  fun other => if same : setting = other then some (same ▸ value) else settings other

end Settings

/-- What has been read in front of a command or after it. -/
structure Reading where
  /-- The values of settings. -/
  settings : Settings := Settings.empty
  /-- Whether the manifests are asked for. -/
  manifests : Bool := false
  /-- A setting that is not judged yet, with the word for its value if there was one. -/
  open? : Option (Setting × Option String) := none

namespace Reading

/-- The reading with a value for a setting, which must not have one. -/
def give (reading : Reading) (setting : Setting) (text : String) : Except Ending Reading := do
  if (reading.settings setting).isSome then throw .repeated
  else return { reading with settings := reading.settings.insert setting (← setting.read text) }

/-- The reading with nothing left to be judged. -/
def settle (reading : Reading) : Except Ending Reading :=
  match reading.open? with
  | none => .ok reading
  | some (_, none) => .error .badValue
  | some (setting, some text) => { reading with open? := none }.give setting text

/-- The reading after a switch. -/
def turnOn (reading : Reading) (switch : Switch) : Except Ending Reading := do
  let reading ← reading.settle
  match switch with
  | .help => throw .help
  | .version => throw .version
  | .manifests =>
    if reading.manifests then throw .repeated else return { reading with manifests := true }

/-- The reading after a setting whose value is in the same word. -/
def giveAttached (reading : Reading) (setting : Setting) (text : String) :
    Except Ending Reading := do
  (← reading.settle).give setting text

/-- The reading after a setting whose value is in the next word. -/
def await (reading : Reading) (setting : Setting) : Except Ending Reading := do
  return { ← reading.settle with open? := some (setting, none) }

/-- Whether the next word can only be a value. -/
def isAwaiting (reading : Reading) : Bool :=
  match reading.open? with
  | some (_, none) => true
  | _ => false

/-- The reading after a name with two dashes. -/
def readNamed (place : Place) (name : String) (value : Option String) (reading : Reading) :
    Except Ending Reading :=
  match Argument.named? place name, value with
  | none, _ => .error .unknownArgument
  | some (.switch _), some _ => .error .needlessValue
  | some (.switch switch), none => reading.turnOn switch
  | some (.setting setting), some text => reading.giveAttached setting text
  | some (.setting setting), none => reading.await setting

/-- The reading after letters with one dash. What follows the letter of a setting is its value, with
an equals sign in between or without. -/
def readLetters (place : Place) : List Char → Reading → Except Ending Reading
  | [], reading => .ok reading
  | letter :: rest, reading =>
    match Argument.lettered? place letter, rest with
    | none, _ => .error .unknownArgument
    | some (.switch switch), _ => do readLetters place rest (← reading.turnOn switch)
    | some (.setting setting), [] => reading.await setting
    | some (.setting setting), '=' :: value => reading.giveAttached setting (String.ofList value)
    | some (.setting setting), value => reading.giveAttached setting (String.ofList value)

end Reading

/-- A word by its shape. -/
inductive Word where
  /-- Two dashes alone. -/
  | separator
  /-- A name after two dashes, with what follows the first equals sign. -/
  | named (name : String) (value : Option String)
  /-- Letters after one dash. -/
  | letters (letters : List Char)
  /-- Anything else. -/
  | plain
  deriving DecidableEq, Repr, Inhabited

/-- The shape of a word. -/
def Word.ofText (text : String) : Word :=
  match text.toList with
  | ['-', '-'] => .separator
  | '-' :: '-' :: rest =>
    let name := String.ofList (rest.takeWhile (· != '='))
    match rest.dropWhile (· != '=') with
    | _ :: value => .named name (some (String.ofList value))
    | [] => .named name none
  | '-' :: first :: rest => .letters (first :: rest)
  | _ => .plain

/-- The word in the place of a command that asks for help. -/
def helpWord : String := "help"

/-- How help ends that is asked for with these words after it: there is help on each command and on
help itself. -/
def helpEnding : List String → Ending
  | [] => .help
  | [topic] => if topic == helpWord || (Verb.ofName? topic).isSome then .help else .unknownCommand
  | _ => .unknownCommand

/-- How reading ends at a word that is neither an argument nor a value, before two dashes. -/
def misplaced : Place → Ending
  | none => .unknownCommand
  | some _ => .unknownArgument

/-- How reading ends at a word after two dashes. -/
def misplacedLate (place : Place) (text : String) : Ending :=
  if text == helpWord || (Verb.ofName? text).isSome then .unknownArgument else misplaced place

/-- Reads words up to a command, which is given with the words after it. There are commands only in
front of one. -/
def readWords (place : Place) :
    List String → Reading → Except Ending (Reading × Option (Verb × List String))
  | [], reading => .ok (reading, none)
  | text :: rest, reading =>
    let isCommandPlace := place.isNone && !reading.isAwaiting
    if isCommandPlace && text == helpWord then .error (helpEnding rest)
    else
      match (Verb.ofName? text).filter fun _ => isCommandPlace with
      | some verb => .ok (reading, some (verb, rest))
      | none =>
        match Word.ofText text with
        | .separator =>
          match rest with
          | [] => .ok (reading, none)
          | late :: _ => .error (misplacedLate place late)
        | .named name value => do readWords place rest (← reading.readNamed place name value)
        | .letters letters => do readWords place rest (← reading.readLetters place letters)
        | .plain =>
          match reading.open? with
          | some (setting, none) =>
            readWords place rest { reading with open? := some (setting, some text) }
          | _ => .error (misplaced place)

/-- Where the templates and the cluster are. -/
structure Target where
  /-- The directory of the templates. -/
  templates : String
  /-- The kubeconfig file. -/
  kubeconfig : Option String := none
  deriving DecidableEq, Repr, Inhabited

/-- A command with what it needs to know. -/
inductive Command where
  /-- Every record is created, after a clone was pointed at its source, and the workload is probed.
  -/
  | provision (target : Target) (timings : Timings) (cloneFrom probeHost : Option String)
  /-- Every record is deleted. -/
  | deprovision (target : Target) (timings : Timings)
  /-- The control plane's view of the database is shown. -/
  | status (target : Target)
  /-- The reported backup schedule is compared with the requested one. -/
  | verifySchedule (target : Target)
  deriving DecidableEq, Repr, Inhabited

/-- A command line that was read. -/
structure CommandLine where
  /-- Whether the manifests are to be printed instead. -/
  manifests : Bool := false
  /-- The form of log lines. -/
  logFormat : Telemetry.LogFormat := .text
  /-- The command, if there is one. -/
  command : Option Command := none
  deriving DecidableEq, Repr, Inhabited

namespace Settings

/-- A budget with given parts in the place of its usual ones. -/
def budget (usual : Budget) (seconds : Option UInt64) (attempts : Option UInt32) : Budget :=
  { interval := (seconds.map fun given => given.toNat * 1000).getD usual.interval
    maxAttempts := (attempts.map (·.toNat)).getD usual.maxAttempts }

/-- How long the waits go on. -/
def timings (settings : Settings) : Timings :=
  let usual : Timings := {}
  { databaseReady :=
      budget usual.databaseReady (settings .readyInterval) (settings .readyAttempts)
    workloadRunning :=
      budget usual.workloadRunning (settings .workloadInterval) (settings .workloadAttempts)
    databaseDeleted :=
      budget usual.databaseDeleted (settings .deleteInterval) (settings .deleteAttempts) }

/-- The command of a verb with these settings. -/
def command (settings : Settings) (verb : Verb) (templates : String) : Command :=
  let target : Target := { templates, kubeconfig := settings .kubeconfig }
  match verb with
  | .provision =>
    .provision target settings.timings (settings .cloneFrom) (settings .probeHost)
  | .deprovision => .deprovision target settings.timings
  | .status => .status target
  | .verifySchedule => .verifySchedule target

end Settings

namespace CommandLine

/-- The variable that names the directory of the templates when no argument does. -/
def templatesVariable : String := "DBFLOW_TEMPLATES"

/-- The reading with the directory of the templates from the environment, unless it was given. -/
def withVariable (templates : Option String) (reading : Reading) : Except Ending Reading :=
  match reading.settings .templates, templates with
  | none, some text => reading.give .templates text
  | _, _ => .ok reading

/-- Reads the words after a command. -/
def readCommand (templates : Option String) (verb : Verb) (words : List String) :
    Except Ending (Settings × Command) := do
  let (reading, _) ← readWords (some verb) words {}
  let reading ← withVariable templates (← reading.settle)
  match reading.settings .templates with
  | none => throw .missingArgument
  | some templates => return (reading.settings, reading.settings.command verb templates)

/-- Reads a command line, of which the first word is the program's name, given the value of the
variable for the templates. -/
def read (templates : Option String) (words : List String) : Except Ending CommandLine := do
  let (reading, next) ← readWords none (words.drop 1) {}
  match next with
  | none =>
    let reading ← reading.settle
    return { manifests := reading.manifests, logFormat := (reading.settings .logFormat).getD .text }
  | some (verb, rest) =>
    let (settings, command) ← readCommand templates verb rest
    let reading ← reading.settle
    return {
      manifests := reading.manifests
      logFormat := (settings .logFormat <|> reading.settings .logFormat).getD .text
      command := some command }

end CommandLine

end DatabaseLifecycle.Cli
