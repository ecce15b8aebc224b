import DatabaseLifecycle.Telemetry
import DatabaseLifecycle.Text.Digits

/-!
What may stand on the command line: the commands, the settings that take a value, and the switches
that take none. Each setting has a type of its own for its values.
-/

namespace DatabaseLifecycle.Cli

/-- The ways in which reading a command line ends without anything to carry out. -/
inductive Ending where
  /-- Help is asked for. -/
  | help
  /-- The version is asked for. -/
  | version
  /-- There is no such argument. -/
  | unknownArgument
  /-- There is no such command. -/
  | unknownCommand
  /-- An argument that takes no value is given one. -/
  | needlessValue
  /-- An argument is given twice. -/
  | repeated
  /-- A value is missing, or is not among the possible ones. -/
  | badValue
  /-- A value is no number in its range. -/
  | badNumber
  /-- A required argument is missing. -/
  | missingArgument
  deriving DecidableEq, Repr, Inhabited

/-- The status with which the program exits. -/
def Ending.exitCode : Ending → Nat
  | help | version => 0
  | _ => 2

/-- The commands. -/
inductive Verb where
  /-- Every record is created and the database and the workload are waited for. -/
  | provision
  /-- Every record is deleted and the database is waited for until it is gone. -/
  | deprovision
  /-- The control plane's view of the database is shown. -/
  | status
  /-- The reported backup schedule is compared with the requested one. -/
  | verifySchedule
  deriving DecidableEq, Repr, Inhabited

namespace Verb

/-- All commands. -/
def all : List Verb := [provision, deprovision, status, verifySchedule]

/-- The name of a command. -/
def name : Verb → String
  | provision => "provision"
  | deprovision => "deprovision"
  | status => "status"
  | verifySchedule => "verify-schedule"

/-- The command with a name. -/
def ofName? (name : String) : Option Verb := all.find? (·.name == name)

/-- Whether a command waits for something. -/
def waits : Verb → Bool
  | provision | deprovision => true
  | status | verifySchedule => false

end Verb

/-- The arguments that take no value. -/
inductive Switch where
  /-- The manifests of the record kinds are printed. -/
  | manifests
  /-- Help is asked for. -/
  | help
  /-- The version is asked for. -/
  | version
  deriving DecidableEq, Repr, Inhabited

namespace Switch

/-- The name after two dashes. -/
def name : Switch → String
  | manifests => "crd"
  | help => "help"
  | version => "version"

/-- The letter after one dash. -/
def letter? : Switch → Option Char
  | manifests => none
  | help => some 'h'
  | version => some 'V'

end Switch

/-- The arguments that take a value. -/
inductive Setting where
  /-- The form of log lines. -/
  | logFormat
  /-- The directory of the templates. -/
  | templates
  /-- The kubeconfig file. -/
  | kubeconfig
  /-- The seconds between two looks at a database that is not ready. -/
  | readyInterval
  /-- The looks at a database that is not ready. -/
  | readyAttempts
  /-- The seconds between two looks at a workload that does not run. -/
  | workloadInterval
  /-- The looks at a workload that does not run. -/
  | workloadAttempts
  /-- The seconds between two looks at a database that is not gone. -/
  | deleteInterval
  /-- The looks at a database that is not gone. -/
  | deleteAttempts
  /-- The database to clone. -/
  | cloneFrom
  /-- The host on which the workload is probed. -/
  | probeHost
  deriving DecidableEq, Repr, Inhabited

namespace Setting

/-- The name after two dashes. -/
def name : Setting → String
  | logFormat => "log-format"
  | templates => "templates"
  | kubeconfig => "kubeconfig"
  | readyInterval => "ready-interval-secs"
  | readyAttempts => "ready-attempts"
  | workloadInterval => "workload-interval-secs"
  | workloadAttempts => "workload-attempts"
  | deleteInterval => "delete-interval-secs"
  | deleteAttempts => "delete-attempts"
  | cloneFrom => "clone-from"
  | probeHost => "probe-host"

/-- The letter after one dash. -/
def letter? : Setting → Option Char
  | templates => some 't'
  | _ => none

/-- The values of a setting. -/
@[reducible] def Value : Setting → Type
  | logFormat => Telemetry.LogFormat
  | readyInterval | workloadInterval | deleteInterval => UInt64
  | readyAttempts | workloadAttempts | deleteAttempts => UInt32
  | templates | kubeconfig | cloneFrom | probeHost => String

/-- The form of log lines with a name. -/
def readFormat (text : String) : Except Ending Telemetry.LogFormat :=
  if text == "text" then .ok .text else if text == "json" then .ok .json else .error .badValue

/-- A path, which is not empty. -/
def readPath (text : String) : Except Ending String :=
  if text.isEmpty then .error .badValue else .ok text

/-- The digits after a plus sign, or the whole text. -/
def unsigned (text : List Char) : List Char :=
  match text with
  | '+' :: digits => digits
  | digits => digits

/-- A number of seconds, with a plus sign or without. -/
def readSeconds (text : String) : Except Ending UInt64 :=
  match (Text.natural? (unsigned text.toList)).filter (· < UInt64.size) with
  | some seconds => .ok seconds.toUInt64
  | none => .error .badNumber

/-- The value of a whole number with a sign or without. -/
def integer? (text : List Char) : Option Int :=
  match text with
  | '-' :: digits => (Text.natural? digits).map fun size => -(size : Int)
  | _ => (Text.natural? (unsigned text)).map fun size => (size : Int)

/-- A number of attempts, with a sign or without; a minus sign is in order before zero. -/
def readAttempts (text : String) : Except Ending UInt32 :=
  match (integer? text.toList).filter fun number => 0 ≤ number && number ≤ 4294967295 with
  | some number => .ok number.toNat.toUInt32
  | none => .error .badNumber

/-- The value that a text writes. -/
def read : (setting : Setting) → String → Except Ending setting.Value
  | logFormat, text => readFormat text
  | readyInterval, text | workloadInterval, text | deleteInterval, text => readSeconds text
  | readyAttempts, text | workloadAttempts, text | deleteAttempts, text => readAttempts text
  | templates, text | kubeconfig, text => readPath text
  | cloneFrom, text | probeHost, text => .ok text

end Setting

/-- Where an argument stands: before any command, or after one. -/
abbrev Place : Type := Option Verb

/-- An argument that begins with a dash. -/
inductive Argument where
  /-- One that takes no value. -/
  | switch (switch : Switch)
  /-- One that takes a value. -/
  | setting (setting : Setting)
  deriving DecidableEq, Repr, Inhabited

namespace Argument

/-- The switches of a place. -/
def switches : Place → List Switch
  | none => [.manifests, .help, .version]
  | some _ => [.help]

/-- The settings that say how long a command waits. -/
def waits : List Setting :=
  [.readyInterval, .readyAttempts, .workloadInterval, .workloadAttempts, .deleteInterval,
    .deleteAttempts]

/-- The settings of a place. -/
def settings : Place → List Setting
  | none => [.logFormat]
  | some verb =>
    [.logFormat, .templates, .kubeconfig] ++ (if verb.waits then waits else [])
      ++ (if verb = .provision then [.cloneFrom, .probeHost] else [])

/-- The arguments of a place. -/
def all (place : Place) : List Argument :=
  (switches place).map switch ++ (settings place).map setting

/-- The name after two dashes. -/
def name : Argument → String
  | switch argument => argument.name
  | setting argument => argument.name

/-- The letter after one dash. -/
def letter? : Argument → Option Char
  | switch argument => argument.letter?
  | setting argument => argument.letter?

/-- The argument of a place with a name. -/
def named? (place : Place) (name : String) : Option Argument :=
  (all place).find? (·.name == name)

/-- The argument of a place with a letter. -/
def lettered? (place : Place) (letter : Char) : Option Argument :=
  (all place).find? (·.letter? == some letter)

end Argument

end DatabaseLifecycle.Cli
