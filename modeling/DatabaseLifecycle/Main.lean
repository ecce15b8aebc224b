import DatabaseLifecycle.Cli.Session
import DatabaseLifecycle.Cli.Usage
import DatabaseLifecycle.Document.Json

/-!
The program itself: its surroundings are the file system, the environment, the clock and the
console. It has no network, so that every request stays unanswered.
-/

namespace DatabaseLifecycle.Cli

/-- The number of the failure to read a directory as a file. -/
def directoryCode : UInt32 := 21

/-- What lies under a path of the file system. -/
def lookUnder (path : String) : IO PathState := do
  try
    return .file (← IO.FS.readBinFile path).toList
  catch failure =>
    return match failure with
      | .noFileOrDirectory .. => .absent
      | .inappropriateType _ code _ => if code == directoryCode then .directory else .absent
      | other => .unreadable (toString other)

/-- Lets some milliseconds pass, in portions that the clock can count. -/
def pause (milliseconds : Nat) : IO Unit := do
  let portion := 1000000
  for _ in [0:milliseconds / portion] do
    IO.sleep portion.toUInt32
  IO.sleep (milliseconds % portion).toUInt32

/-- A failure as a log line. -/
def logLine (format : Telemetry.LogFormat) (line : String) : String :=
  match format with
  | .text => "ERROR " ++ line
  | .json => Json.write (.object [("level", .text "ERROR"), ("message", .text line)])

/-- The failure to reach a cluster without a network. -/
def noNetwork : ClusterFailure :=
  .unreachable
    ["client error (Connect)", "tcp connect error", "Network is unreachable (os error 101)"]

/-- The surroundings of the program. -/
def surroundings (format : Telemetry.LogFormat) : Surroundings IO where
  valueOf name := IO.getEnv name
  look := lookUnder
  sendToCluster _ _ := return .error noNetwork
  sendToWeb _ := return none
  sleep := pause
  print text := IO.print text
  log line := IO.println (logLine format line)

/-- A failure with its causes, as the console shows it. -/
def failureText (failure : Failure) : String :=
  match failure.chain with
  | [] => ""
  | first :: causes =>
    "Error: " ++ first ++ "\n" ++
      (if causes.isEmpty then "" else
        "\nCaused by:\n" ++ String.join (causes.map fun cause => "    " ++ cause ++ "\n"))

/-- Shows how reading a command line ended. -/
def showEnding (ending : Ending) : IO Unit := do
  if ending.exitCode == 0 then IO.print ending.message else IO.eprint ending.message

/-- Carries out a command line and gives the status to exit with. -/
def runProgram (arguments : List String) : IO UInt32 := do
  match ← (surroundings .text).read (programName :: arguments) with
  | .error ending =>
    showEnding ending
    return ending.exitCode.toUInt32
  | .ok line =>
    match ← (surroundings line.logFormat).run line with
    | .ok () => return 0
    | .error failure =>
      IO.eprint (failureText failure)
      return 1

end DatabaseLifecycle.Cli

/-- The program. -/
def main (arguments : List String) : IO UInt32 := DatabaseLifecycle.Cli.runProgram arguments
