import DatabaseLifecycle.Cli.CommandLine
import DatabaseLifecycle.Cluster.Kubeconfig
import DatabaseLifecycle.ControlPlane.Client
import DatabaseLifecycle.Manifests
import DatabaseLifecycle.Probe
import DatabaseLifecycle.Workflow.Clone
import DatabaseLifecycle.Workflow.Deprovision
import DatabaseLifecycle.Workflow.Provision
import DatabaseLifecycle.Workflow.Resolve
import DatabaseLifecycle.Yaml.Writer

/-!
Commands carried out: templates are loaded, the cluster is found, and a workflow's calls become
requests. What lies around the program (files, variables, network, clock, output) is a parameter.
-/

namespace DatabaseLifecycle.Cli

/-- What lies around the program. -/
structure Surroundings (m : Type → Type) where
  /-- The value of an environment variable. -/
  valueOf : String → m (Option String)
  /-- What lies under a path. -/
  look : String → m PathState
  /-- Sends a request to the cluster with an address. -/
  sendToCluster : Cluster.Address → Cluster.Transport m
  /-- Sends a request for what lies under a URL. -/
  sendToWeb : Web.Transport m
  /-- Lets some milliseconds pass. -/
  sleep : Nat → m Unit
  /-- Prints a text. -/
  print : String → m Unit
  /-- Logs a line. -/
  log : String → m Unit

/-- The causes for which a command fails. -/
inductive Failure where
  /-- There is no command. -/
  | noCommand
  /-- The templates cannot be loaded. -/
  | templates (directory : String) (cause : Error)
  /-- The cluster cannot be found. -/
  | cluster (cause : Error)
  /-- The clone cannot be pointed at its source. -/
  | clone (source : String) (cause : Error)
  /-- The workload has no port to be probed on. -/
  | noPort
  /-- The workflow failed, or something before or after it. -/
  | workflow (cause : Error)
  deriving DecidableEq, Inhabited

/-- The wordings of a failure and of each deeper cause. -/
def Failure.chain : Failure → List String
  | noCommand => ["no command given; see \x60dbflow --help\x60"]
  | templates directory cause => ("failed to load templates from " ++ directory) :: cause.chain
  | cluster cause => "failed to connect to the cluster" :: cause.chain
  | clone source cause => ("failed to prepare clone of '" ++ source ++ "'") :: cause.chain
  | noPort => ["workload declares no container port"]
  | workflow cause => cause.chain

/-- What is printed when the schedules agree. -/
def scheduleAgrees : String := "time machine schedule matches the request\n"

/-- The credentials that the environment names, for the tenant of a server registration if there is
one. -/
def credentialsFor (environment : Environment) (server : Option Server) :
    Except Error Credentials :=
  environment.credentials.map fun credentials =>
    match server with
    | none => credentials
    | some server =>
      (credentials.withTenant server.spec.tenant).withInsecure
        server.spec.skipCertificateVerification

/-- Points the clone of a bundle at a snapshot of its source, on the control plane that the
environment names. -/
def prepareClone (environment : Environment) (bundle : Bundle) (source : String) :
    ExceptT Failure Workflow Bundle := do
  let credentials ←
    (Workflow.ofResult (credentialsFor environment bundle.server)).adapt Failure.workflow
  (ExceptT.mk (Workflow.connect credentials)).adapt Failure.workflow
  match ← ExceptT.lift (Workflow.prepareClone environment bundle source) with
  | (.ok (), bundle) => return bundle
  | (.error cause, _) => throw (.clone source cause)

/-- The bundle as it is to be provisioned. -/
def prepare (environment : Environment) (bundle : Bundle) (cloneFrom : Option String) :
    ExceptT Failure Workflow Bundle :=
  match cloneFrom with
  | none => return bundle
  | some source => prepareClone environment bundle source

namespace Surroundings

variable {m : Type → Type} [Monad m]

/-- Answers a workflow's call with requests to the cluster and to the control plane connected to
last. -/
def answer (around : Surroundings m) (address : Cluster.Address) :
    (call : Call) → StateT Credentials m call.Reply
  | .create kind record =>
    StateT.lift (Cluster.create (address.guard (around.sendToCluster address)) kind record)
  | .fetch kind namespaceName name =>
    StateT.lift
      (Cluster.fetch (address.guard (around.sendToCluster address)) kind namespaceName name)
  | .delete kind namespaceName name =>
    StateT.lift
      (Cluster.delete (address.guard (around.sendToCluster address)) kind namespaceName name)
  | .connect credentials => do
    set credentials
    return ControlPlane.connect credentials
  | .lookup wanted => do
    StateT.lift (ControlPlane.lookup around.sendToWeb (← get) wanted)
  | .sleep milliseconds => StateT.lift (around.sleep milliseconds)
  | .log line => StateT.lift (around.log line)

/-- Carries a workflow out. -/
def perform {α : Type} (around : Surroundings m) (address : Cluster.Address)
    (workflow : Workflow α) : m α :=
  let nobody : Credentials := { endpoint := "", username := "", password := "" }
  (workflow.interpret (around.answer address)).run' nobody

/-- Carries out a workflow whose failure is the command's. -/
def performAll {α : Type} (around : Surroundings m) (address : Cluster.Address)
    (workflow : ExceptT Failure Workflow α) : ExceptT Failure m α :=
  ExceptT.mk (around.perform address workflow.run)

/-- Carries out a workflow that can fail. -/
def performOrFail {α : Type} (around : Surroundings m) (address : Cluster.Address)
    (workflow : Workflow (Except Error α)) : ExceptT Failure m α :=
  around.performAll address ((ExceptT.mk workflow).adapt Failure.workflow)

/-- The bundle of the templates. -/
def load (around : Surroundings m) (target : Target) : ExceptT Failure m Bundle :=
  (ExceptT.mk (Template.loadBundle around.look target.templates)).adapt
    (Failure.templates target.templates)

/-- The address of the cluster. -/
def connect (around : Surroundings m) (target : Target) : ExceptT Failure m Cluster.Address :=
  (ExceptT.mk (Kubeconfig.connect around.look around.valueOf target.kubeconfig)).adapt
    Failure.cluster

/-- The environment of workflows. -/
def environment (around : Surroundings m) : m Environment := do
  let values ← Environment.variableNames.mapM fun name => do return (name, ← around.valueOf name)
  return .ofLookup fun name => (values.lookup name).join

/-- Prints a report, whose error fails the command. -/
def finish (around : Surroundings m) (report : Report) : ExceptT Failure m Unit := do
  ExceptT.lift (around.print report.text)
  let _ ← (ExceptT.mk (pure report.result)).adapt Failure.workflow

/-- Asks whether the workload of a bundle answers on a host, if it is to be probed and there is one.
-/
def probe (around : Surroundings m) (address : Cluster.Address) (host : Option String)
    (bundle : Bundle) : ExceptT Failure m Unit :=
  match host, bundle.workload with
  | some host, some pod =>
    match pod.url? host with
    | none => throw .noPort
    | some url => do
      let result ← ExceptT.lift (Probe.probe around.sendToWeb url)
      around.performOrFail address (Workflow.logged Probe.operation result)
  | _, _ => return ()

/-- Provisions the templates. -/
def provision (around : Surroundings m) (target : Target) (timings : Timings)
    (cloneFrom probeHost : Option String) : ExceptT Failure m Unit := do
  let bundle ← around.load target
  let environment ← ExceptT.lift around.environment
  let address ← around.connect target
  let bundle ← around.performAll address (prepare environment bundle cloneFrom)
  let (result, bundle) ←
    ExceptT.lift (around.perform address (Workflow.provision environment timings bundle))
  around.finish (← (ExceptT.mk (pure result)).adapt Failure.workflow)
  around.probe address probeHost bundle

/-- Deprovisions the templates. -/
def deprovision (around : Surroundings m) (target : Target) (timings : Timings) :
    ExceptT Failure m Unit := do
  let bundle ← around.load target
  let address ← around.connect target
  around.finish (← around.performOrFail address (Workflow.deprovision timings bundle))

/-- Prints the control plane's view of the database. -/
def status (around : Surroundings m) (target : Target) : ExceptT Failure m Unit := do
  let bundle ← around.load target
  let address ← around.connect target
  let database ← around.performOrFail address (Workflow.resolveStatus bundle)
  ExceptT.lift (around.print (Yaml.write database.write))

/-- Compares the reported backup schedule with the requested one. -/
def verifySchedule (around : Surroundings m) (target : Target) : ExceptT Failure m Unit := do
  let bundle ← around.load target
  let address ← around.connect target
  around.performOrFail address (Workflow.verifyPolicy bundle)
  ExceptT.lift (around.print scheduleAgrees)

/-- Carries out a command. -/
def runCommand (around : Surroundings m) : Command → ExceptT Failure m Unit
  | .provision target timings cloneFrom probeHost =>
    around.provision target timings cloneFrom probeHost
  | .deprovision target timings => around.deprovision target timings
  | .status target => around.status target
  | .verifySchedule target => around.verifySchedule target

/-- Carries out a command line. -/
def run (around : Surroundings m) (line : CommandLine) : m (Except Failure Unit) :=
  if line.manifests then do
    around.print (Manifests.all ++ "\n")
    return .ok ()
  else
    match line.command with
    | none => return .error .noCommand
    | some command => (around.runCommand command).run

/-- Reads a command line, of which the first word is the program's name. -/
def read (around : Surroundings m) (words : List String) : m (Except Ending CommandLine) := do
  return CommandLine.read (← around.valueOf CommandLine.templatesVariable) words

end Surroundings

end DatabaseLifecycle.Cli
