import DatabaseLifecycle.Resource.Metadata

/-! Pods: the workloads that verify a database from within the cluster. -/

namespace DatabaseLifecycle

/-- One value of a secret. -/
structure SecretKey where
  /-- The name of the secret. -/
  name : String
  /-- The key of the value. -/
  key : String
  deriving DecidableEq, Repr, Inhabited

/-- A variable of a container's environment. -/
structure Variable where
  /-- The name of the variable. -/
  name : String
  /-- The value, given as it is. -/
  value : Option String := none
  /-- Where the value comes from: nothing, or a source that may name a value of a secret. -/
  valueFrom : Option (Option SecretKey) := none
  deriving DecidableEq, Repr, Inhabited

/-- A port that a container listens on. -/
structure ContainerPort where
  /-- The number of the port. -/
  number : Int32
  /-- The name of the port. -/
  name : Option String := none
  /-- The protocol spoken on it. -/
  protocol : Option String := none
  deriving DecidableEq, Inhabited

/-- A container of a pod. -/
structure Container where
  /-- The name of the container. -/
  name : String
  /-- What the container runs. -/
  image : Option String := none
  /-- The variables of its environment. -/
  environment : Option (List Variable) := none
  /-- The ports. -/
  ports : Option (List ContainerPort) := none
  deriving DecidableEq, Inhabited

/-- A workload. -/
structure Pod where
  /-- What the pod says about itself. -/
  metadata : Metadata := {}
  /-- The containers, when the pod has a specification. -/
  containers : Option (List Container) := none
  /-- The phase, when the pod has a status. -/
  status : Option (Option String) := none
  deriving Inhabited

section Reading

variable {ν : Type} [Source ν]

/-- The value of a secret as it is read. -/
def SecretKey.read? (value : ν) : Option SecretKey := do
  let record ← Record.lenient? value
  return {
    name := (← record.last? "name" Source.text?).getD ""
    key := (← record.last? "key" Source.text?).getD "" }

/-- A variable as it is read. -/
def Variable.read? (value : ν) : Option Variable := do
  let record ← Record.lenient? value
  return {
    name := (← record.last? "name" Source.text?).getD ""
    value := ← record.last? "value" Source.text?
    valueFrom := ← record.last? "valueFrom" fun origin => do
      (← Record.lenient? origin).last? "secretKeyRef" SecretKey.read? }

/-- A port as it is read. -/
def ContainerPort.read? (value : ν) : Option ContainerPort := do
  let record ← Record.lenient? value
  return {
    number := (← record.last? "containerPort" Source.integer32?).getD 0
    name := ← record.last? "name" Source.text?
    protocol := ← record.last? "protocol" Source.text? }

/-- A container as it is read. -/
def Container.read? (value : ν) : Option Container := do
  let record ← Record.lenient? value
  return {
    name := (← record.last? "name" Source.text?).getD ""
    image := ← record.last? "image" Source.text?
    environment := ← record.last? "env" (Source.list? Variable.read?)
    ports := ← record.last? "ports" (Source.list? ContainerPort.read?) }

end Reading

/-- The value of a secret as it is written. -/
def SecretKey.write (key : SecretKey) : Document :=
  .ofFields [("key", some (.text key.key)), ("name", some (.text key.name))]

/-- A variable as it is written. -/
def Variable.write (given : Variable) : Document :=
  .ofFields [
    ("name", some (.text given.name)),
    ("value", given.value.map .text),
    ("valueFrom", given.valueFrom.map fun key =>
      .ofFields [("secretKeyRef", key.map SecretKey.write)])]

/-- A port as it is written. -/
def ContainerPort.write (port : ContainerPort) : Document :=
  .ofFields [
    ("containerPort", some (.integer port.number.toInt)),
    ("name", port.name.map .text),
    ("protocol", port.protocol.map .text)]

/-- A container as it is written. -/
def Container.write (container : Container) : Document :=
  .ofFields [
    ("env", container.environment.map fun environment => .list (environment.map Variable.write)),
    ("image", container.image.map .text),
    ("name", some (.text container.name)),
    ("ports", container.ports.map fun ports => .list (ports.map ContainerPort.write))]

namespace Pod

/-- The version of the records' form. -/
def apiVersion : String := "v1"

/-- The name of the kind. -/
def kindName : String := "Pod"

/-- The phase of a workload that has started. -/
def runningPhase : String := "Running"

/-- A pod as it is read. -/
def read? {ν : Type} [Source ν] (value : ν) : Option Pod := do
  let record ← Record.lenient? value
  if record.always "apiVersion" apiVersion && record.always "kind" kindName then
    return {
      metadata := (← record.last? "metadata" Metadata.read?).getD {}
      containers := ← record.last? "spec" fun spec => do
        let containers ← (← Record.lenient? spec).last? "containers" (Source.list? Container.read?)
        return containers.getD []
      status := ← record.last? "status" fun status => do
        (← Record.lenient? status).last? "phase" Source.text? }
  else none

/-- A pod as it is written. -/
def write (pod : Pod) : Document :=
  .ofFields [
    ("apiVersion", some (.text apiVersion)),
    ("kind", some (.text kindName)),
    ("metadata", some pod.metadata.write),
    ("spec", pod.containers.map fun containers =>
      .ofFields [("containers", some (.list (containers.map Container.write)))]),
    ("status", pod.status.map fun phase => .ofFields [("phase", phase.map .text)])]

/-- The phase, or nothing before there is one. -/
def phase (pod : Pod) : String := (pod.status.join).getD ""

/-- The first port that a container of the pod declares. -/
def firstPort? (pod : Pod) : Option Int32 :=
  ((pod.containers.getD []).flatMap fun container => container.ports.getD []).head?.map (·.number)

/-- The address at which the workload's first port answers on a host. -/
def url? (pod : Pod) (host : String) : Option String :=
  pod.firstPort?.map fun port => "http://" ++ host ++ ":" ++ toString port.toInt ++ "/"

end Pod

end DatabaseLifecycle
