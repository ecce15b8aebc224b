import DatabaseLifecycle.Cli.CommandLine
import DatabaseLifecycle.Cli.Session
import DatabaseLifecycle.Cli.Setting
import DatabaseLifecycle.Cli.Usage
import DatabaseLifecycle.Cluster.Address
import DatabaseLifecycle.Cluster.Client
import DatabaseLifecycle.Cluster.Kubeconfig
import DatabaseLifecycle.Cluster.Request
import DatabaseLifecycle.Cluster.Response
import DatabaseLifecycle.ControlPlane.Client
import DatabaseLifecycle.ControlPlane.Credentials
import DatabaseLifecycle.ControlPlane.Lookup
import DatabaseLifecycle.ControlPlane.ManagedDatabase
import DatabaseLifecycle.ControlPlane.Snapshot
import DatabaseLifecycle.ControlPlane.TimeMachine
import DatabaseLifecycle.Document.Basic
import DatabaseLifecycle.Document.Json
import DatabaseLifecycle.Document.Record
import DatabaseLifecycle.Document.Source
import DatabaseLifecycle.Document.Table
import DatabaseLifecycle.Environment
import DatabaseLifecycle.Error
import DatabaseLifecycle.Http
import DatabaseLifecycle.Main
import DatabaseLifecycle.Manifests
import DatabaseLifecycle.Poll
import DatabaseLifecycle.Probe
import DatabaseLifecycle.Program
import DatabaseLifecycle.Proofs.Cli.Session
import DatabaseLifecycle.Proofs.Cluster.Contract
import DatabaseLifecycle.Proofs.Cluster.Path
import DatabaseLifecycle.Proofs.Cluster.Server
import DatabaseLifecycle.Proofs.Cluster.Traffic
import DatabaseLifecycle.Proofs.ControlPlane.Answer
import DatabaseLifecycle.Proofs.ControlPlane.Growth
import DatabaseLifecycle.Proofs.ControlPlane.Snapshot
import DatabaseLifecycle.Proofs.ControlPlane.Target
import DatabaseLifecycle.Proofs.ControlPlane.Written
import DatabaseLifecycle.Proofs.Coupling
import DatabaseLifecycle.Proofs.Document.Growth
import DatabaseLifecycle.Proofs.Document.Json
import DatabaseLifecycle.Proofs.Document.Order
import DatabaseLifecycle.Proofs.Document.Record
import DatabaseLifecycle.Proofs.Document.Table
import DatabaseLifecycle.Proofs.Form
import DatabaseLifecycle.Proofs.Interleaving
import DatabaseLifecycle.Proofs.Poll
import DatabaseLifecycle.Proofs.Report
import DatabaseLifecycle.Proofs.Resource.Clone
import DatabaseLifecycle.Proofs.Resource.Mode
import DatabaseLifecycle.Proofs.Resource.Secret
import DatabaseLifecycle.Proofs.Resource.Stored
import DatabaseLifecycle.Proofs.Resource.Written
import DatabaseLifecycle.Proofs.Schedule
import DatabaseLifecycle.Proofs.Store.Discretion
import DatabaseLifecycle.Proofs.Store.Keeping
import DatabaseLifecycle.Proofs.Store.Locality
import DatabaseLifecycle.Proofs.Store.Records
import DatabaseLifecycle.Proofs.Store.Serving
import DatabaseLifecycle.Proofs.Store.Sharing
import DatabaseLifecycle.Proofs.Store.Showing
import DatabaseLifecycle.Proofs.Text.Blank
import DatabaseLifecycle.Proofs.Text.Decimal
import DatabaseLifecycle.Proofs.Text.Numeral
import DatabaseLifecycle.Proofs.Text.Utf8
import DatabaseLifecycle.Proofs.TimeOfDay
import DatabaseLifecycle.Proofs.Transcript
import DatabaseLifecycle.Proofs.Url.Join
import DatabaseLifecycle.Proofs.Url.Path
import DatabaseLifecycle.Proofs.Url.Percent
import DatabaseLifecycle.Proofs.Url.Slashes
import DatabaseLifecycle.Proofs.Web
import DatabaseLifecycle.Proofs.Workflow.ClonePreparation
import DatabaseLifecycle.Proofs.Workflow.CloneSource
import DatabaseLifecycle.Proofs.Workflow.CloneSubmission
import DatabaseLifecycle.Proofs.Workflow.Concealment
import DatabaseLifecycle.Proofs.Workflow.Contention
import DatabaseLifecycle.Proofs.Workflow.Deprovision
import DatabaseLifecycle.Proofs.Workflow.Discretion
import DatabaseLifecycle.Proofs.Workflow.Endurance
import DatabaseLifecycle.Proofs.Workflow.Exchanges
import DatabaseLifecycle.Proofs.Workflow.Frame
import DatabaseLifecycle.Proofs.Workflow.Isolation
import DatabaseLifecycle.Proofs.Workflow.Logging
import DatabaseLifecycle.Proofs.Workflow.Placement
import DatabaseLifecycle.Proofs.Workflow.Preparation
import DatabaseLifecycle.Proofs.Workflow.Prepared
import DatabaseLifecycle.Proofs.Workflow.Provision
import DatabaseLifecycle.Proofs.Workflow.ReadBack
import DatabaseLifecycle.Proofs.Workflow.Readiness
import DatabaseLifecycle.Proofs.Workflow.Refilled
import DatabaseLifecycle.Proofs.Workflow.Refusal
import DatabaseLifecycle.Proofs.Workflow.Resolve
import DatabaseLifecycle.Proofs.Workflow.Retry
import DatabaseLifecycle.Proofs.Workflow.RoundTrip
import DatabaseLifecycle.Proofs.Workflow.Status
import DatabaseLifecycle.Proofs.Workflow.StatusWait
import DatabaseLifecycle.Proofs.Workflow.Steps
import DatabaseLifecycle.Proofs.Workflow.Submission
import DatabaseLifecycle.Proofs.Workflow.Verification
import DatabaseLifecycle.Proofs.Workflow.Wait
import DatabaseLifecycle.Rehearsal
import DatabaseLifecycle.Report
import DatabaseLifecycle.Resource.Bundle
import DatabaseLifecycle.Resource.Database
import DatabaseLifecycle.Resource.Kind
import DatabaseLifecycle.Resource.Metadata
import DatabaseLifecycle.Resource.Pod
import DatabaseLifecycle.Resource.Secret
import DatabaseLifecycle.Resource.Server
import DatabaseLifecycle.Schedule
import DatabaseLifecycle.Store.Records
import DatabaseLifecycle.Telemetry
import DatabaseLifecycle.Template
import DatabaseLifecycle.Text.Base64
import DatabaseLifecycle.Text.Blank
import DatabaseLifecycle.Text.Digits
import DatabaseLifecycle.Text.Padded
import DatabaseLifecycle.Text.Quoted
import DatabaseLifecycle.Text.Redacted
import DatabaseLifecycle.Text.Unmarked
import DatabaseLifecycle.Text.Utf8
import DatabaseLifecycle.Url.Basic
import DatabaseLifecycle.Url.Host
import DatabaseLifecycle.Url.Percent
import DatabaseLifecycle.Url.Punycode
import DatabaseLifecycle.Web
import DatabaseLifecycle.Workflow.Call
import DatabaseLifecycle.Workflow.Clone
import DatabaseLifecycle.Workflow.Deprovision
import DatabaseLifecycle.Workflow.Preparation
import DatabaseLifecycle.Workflow.Provision
import DatabaseLifecycle.Workflow.Resolve
import DatabaseLifecycle.Yaml.BlockScalar
import DatabaseLifecycle.Yaml.Cursor
import DatabaseLifecycle.Yaml.Fold
import DatabaseLifecycle.Yaml.Node
import DatabaseLifecycle.Yaml.PlainScalar
import DatabaseLifecycle.Yaml.QuotedScalar
import DatabaseLifecycle.Yaml.Reader
import DatabaseLifecycle.Yaml.Scalar
import DatabaseLifecycle.Yaml.Tag
import DatabaseLifecycle.Yaml.Token
import DatabaseLifecycle.Yaml.Writer
