import TemporalOperator.Lib.Act
import TemporalOperator.Lib.Runs
import TemporalOperator.Versions
import TemporalOperator.Lib.Conditions
import TemporalOperator.Api.Cluster
import TemporalOperator.Webhook.Cluster
import TemporalOperator.Persistence.Backend
import TemporalOperator.Cluster.Retarget
import TemporalOperator.Cluster.LostWrites
import TemporalOperator.Cluster.RollOrder
import TemporalOperator.Cluster.Migration
import TemporalOperator.Cluster.SchemaGate
import TemporalOperator.Cluster.Rollbackable
import TemporalOperator.Cluster.SchemaSetup
import TemporalOperator.Api.Schedule
import TemporalOperator.Lib.Float64
import TemporalOperator.Schedule.Params
import TemporalOperator.Lib.Proc
import TemporalOperator.Schedule.Proto
import TemporalOperator.Schedule.Reconcile
import TemporalOperator.Schedule.InSync
import TemporalOperator.Lib.ObjectStore
import TemporalOperator.Satellite.Pass
import TemporalOperator.Api.WorkflowRun
import TemporalOperator.Satellite.WorkflowRun
import TemporalOperator.Satellite.Finished
import TemporalOperator.Satellite.Cancellation
import TemporalOperator.Satellite.Controller
import TemporalOperator.Satellite.Namespace
import TemporalOperator.Satellite.SearchAttribute
import TemporalOperator.Satellite.Deletion
import TemporalOperator.Satellite.Replication
import TemporalOperator.Satellite.Connection
import TemporalOperator.Satellite.Peers
import TemporalOperator.Satellite.StalePeers
import TemporalOperator.Cluster.Resubmit
import TemporalOperator.Cluster.Ready
import TemporalOperator.Lib.GoQuote
import TemporalOperator.Lib.Yaml.Scalar
import TemporalOperator.Lib.Yaml.Block
import TemporalOperator.Lib.Yaml.Lines
import TemporalOperator.Lib.Yaml.Rows
import TemporalOperator.Lib.Yaml.Include
import TemporalOperator.Config.Data
import TemporalOperator.Config.Template
import TemporalOperator.Config.Tree
import TemporalOperator.Config.ReadBack
import TemporalOperator.Config.Faithful
import TemporalOperator.Config.Consistency
import TemporalOperator.Webhook.History
import TemporalOperator.Cluster.Rollout
import TemporalOperator.Cluster.SwitchOff
import TemporalOperator.Cluster.Selectors
import TemporalOperator.Cluster.Names
import TemporalOperator.Satellite.Verdict
import TemporalOperator.Satellite.StartOnce
import TemporalOperator.Cluster.Progress
import TemporalOperator.Cluster.Inspector
import TemporalOperator.Persistence.Refinement
import TemporalOperator.Cluster.SchemaJobs
import TemporalOperator.Cluster.Restarts
import TemporalOperator.Cluster.ServiceStatus
import TemporalOperator.Cluster.Certificates
import TemporalOperator.Cluster.TLSFiles
import TemporalOperator.Cluster.InspectArgs
import TemporalOperator.Cluster.Ports
import TemporalOperator.Cluster.Plan
import TemporalOperator.Satellite.Drift
import TemporalOperator.Satellite.Quiescence
import TemporalOperator.Satellite.ReadyType
import TemporalOperator.Satellite.Adoption
import TemporalOperator.Lib.Json.Scan
import TemporalOperator.Lib.Result
import TemporalOperator.Lib.Shortest
import TemporalOperator.Webhook.Workflow
import TemporalOperator.Lib.Literal
import TemporalOperator.Lib.Json.Value
import TemporalOperator.DynamicConfig.Values
import TemporalOperator.Persistence.SchemaOrder
import TemporalOperator.Versions.Listing
import TemporalOperator.Lib.Shell
import TemporalOperator.Cluster.ShellWords
import TemporalOperator.Webhook.Defaults
import TemporalOperator.Cluster.BuiltPods
import TemporalOperator.Schedule.Lossless
import TemporalOperator.Lib.Informer
import TemporalOperator.Satellite.Apply
import TemporalOperator.DevServer.Resources
import TemporalOperator.DevServer.Controller
import TemporalOperator.Cluster.ClientCertificates
import TemporalOperator.Satellite.Watch
import TemporalOperator.Cluster.Preview
import TemporalOperator.Cluster.Wake
