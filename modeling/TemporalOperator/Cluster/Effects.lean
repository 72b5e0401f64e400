import TemporalOperator.Api.Cluster
import TemporalOperator.Lib.Act

/-!
# Objects, errors and events of a cluster pass

* `GoErr` : an error with the cause the callers test for (`errors.Is`, `apierrors.IsNotFound`, ...) and its text;
* `Deployment`, `Job`, `Pod` parts : the fields of the Kubernetes objects the controller looks at;
* `Planned` : the objects the controller applies;
* `Event` : what a pass does and sees, in order: calls that change something, and the observations its
  decisions rest on; `Event.stage` : the part of the pass an event comes from.
-/

namespace TemporalOperator
open Lib

inductive Cause
  | notFound
  | alreadyExists
  | conflict
  | inspecting
  | other
  deriving DecidableEq, Repr

structure GoErr where
  cause : Cause
  text : String
  deriving DecidableEq, Repr

/-- `fmt.Errorf("pre: %w", e)`. -/
def GoErr.wrap (e : GoErr) (pre : String) : GoErr := { e with text := pre ++ ": " ++ e.text }

def errInspecting : GoErr := ⟨.inspecting, "schema inspection in progress"⟩

/-! ## Kubernetes objects -/

inductive EnvValue
  | text (value : String)
  | fieldRef (path : String)
  | secretKeyRef (name key : String)
  deriving DecidableEq, Repr

structure VolumeMount where
  name : String
  mountPath : String
  readOnly : Bool := false
  deriving DecidableEq, Repr

inductive VolumeSource
  | secret (secretName : String)
  | configMap (name : String)
  | emptyDir
  /-- Any other source, which only an override brings in. -/
  | other (text : String)
  deriving DecidableEq, Repr

structure Volume where
  name : String
  source : VolumeSource
  deriving DecidableEq, Repr

inductive ProbeHandler
  | grpc (port : Int)
  | tcpSocket (port : Int)
  | httpGet (path : String) (port : Int)
  deriving DecidableEq, Repr

/-- A threshold or period of 0 is left to the API server. -/
structure Probe where
  handler : ProbeHandler
  failureThreshold : Int := 0
  periodSeconds : Int := 0
  timeoutSeconds : Int := 0
  deriving DecidableEq, Repr

structure Container where
  name : String
  image : String
  command : List String := []
  args : List String := []
  env : List (String × EnvValue) := []
  ports : List (String × Int) := []
  resources : String := ""
  volumeMounts : List VolumeMount := []
  livenessProbe : Option Probe := none
  readinessProbe : Option Probe := none
  startupProbe : Option Probe := none
  deriving DecidableEq, Repr

inductive TopologySpread
  /-- `defaultTopologySpread`: over zones, for the pods with these labels. -/
  | byZone (selector : List (String × String))
  | given (constraints : List String)
  deriving DecidableEq, Repr

structure PodSpec where
  serviceAccountName : String := ""
  containers : List Container
  initContainers : List Container := []
  volumes : List Volume := []
  imagePullSecrets : List String := []
  nodeSelector : List (String × String) := []
  tolerations : List String := []
  affinity : Option String := none
  topologySpread : TopologySpread := .given []
  deriving DecidableEq, Repr

structure PodTemplate where
  labels : List (String × String)
  spec : PodSpec
  annotations : List (String × String) := []
  deriving DecidableEq, Repr

structure Deployment where
  generation : Int := 0
  /-- `spec.replicas`. -/
  replicas : Option Int
  /-- `spec.selector.matchLabels`. -/
  selector : List (String × String) := []
  template : PodTemplate
  observedGeneration : Int := 0
  /-- `status.replicas`: the pods there are, of this template and of older ones. -/
  statusReplicas : Int := 0
  updatedReplicas : Int := 0
  readyReplicas : Int := 0
  deriving DecidableEq, Repr

inductive JobConditionType
  | complete
  | failed
  | other
  deriving DecidableEq, Repr

structure Job where
  name : String := ""
  namespace_ : String := ""
  labels : List (String × String) := []
  uid : Nat := 0
  /-- The deletion timestamp is set. -/
  deleting : Bool := false
  backoffLimit : Int := 0
  ttlSecondsAfterFinished : Int := 0
  template : PodTemplate := { labels := [], spec := { containers := [] } }
  /-- Condition types with whether their status is `"True"`. -/
  conditions : List (JobConditionType × Bool) := []
  active : Int := 0
  deriving DecidableEq, Repr

def Job.containers (job : Job) : List Container := job.template.spec.containers

inductive BackendKind
  | sql
  | cassandra
  | elasticsearch
  deriving DecidableEq, Repr

inductive SchemaAction
  | setup
  | update
  deriving DecidableEq, Repr

def SchemaAction.text : SchemaAction → String
  | .setup => "setup"
  | .update => "update"

inductive Planned
  | internodeCertificate
  | frontendCertificate
  | configSecret
  | dynamicConfigMap
  /-- The Deployment of a service, built for `version`. -/
  | deployment (svc : Service) (version : String) (object : Deployment)
  | headlessService (svc : Service)
  | podDisruptionBudget (svc : Service)
  | frontendService
  | uiClientCertificate
  | uiDeployment
  | uiService
  | uiIngress
  | serviceMonitor
  deriving DecidableEq, Repr

/-! ## Events -/

inductive Event
  /-- The ServiceAccount for Azure was created. -/
  | serviceAccountCreated (name clientID : String)
  | inspectorCreated (store : SchemaStore)
  | inspectorDeleted (store : SchemaStore)
  /-- `reconcileStoreSchema` read `current` and compared it with `minSchema`. -/
  | schemaRead (store : SchemaStore) (kind : BackendKind) (current minSchema : String)
  /-- `EnsureSchema` was called on a backend that handles the schema inline. -/
  | schemaInline (store : SchemaStore)
  /-- `ensureSchemaJob` was called. -/
  | schemaJob (store : SchemaStore) (action : SchemaAction)
  | jobCreated (store : SchemaStore) (action : SchemaAction) (job : Job)
  | jobDeleted (store : SchemaStore) (action : SchemaAction)
  /-- `serviceRolledOut(svc, version)` answered `ok`. -/
  | rolloutSeen (svc : Service) (version : String) (ok : Bool)
  /-- `reconcileUpgrade` opened an upgrade record. -/
  | upgradeStarted (fromVersion toVersion : String)
  /-- `reconcileUpgrade` returned this version map. -/
  | versionsAssigned (versions : List (Service × String))
  /-- A server-side apply was issued. -/
  | applied (obj : Planned)
  /-- `rollupServiceStatus` read a Deployment with `ready` ready replicas. -/
  | readinessSeen (svc : Service) (ready : Int)
  /-- A Kubernetes event was recorded. -/
  | recorded (reason message : String)
  deriving DecidableEq, Repr

/-- The parts of a pass that events belong to. -/
inductive Stage
  | inspect
  | migrate
  | upgrade
  | services
  | objects
  | note
  deriving DecidableEq, Repr

def Event.stage : Event → Stage
  | .serviceAccountCreated .. | .inspectorCreated .. | .inspectorDeleted .. | .schemaRead .. => .inspect
  | .schemaInline .. | .schemaJob .. | .jobCreated .. | .jobDeleted .. => .migrate
  | .rolloutSeen .. | .upgradeStarted .. | .versionsAssigned .. => .upgrade
  | .applied (.deployment ..) | .readinessSeen .. => .services
  | .applied _ => .objects
  | .recorded .. => .note

/-- What a controller function does in a pass. -/
abbrev Pass (α : Type) := Act Event GoErr α

end TemporalOperator
