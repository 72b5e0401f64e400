import TemporalOperator.Lib.Conditions

/-!
# The TemporalCluster object

`api/v1alpha1/temporalcluster_types.go`, `persistence_types.go` and `shared_types.go`: the fields the
webhook and the cluster controller read or write. Go's maps are association lists; a nil pointer is
`none`.
-/

namespace TemporalOperator
open Lib

/-! ## Spec -/

/-- The Temporal services, in the order of `serviceUpgradeOrder`. -/
inductive Service
  | frontend
  | history
  | matching
  | internalFrontend
  | worker
  deriving DecidableEq, Repr

def Service.name : Service → String
  | .frontend => "frontend"
  | .history => "history"
  | .matching => "matching"
  | .internalFrontend => "internal-frontend"
  | .worker => "worker"

/-- Labels, annotations and a strategic-merge patch laid over a generated pod template. -/
structure PodTemplateOverride where
  labels : List (String × String) := []
  spec : Option String := none
  annotations : List (String × String) := []
  deriving DecidableEq, Repr

/-- The parts that are copied to the pod unread are their JSON texts. -/
structure ServiceSpec where
  replicas : Option Int := none
  podTemplate : Option PodTemplateOverride := none
  resources : String := ""
  nodeSelector : List (String × String) := []
  tolerations : List String := []
  affinity : Option String := none
  topologySpreadConstraints : List String := []
  deriving DecidableEq, Repr

structure InternalFrontendSpec where
  enabled : Bool
  replicas : Option Int := none
  resources : String := ""
  deriving DecidableEq, Repr

structure ServicesSpec where
  frontend : Option ServiceSpec := none
  history : Option ServiceSpec := none
  matching : Option ServiceSpec := none
  worker : Option ServiceSpec := none
  internalFrontend : Option InternalFrontendSpec := none
  /-- `overrides.podTemplate`; the outer `Option` is the `overrides` pointer. -/
  overrides : Option (Option PodTemplateOverride) := none
  deriving DecidableEq, Repr

/-- A key of a Secret in the object's namespace. -/
structure SecretKeyReference where
  name : String
  key : String := "password"
  deriving DecidableEq, Repr

structure DatastoreTLSSpec where
  enabled : Bool := true
  enableHostVerification : Bool := false
  serverName : String := ""
  caSecretRef : Option SecretKeyReference := none
  certSecretRef : Option SecretKeyReference := none
  keySecretRef : Option SecretKeyReference := none
  deriving DecidableEq, Repr

structure SQLDatastoreSpec where
  pluginName : String := "postgres12"
  host : String := ""
  port : Int := 5432
  database : String := ""
  user : String := ""
  maxConns : Int := 0
  maxIdleConns : Int := 0
  /-- In nanoseconds. -/
  maxConnLifetime : Option Int := none
  tls : Option DatastoreTLSSpec := none
  passwordSecretRef : Option SecretKeyReference := none
  passwordCommandSecretRef : Option SecretKeyReference := none
  deriving DecidableEq, Repr

structure CassandraDatastoreSpec where
  hosts : List String := []
  port : Int := 9042
  keyspace : String := ""
  user : String := ""
  datacenter : String := ""
  tls : Option DatastoreTLSSpec := none
  passwordSecretRef : Option SecretKeyReference := none
  deriving DecidableEq, Repr

structure ElasticsearchDatastoreSpec where
  url : String := ""
  version : String := "v8"
  username : String := ""
  indices : List (String × String) := []
  tls : Option DatastoreTLSSpec := none
  passwordSecretRef : Option SecretKeyReference := none
  deriving DecidableEq, Repr

structure DatastoreSpec where
  sql : Option SQLDatastoreSpec := none
  cassandra : Option CassandraDatastoreSpec := none
  elasticsearch : Option ElasticsearchDatastoreSpec := none
  deriving DecidableEq, Repr

structure AzureWorkloadIdentitySpec where
  clientID : String
  serviceAccountName : String := ""
  /-- The azure-cli image of the token containers. -/
  image : String := ""
  scope : String := ""
  /-- In nanoseconds. -/
  refreshInterval : Option Int := none
  deriving DecidableEq, Repr

structure PersistenceSpec where
  defaultStore : DatastoreSpec
  visibilityStore : DatastoreSpec
  /-- `schemaJob.podTemplate`; the outer `Option` is the `schemaJob` pointer. -/
  schemaJob : Option (Option PodTemplateOverride) := none
  azureWorkloadIdentity : Option AzureWorkloadIdentitySpec := none
  deriving DecidableEq, Repr

structure MTLSSpec where
  provider : String := "cert-manager"
  /-- The issuer's name. -/
  issuerRef : Option String := none
  /-- `issuerRef.kind` and `issuerRef.group`. -/
  issuerKind : String := ""
  issuerGroup : String := ""
  /-- Durations in nanoseconds. -/
  refreshInterval : Option Int := none
  renewBefore : Option Int := none
  /-- `frontend.dnsNames`; `none` is a nil `frontend`. -/
  frontend : Option (List String) := none
  deriving DecidableEq, Repr

/-- A raw JSON text as `json.Unmarshal` sees it: empty, decodable to a value, or not JSON. -/
inductive RawJSON
  | empty
  | value (text : String)
  | invalid (err : String)
  deriving DecidableEq, Repr

structure DynamicConfigConstraints where
  namespace_ : String := ""
  taskQueueName : String := ""
  taskQueueType : String := ""
  deriving DecidableEq, Repr

structure DynamicConfigValue where
  value : RawJSON
  constraints : Option DynamicConfigConstraints := none
  deriving DecidableEq, Repr

structure DynamicConfigSpec where
  values : List (String × List DynamicConfigValue) := []
  deriving DecidableEq, Repr

/-- `ui.auth.extraEnv` as `yaml.Unmarshal` into a string map sees it. -/
inductive RawEnv
  | empty
  | entries (env : List (String × String))
  | invalid
  deriving DecidableEq, Repr

structure UIAuthSpec where
  enabled : Bool
  /-- `entra.tenantID`; `none` is a nil `entra`. -/
  entra : Option String := none
  providerURL : String := ""
  clientID : String := ""
  /-- `clientSecretRef.name`. -/
  clientSecretRef : Option String := none
  callbackURL : String := ""
  extraEnv : Option RawEnv := none
  /-- `clientSecretRef.key`. -/
  clientSecretKey : String := "password"
  scopes : List String := []
  deriving DecidableEq, Repr

structure UISpec where
  enabled : Bool
  version : String := ""
  replicas : Option Int := none
  /-- `ingress.enabled`. -/
  ingress : Option Bool := none
  auth : Option UIAuthSpec := none
  /-- `codecServer.endpoint`. -/
  codecServer : Option String := none
  deriving DecidableEq, Repr

structure MetricsSpec where
  enabled : Bool := true
  port : Int := 9090
  /-- `serviceMonitor.enabled`. -/
  serviceMonitor : Option Bool := none
  deriving DecidableEq, Repr

structure ClusterMetadataSpec where
  enableGlobalNamespace : Bool := false
  failoverVersionIncrement : Option Int := none
  currentClusterName : String := ""
  initialFailoverVersion : Option Int := none
  masterClusterName : String := ""
  deriving DecidableEq, Repr

structure JWTKeyProviderSpec where
  keySourceURIs : List String := []
  /-- In nanoseconds. -/
  refreshInterval : Option Int := none
  deriving DecidableEq, Repr

structure AuthorizationSpec where
  authorizer : Option String := none
  claimMapper : String := ""
  permissionsClaimName : String := ""
  jwtKeyProvider : Option JWTKeyProviderSpec := none
  /-- `entra.tenantID`; `none` is a nil `entra`. -/
  entra : Option String := none
  /-- The raw text of `config`. -/
  config : Option String := none
  deriving DecidableEq, Repr

/-- Which workflow runs the operator may start on a target; no list means no restriction. -/
structure WorkflowRunPolicy where
  enabled : Bool := false
  allowedNamespaces : List String := []
  allowedTaskQueues : List String := []
  deriving DecidableEq, Repr

structure ClusterSpec where
  version : String
  numHistoryShards : Int := 512
  image : String := ""
  services : ServicesSpec := {}
  persistence : PersistenceSpec
  mtls : Option MTLSSpec := none
  dynamicConfig : Option DynamicConfigSpec := none
  ui : Option UISpec := none
  metrics : Option MetricsSpec := none
  clusterMetadata : Option ClusterMetadataSpec := none
  authorization : Option AuthorizationSpec := none
  /-- Whether `archival` is there; nothing in it is rendered. -/
  archival : Bool := false
  workflowRunPolicy : Option WorkflowRunPolicy := none
  imagePullSecrets : List String := []
  deriving DecidableEq, Repr

/-! ## Status -/

inductive ConditionType
  | ready
  | available
  | persistenceReachable
  | schemaReady
  | mtlsReady
  deriving DecidableEq, Repr

/-- `status.upgrade.phase`; `other` is a text the controller does not know. -/
inductive UpgradePhase
  | pending
  | preflight
  | schemaMigrating
  | rollingFrontend
  | rollingHistory
  | rollingMatching
  | rollingInternalFrontend
  | rollingWorker
  | postUpgrade
  | complete
  | other (text : String)
  deriving DecidableEq, Repr

structure UpgradeStatus where
  fromVersion : String
  toVersion : String
  phase : UpgradePhase
  rollbackable : Bool
  startedAt : Int
  deriving DecidableEq, Repr

structure ServiceStatus where
  ready : Int
  desired : Int
  version : String
  deriving DecidableEq, Repr

inductive SchemaStore
  | default
  | visibility
  deriving DecidableEq, Repr

def SchemaStore.text : SchemaStore → String
  | .default => "default"
  | .visibility => "visibility"

structure PersistenceStatus where
  schemaVersions : List (SchemaStore × String) := []
  reachable : Bool := false
  deriving DecidableEq, Repr

structure ClusterStatus where
  phase : String := ""
  observedGeneration : Nat := 0
  conditions : List (Condition ConditionType) := []
  version : String := ""
  services : List (Service × ServiceStatus) := []
  persistence : PersistenceStatus := {}
  upgrade : Option UpgradeStatus := none
  deriving DecidableEq, Repr

structure Cluster where
  name : String
  namespace_ : String := "default"
  generation : Nat := 1
  annotations : List (String × String) := []
  spec : ClusterSpec
  status : ClusterStatus := {}
  deriving DecidableEq, Repr

def ClusterStatus.holds (st : ClusterStatus) (t : ConditionType) : Bool :=
  isStatusConditionTrue t st.conditions

def ClusterStatus.setCondition (st : ClusterStatus) (c : Condition ConditionType) : ClusterStatus :=
  { st with conditions := setStatusCondition c st.conditions }

theorem holds_setCondition (st : ClusterStatus) (c : Condition ConditionType) (t : ConditionType) :
    (st.setCondition c).holds t = if t = c.type then decide (c.status = .true) else st.holds t := by
  unfold ClusterStatus.holds ClusterStatus.setCondition
  by_cases h : t = c.type
  · rw [if_pos h, h, isTrue_set_self]
  · rw [if_neg h, isTrue_set_of_ne (Ne.symm h)]

theorem holds_of_conditions {st st' : ClusterStatus} (h : st'.conditions = st.conditions) (t : ConditionType) :
    st'.holds t = st.holds t := by
  rw [ClusterStatus.holds, h, ClusterStatus.holds]

/-- The running version and the upgrade record. -/
def ClusterStatus.progress (st : ClusterStatus) : String × Option UpgradeStatus := (st.version, st.upgrade)

@[simp] theorem progress_setCondition (st : ClusterStatus) (c : Condition ConditionType) :
    (st.setCondition c).progress = st.progress := rfl

end TemporalOperator
