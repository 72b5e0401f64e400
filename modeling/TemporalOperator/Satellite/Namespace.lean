import TemporalOperator.Satellite.Controller

/-!
# Reconciling a namespace

`internal/controller/temporalnamespace_controller.go`, the namespace client of `internal/temporal/client.go` and the
replication checks of the webhook. The server keeps one namespace of the object's name, or none.

* `TemporalNamespaceSpec`, `TemporalNamespaceStatus` : `api/v1alpha1/temporalnamespace_types.go`;
* `UpdateNamespaceRequest`, `serverUpdate` : the messages, and what the server makes of them;
* `ensureRegistered`, `reconcileObject`, `reconcilePass` : the controller.
-/

namespace TemporalOperator.Satellite.Namespace
open Lib Proc

/-! ## The object -/

inductive DriftDetection
  | reconcile
  | ignore
  deriving DecidableEq, Repr

structure TemporalNamespaceSpec where
  clusterRef : ClusterReference
  retentionPeriod : Option GoDuration := some (72 * 3600 * second)
  description : String := ""
  ownerEmail : String := ""
  allowDeletion : Bool := false
  driftDetection : DriftDetection := .reconcile
  isGlobal : Bool := false
  clusters : List String := []
  activeCluster : String := ""
  deriving DecidableEq, Repr

inductive ConditionType
  | ready
  deriving DecidableEq, Repr

structure NamespaceReplicationStatus where
  isGlobal : Bool := false
  activeCluster : String := ""
  clusters : List String := []
  failoverInProgress : Bool := false
  lastFailoverTime : Option GoTime := none
  deriving DecidableEq, Repr

structure TemporalNamespaceStatus where
  observedGeneration : Nat := 0
  registered : Bool := false
  namespaceID : String := ""
  lastUpdated : Option GoTime := none
  conditions : List (Condition ConditionType) := []
  replication : Option NamespaceReplicationStatus := none
  deriving DecidableEq, Repr

abbrev TemporalNamespace := Object TemporalNamespaceSpec TemporalNamespaceStatus

/-- The status as it is read back. -/
def TemporalNamespaceStatus.persist (st : TemporalNamespaceStatus) : TemporalNamespaceStatus :=
  { st with
    lastUpdated := st.lastUpdated.map metaTime
    replication := st.replication.map fun r => { r with lastFailoverTime := r.lastFailoverTime.map metaTime } }

/-! ## The webhook -/

def validateReplication (spec : TemporalNamespaceSpec) : Except String Unit :=
  if !spec.isGlobal then
    if spec.clusters ≠ [] ∨ spec.activeCluster ≠ "" then
      .error "spec.clusters and spec.activeCluster require spec.isGlobal=true"
    else .ok ()
  else if spec.activeCluster ≠ "" ∧ spec.clusters ≠ [] ∧ spec.activeCluster ∉ spec.clusters then
    .error ("ActiveClusterInvalid: spec.activeCluster " ++ GoText.quote spec.activeCluster ++
      " must be one of spec.clusters")
  else .ok ()

def validateUpdate (old new : TemporalNamespaceSpec) : Except String Unit :=
  if new.clusterRef.name = "" then .error "spec.clusterRef.name must not be empty"
  else if old.isGlobal ≠ new.isGlobal then .error "IsGlobalImmutable: isGlobal is immutable after creation"
  else validateReplication new

def namespaceFinalizer : String := "temporal.bmor10.com/namespace"

def kind : Kind TemporalNamespaceSpec TemporalNamespaceStatus where
  finalizer := namespaceFinalizer
  admits old new := (validateUpdate old new).isOk
  persist := TemporalNamespaceStatus.persist

/-! ## Messages -/

structure NamespaceParams where
  name : String
  description : String
  ownerEmail : String
  retentionPeriod : GoDuration
  isGlobal : Bool
  clusters : List String
  activeCluster : String
  deriving DecidableEq, Repr

def namespaceParams (ns : TemporalNamespace) : NamespaceParams where
  name := ns.name
  description := ns.spec.description
  ownerEmail := ns.spec.ownerEmail
  retentionPeriod := ns.spec.retentionPeriod.getD (72 * 3600 * second)
  isGlobal := ns.spec.isGlobal
  clusters := ns.spec.clusters
  activeCluster := ns.spec.activeCluster

/-- What `Describe` tells of a namespace; also what the server keeps of it. -/
structure NamespaceInfo where
  id : String := ""
  description : String := ""
  ownerEmail : String := ""
  retentionPeriod : GoDuration := 0
  isGlobal : Bool := false
  activeCluster : String := ""
  clusters : List String := []
  deriving DecidableEq, Repr

structure RegisterNamespaceRequest where
  namespace_ : String
  description : String
  ownerEmail : String
  workflowExecutionRetentionPeriod : GoDuration
  isGlobalNamespace : Bool
  clusters : List String
  activeClusterName : String
  deriving DecidableEq, Repr

structure UpdateNamespaceInfo where
  description : String
  ownerEmail : String
  deriving DecidableEq, Repr

structure NamespaceReplicationConfig where
  activeClusterName : String := ""
  clusters : List String := []
  deriving DecidableEq, Repr

structure UpdateNamespaceRequest where
  namespace_ : String
  updateInfo : Option UpdateNamespaceInfo := none
  /-- `config.workflowExecutionRetentionTtl`. -/
  config : Option GoDuration := none
  replicationConfig : Option NamespaceReplicationConfig := none
  deriving DecidableEq, Repr

def registerNamespaceRequest (p : NamespaceParams) : RegisterNamespaceRequest where
  namespace_ := p.name
  description := p.description
  ownerEmail := p.ownerEmail
  workflowExecutionRetentionPeriod := p.retentionPeriod
  isGlobalNamespace := p.isGlobal
  clusters := p.clusters
  activeClusterName := p.activeCluster

/-- An update of everything but the active cluster. -/
def updateNamespaceRequest (p : NamespaceParams) : UpdateNamespaceRequest where
  namespace_ := p.name
  updateInfo := some { description := p.description, ownerEmail := p.ownerEmail }
  config := some p.retentionPeriod
  replicationConfig := if p.clusters ≠ [] then some { clusters := p.clusters } else none

/-- A failover changes nothing but the active cluster. -/
def failoverNamespaceRequest (name activeCluster : String) : UpdateNamespaceRequest where
  namespace_ := name
  replicationConfig := some { activeClusterName := activeCluster }

/-! ## The server -/

def serverRegister (req : RegisterNamespaceRequest) : Option NamespaceInfo → Except RpcErr (Option NamespaceInfo)
  | some _ => .error ⟨.alreadyExists, "namespace already exists"⟩
  | none =>
    .ok <| some
      { description := req.description
        ownerEmail := req.ownerEmail
        retentionPeriod := req.workflowExecutionRetentionPeriod
        isGlobal := req.isGlobalNamespace
        activeCluster := req.activeClusterName
        clusters := req.clusters }

/-- The request names another active cluster than the namespace has. -/
def UpdateNamespaceRequest.failover? (req : UpdateNamespaceRequest) (ns : NamespaceInfo) : Option String :=
  req.replicationConfig.bind fun rc =>
    if rc.activeClusterName ≠ "" ∧ rc.activeClusterName ≠ ns.activeCluster then some rc.activeClusterName else none

/-- The cluster list that the request sets, if any. -/
def UpdateNamespaceRequest.clusters? (req : UpdateNamespaceRequest) : Option (List String) :=
  req.replicationConfig.bind fun rc => if rc.clusters ≠ [] then some rc.clusters else none

/-- A text of a request that is empty leaves the one the server has. -/
def given (text kept : String) : String := if text = "" then kept else text

/-- A failover stands alone and goes to a cluster of the namespace; a cluster list has the active cluster. -/
def serverUpdate (req : UpdateNamespaceRequest) : Option NamespaceInfo → Except RpcErr (Option NamespaceInfo)
  | none => .error ⟨.notFound, "namespace not found"⟩
  | some ns =>
    match req.failover? ns with
    | some active =>
      if req.updateInfo.isSome ∨ req.config.isSome ∨ req.clusters?.isSome then
        .error ⟨.other, "cannot set active cluster to and update other parameters at the same time"⟩
      else if active ∉ ns.clusters then .error ⟨.other, "active cluster is not in the cluster list"⟩
      else .ok (some { ns with activeCluster := active })
    | none =>
      let clusters := req.clusters?.getD ns.clusters
      if req.clusters?.isSome ∧ ns.activeCluster ∉ clusters then
        .error ⟨.other, "cluster list does not contain the active cluster"⟩
      else
        .ok <| some
          { ns with
            description := given ((req.updateInfo.map (·.description)).getD "") ns.description
            ownerEmail := given ((req.updateInfo.map (·.ownerEmail)).getD "") ns.ownerEmail
            retentionPeriod := req.config.getD ns.retentionPeriod
            clusters := clusters }

/-- The server does not know a namespace that is gone. -/
def serverDelete : Option NamespaceInfo → Except RpcErr (Option NamespaceInfo)
  | none => .error ⟨.notFound, "namespace not found"⟩
  | some _ => .ok none

/-! ## The client -/

inductive NamespaceCall
  | describe (name : String) (answer : Except Err NamespaceInfo)
  | register (request : RegisterNamespaceRequest) (answer : Except Err Unit)
  | update (request : UpdateNamespaceRequest) (answer : Except Err Unit)
  | delete (name : String) (answer : Except Err Unit)
  deriving DecidableEq

/-- How the calls of one pass go; `describe n` is the error of the `n`-th `Describe`, if it fails. -/
structure NamespaceEnv extends KubeEnv TemporalNamespaceSpec where
  describe : Nat → Option RpcErr := fun _ => none
  register : Outcome RpcErr := .done
  failover : Outcome RpcErr := .done
  updateNamespace : Outcome RpcErr := .done
  deleteNamespace : Outcome RpcErr := .done

abbrev NamespacePass := Pass TemporalNamespaceSpec TemporalNamespaceStatus (Option NamespaceInfo) NamespaceCall

def errNamespaceNotFound : Err := .notFound "namespace not found"

/-- The answer to the `n`-th `Describe`. -/
def describeAnswer (env : NamespaceEnv) (n : Nat) (remote : Option NamespaceInfo) : Except Err NamespaceInfo :=
  match env.describe n, remote with
  | some e, _ => .error (if e.code = .notFound then errNamespaceNotFound else .rpc e)
  | none, none => .error errNamespaceNotFound
  | none, some info => .ok info

def describe (env : NamespaceEnv) (n : Nat) (name : String) : Proc NamespacePass Err NamespaceInfo := do
  issue (.describe name) (describeAnswer env n (← get).remote)

def register (env : NamespaceEnv) (p : NamespaceParams) : Proc NamespacePass Err Unit :=
  remoteCall env.register (serverRegister (registerNamespaceRequest p)) (.register (registerNamespaceRequest p))

def updateNamespace (env : NamespaceEnv) (p : NamespaceParams) : Proc NamespacePass Err Unit :=
  remoteCall env.updateNamespace (serverUpdate (updateNamespaceRequest p)) (.update (updateNamespaceRequest p))

def failover (env : NamespaceEnv) (name activeCluster : String) : Proc NamespacePass Err Unit :=
  remoteCall env.failover (serverUpdate (failoverNamespaceRequest name activeCluster))
    (.update (failoverNamespaceRequest name activeCluster))

/-- `Delete` hands on the server's error as it is. -/
def deleteNamespace (env : NamespaceEnv) (name : String) : Proc NamespacePass Err Unit :=
  remoteCall env.deleteNamespace serverDelete (.delete name)

/-! ## The controller -/

/-- The first loop of `equalStringSets`. A string that is not in the map counts as zero. -/
def countUp (a : List String) : String → Int :=
  a.foldl (fun counts s => Function.update counts s (counts s + 1)) fun _ => 0

/-- The second loop. -/
def countDown (counts : String → Int) : List String → Bool
  | [] => true
  | s :: b =>
    let counts := Function.update counts s (counts s - 1)
    if counts s < 0 then false else countDown counts b

def equalStringSets (a b : List String) : Bool :=
  if a.length ≠ b.length then false else countDown (countUp a) b

def namespaceDrifted (p : NamespaceParams) (info : NamespaceInfo) : Bool :=
  (p.clusters ≠ [] && !equalStringSets p.clusters info.clusters) || p.description ≠ info.description ||
    p.ownerEmail ≠ info.ownerEmail || p.retentionPeriod ≠ info.retentionPeriod

/-- The namespace as described again, or as it was known before. -/
def redescribe (env : NamespaceEnv) (n : Nat) (name : String) (info : NamespaceInfo) :
    Proc NamespacePass Err NamespaceInfo := do
  match ← (attempt (describe env n name) : Proc NamespacePass Err _) with
  | .ok refreshed => return refreshed
  | .error _ => return info

/-- Change the active cluster, if another one is declared. -/
def ensureActive (env : NamespaceEnv) (ns : TemporalNamespace) (info : NamespaceInfo) :
    Proc NamespacePass Err (NamespaceInfo × Bool) := do
  let p := namespaceParams ns
  if ns.spec.isGlobal ∧ p.activeCluster ≠ "" ∧ p.activeCluster ≠ info.activeCluster then do
    mapError (Err.wrap "failing over namespace") (failover env p.name p.activeCluster)
    return (← redescribe env 1 p.name info, true)
  else return (info, false)

/-- Update what has drifted. -/
def ensureUndrifted (env : NamespaceEnv) (ns : TemporalNamespace) (info : NamespaceInfo) :
    Proc NamespacePass Err NamespaceInfo := do
  let p := namespaceParams ns
  if ns.spec.driftDetection ≠ .ignore ∧ namespaceDrifted p info then do
    mapError (Err.wrap "updating namespace") (updateNamespace env p)
    redescribe env 2 p.name info
  else return info

/-- The result is what was last described, and whether a failover was issued. -/
def ensureRegistered (env : NamespaceEnv) (ns : TemporalNamespace) : Proc NamespacePass Err (NamespaceInfo × Bool) := do
  let p := namespaceParams ns
  match ← attempt (describe env 0 p.name) with
  | .error (.notFound _) => do
    mapError (Err.wrap "registering namespace") (register env p)
    return (← describe env 1 p.name, false)
  | .error e => throw (e.wrap "describing namespace")
  | .ok info => do
    let (info, failedOver) ← ensureActive env ns info
    return (← ensureUndrifted env ns info, failedOver)

def readyStatus (ns : TemporalNamespace) (status : ConditionStatus) (reason message : String) : TemporalNamespaceStatus :=
  { ns.status with
    observedGeneration := ns.generation
    conditions := setStatusCondition
      { type := .ready, status, reason, message, observedGeneration := ns.generation } ns.status.conditions }

/-- The observed replication of a global namespace. -/
def applyReplicationStatus (ns : TemporalNamespace) (info : NamespaceInfo) (failoverIssued : Bool) (now : GoTime) :
    Option NamespaceReplicationStatus :=
  if !ns.spec.isGlobal then ns.status.replication
  else
    some
      { isGlobal := info.isGlobal
        activeCluster := info.activeCluster
        clusters := info.clusters
        failoverInProgress := ns.spec.activeCluster ≠ "" && info.activeCluster ≠ ns.spec.activeCluster
        lastFailoverTime := if failoverIssued then some now else ns.status.replication.bind (·.lastFailoverTime) }

def registeredStatus (env : NamespaceEnv) (info : NamespaceInfo) (failoverIssued : Bool) (ns : TemporalNamespace) :
    TemporalNamespaceStatus :=
  let status :=
    { ns.status with
      registered := true
      lastUpdated := some env.now
      namespaceID := info.id
      replication := applyReplicationStatus ns info failoverIssued env.now }
  readyStatus { ns with status := status } .true "Registered" "namespace is registered"

def namespaceDriftRequeue : GoDuration := 300 * second

def remoteDelete (env : NamespaceEnv) (ns : TemporalNamespace) : Proc NamespacePass Err Unit := do
  match ← attempt (deleteNamespace env (namespaceParams ns).name) with
  | .error (.notFound _) => return ()
  | .error e => throw (e.wrap "deleting namespace")
  | .ok () => return ()

def controller (env : NamespaceEnv) :
    Controller TemporalNamespaceSpec TemporalNamespaceStatus (Option NamespaceInfo) NamespaceCall where
  kind := kind
  clusterRef := TemporalNamespaceSpec.clusterRef
  allowDeletion := TemporalNamespaceSpec.allowDeletion
  readyStatus := readyStatus
  notFoundRequeue := namespaceDriftRequeue
  ensureRegistered := do
    let (info, failedOver) ← ensureRegistered env (← get).obj
    return (registeredStatus env info failedOver, namespaceDriftRequeue)
  remoteDelete := remoteDelete env

abbrev NamespaceWorld := World TemporalNamespaceSpec TemporalNamespaceStatus (Option NamespaceInfo)

abbrev NamespaceReport := Report NamespaceEnv TemporalNamespaceSpec TemporalNamespaceStatus NamespaceCall

/-- `Reconcile`. -/
def reconcilePass (w : NamespaceWorld) (env : NamespaceEnv) : NamespaceWorld × NamespaceReport :=
  pass kind NamespaceEnv.toKubeEnv (fun env => (controller env).reconcileObject env.toKubeEnv) w env

end TemporalOperator.Satellite.Namespace
