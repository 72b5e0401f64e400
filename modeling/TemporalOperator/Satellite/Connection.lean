import Mathlib.Data.List.AList
import TemporalOperator.Satellite.Namespace
import TemporalOperator.Webhook.Cluster

/-!
# Connecting clusters

`internal/controller/temporalclusterconnection_controller.go`, its webhook and the remote-cluster client of
`internal/temporal/client.go`. Every Temporal cluster keeps a registry of remote clusters by name. `clusterAt` tells
which cluster lives at a frontend address, and an upsert of an address sets the entry of the cluster that lives there.

* `TemporalClusterConnectionSpec`, `TemporalClusterConnectionStatus` :
  `api/v1alpha1/temporalclusterconnection_types.go`;
* `validatePeers`, `validate` : the webhook; `Registry`, `Registries` : what the clusters know of each other;
* `resolvePeers`, `dialLocals`, `upsertRemotes`, `reconcilePeers`, `reconcileDelete`, `reconcilePass` : the controller.
-/

namespace TemporalOperator.Satellite.Connection
open Lib Proc

/-! ## The object -/

structure ClusterConnectionPeer where
  name : String
  clusterRef : Option ClusterReference := none
  frontendAddress : String := ""
  /-- The name of the secret. -/
  tlsSecretRef : Option String := none
  enableConnection : Option Bool := some true
  deriving DecidableEq, Repr

structure TemporalClusterConnectionSpec where
  peers : List ClusterConnectionPeer
  deriving DecidableEq, Repr

structure PeerConnectionStatus where
  name : String
  reachable : Bool
  connected : Bool
  message : String
  deriving DecidableEq, Repr

inductive ConditionType
  | ready
  deriving DecidableEq, Repr

structure TemporalClusterConnectionStatus where
  observedGeneration : Nat := 0
  peers : List PeerConnectionStatus := []
  conditions : List (Condition ConditionType) := []
  deriving DecidableEq, Repr

abbrev TemporalClusterConnection := Object TemporalClusterConnectionSpec TemporalClusterConnectionStatus

/-! ## The webhook -/

open ClusterWebhook in
/-- The errors of the peer at index `i`, after peers with the names `seen`. -/
def validatePeer (i : Nat) (seen : List String) (p : ClusterConnectionPeer) : List FieldError :=
  let path := "spec.peers[" ++ toString i ++ "]"
  let hasRef := p.clusterRef.any (·.name ≠ "")
  let hasAddr := decide (p.frontendAddress ≠ "")
  check (p.name ≠ "") (required (path ++ ".name") "peer name is required") ++
  check (p.name ∉ seen) { type := .duplicate, path := path ++ ".name", badValue := p.name } ++
  check (!(hasRef && hasAddr)) (invalid path p.name "set exactly one of clusterRef or frontendAddress") ++
  check (hasRef || hasAddr) (invalid path p.name "one of clusterRef or frontendAddress is required") ++
  check (p.tlsSecretRef.isNone || hasAddr)
    (invalid (path ++ ".tlsSecretRef") (p.tlsSecretRef.getD "") "tlsSecretRef is only valid with frontendAddress")

def validatePeersFrom : Nat → List String → List ClusterConnectionPeer → List FieldError
  | _, _, [] => []
  | i, seen, p :: ps => validatePeer i seen p ++ validatePeersFrom (i + 1) (p.name :: seen) ps

def validatePeers (spec : TemporalClusterConnectionSpec) : List FieldError := validatePeersFrom 0 [] spec.peers

inductive AdmissionErr
  | message (text : String)
  | fields (errs : List FieldError)
  deriving DecidableEq, Repr

/-- `ValidateCreate`, and `ValidateUpdate` of the new object. -/
def validate (spec : TemporalClusterConnectionSpec) : Except AdmissionErr Unit :=
  if spec.peers.length < 2 then .error (.message "spec.peers must contain at least two peers")
  else if validatePeers spec ≠ [] then .error (.fields (validatePeers spec))
  else .ok ()

def clusterConnectionFinalizer : String := "temporal.bmor10.com/clusterconnection"

def kind : Kind TemporalClusterConnectionSpec TemporalClusterConnectionStatus where
  finalizer := clusterConnectionFinalizer
  admits _ new := (validate new).isOk

/-! ## The registries -/

/-- A remote cluster as its entry in a registry has it. -/
structure RemoteClusterInfo where
  address : String
  connectionEnabled : Bool
  deriving DecidableEq, Repr

/-- The remote clusters that one cluster knows, by name. -/
abbrev Registry := AList fun _ : String => RemoteClusterInfo

abbrev Registries := String → Registry

/-- How the calls of one pass go. Peers are given by name; `upsert` and `remove` by the peer that is dialed and the
other one. `order` is the order in which Go ranges over the map of dialed peers. -/
structure ConnectionEnv extends KubeEnv TemporalClusterConnectionSpec where
  targets : String → TargetIO := fun _ => {}
  dial : String → Option GoErr := fun _ => none
  list : String → Option RpcErr := fun _ => none
  upsert : String → String → Outcome RpcErr := fun _ _ => .done
  remove : String → String → Outcome RpcErr := fun _ _ => .done
  order : List String → List String := id
  order_perm : ∀ names, (order names).Perm names := by exact fun names => .refl names

/-- The calls of the client, on the peer of the given name. -/
inductive ConnectionCall
  | dial (peer address : String) (answer : Except Err Unit)
  | list (peer : String) (answer : Except Err Registry)
  | upsert (peer address : String) (enable : Bool) (answer : Except Err Unit)
  | remove (peer name : String) (answer : Except Err Unit)
  deriving DecidableEq

abbrev ConnectionPass := Pass TemporalClusterConnectionSpec TemporalClusterConnectionStatus Registries ConnectionCall

/-- A peer resolved to a frontend; its TLS configuration is left out. -/
structure ResolvedPeer where
  name : String
  address : String := ""
  isLocal : Bool := false
  ready : Bool := false
  enable : Bool
  resolveErr : Option GoErr := none
  deriving DecidableEq, Repr

/-- A dialed peer, and its registry as the controller knows it. -/
structure LocalPeerState where
  peer : ResolvedPeer
  remotes : Registry

abbrev Locals := AList fun _ : String => LocalPeerState

/-! ## Resolving and dialing -/

def resolvePeer (env : ConnectionEnv) (p : ClusterConnectionPeer) : ResolvedPeer :=
  let rp : ResolvedPeer := { name := p.name, enable := p.enableConnection.getD true }
  match p.clusterRef with
  | some ref =>
    match resolveTarget (env.targets p.name) ref with
    | .error .notFound => { rp with isLocal := true }
    | .error (.other e) => { rp with isLocal := true, resolveErr := some e }
    | .ok target => { rp with isLocal := true, address := target.address, ready := target.ready }
  | none => { rp with address := p.frontendAddress, ready := true }

def resolvePeers (env : ConnectionEnv) (spec : TemporalClusterConnectionSpec) : List ResolvedPeer :=
  spec.peers.map (resolvePeer env)

section Controller

variable (clusterAt : String → String) (env : ConnectionEnv)

def dial (p : ResolvedPeer) : Proc ConnectionPass Err Unit :=
  issue (.dial p.name p.address)
    (match env.dial p.name with
    | some e => .error (.other e)
    | none => .ok ())

def listRemoteClusters (p : ResolvedPeer) : Proc ConnectionPass Err Registry := do
  let known := (← get).remote (clusterAt p.address)
  issue (.list p.name)
    (match env.list p.name with
    | some e => .error (.rpc e)
    | none => .ok known)

/-- Dial a peer and load its registry; a peer that cannot be dialed is left out. -/
def dialLocal (locals : Locals) (p : ResolvedPeer) : Proc ConnectionPass Err Locals := do
  if !p.isLocal || !p.ready || p.address = "" then return locals
  else
    match ← (attempt (dial env p) : Proc ConnectionPass Err _) with
    | .error _ => return locals
    | .ok () =>
      match ← (attempt (listRemoteClusters clusterAt env p) : Proc ConnectionPass Err _) with
      | .error _ => return locals
      | .ok remotes => return locals.insert p.name { peer := p, remotes := remotes }

def dialLocals (peers : List ResolvedPeer) : Proc ConnectionPass Err Locals :=
  peers.foldlM (dialLocal clusterAt env) ∅

/-! ## Registering peers -/

/-- The registries after `AddOrUpdateRemoteCluster` on `cluster`. -/
def serverUpsert (cluster address : String) (enable : Bool) (registries : Registries) : Except RpcErr Registries :=
  .ok (Function.update registries cluster
    ((registries cluster).insert (clusterAt address) { address := address, connectionEnabled := enable }))

def upsertRemoteCluster (l other : ResolvedPeer) : Proc ConnectionPass Err Unit :=
  remoteCall (env.upsert l.name other.name)
    (serverUpsert clusterAt (clusterAt l.address) other.address other.enable) (.upsert l.name other.address other.enable)

/-- Register one other peer on a dialed one, if it is missing or its enabled state is another. -/
def upsertRemote (name : String) (l : LocalPeerState) (other : ResolvedPeer) :
    Proc ConnectionPass Err LocalPeerState := do
  if other.name = name ∨ other.address = "" then return l
  else if (l.remotes.lookup other.name).any (·.connectionEnabled = other.enable) then return l
  else
    match ← (attempt (upsertRemoteCluster clusterAt env l.peer other) : Proc ConnectionPass Err _) with
    | .error _ => return l
    | .ok () =>
      return { l with
        remotes := l.remotes.insert other.name { address := other.address, connectionEnabled := other.enable } }

/-- The other peers on the dialed peer `name`. -/
def upsertOn (peers : List ResolvedPeer) (locals : Locals) (name : String) : Proc ConnectionPass Err Locals := do
  match locals.lookup name with
  | none => return locals
  | some l =>
    let l ← peers.foldlM (upsertRemote clusterAt env name) l
    return locals.insert name l

def upsertRemotes (peers : List ResolvedPeer) (locals : Locals) : Proc ConnectionPass Err Locals :=
  (env.order locals.keys).foldlM (upsertOn clusterAt env peers) locals

end Controller

/-! ## The verdict -/

def allLocals (locals : Locals) : List LocalPeerState := locals.entries.map (·.2)

/-- The body of the loop of `computeReachable`. -/
def markReachable (locals : Locals) (reachable : String → Bool) (p : ResolvedPeer) : String → Bool :=
  if p.isLocal then Function.update reachable p.name (locals.lookup p.name).isSome
  else if (allLocals locals).any fun l => (l.remotes.lookup p.name).isSome then Function.update reachable p.name true
  else reachable

def computeReachable (peers : List ResolvedPeer) (locals : Locals) : String → Bool :=
  peers.foldl (markReachable locals) fun _ => false

def enabledIn (l : LocalPeerState) (name : String) : Bool := (l.remotes.lookup name).any (·.connectionEnabled)

/-- A local peer is judged by its own registry, an external one by the registries of the dialed peers. -/
def peerConnected (p : ResolvedPeer) (peers : List ResolvedPeer) (locals : Locals) : Bool :=
  if p.isLocal then
    match locals.lookup p.name with
    | none => false
    | some l => peers.all fun other =>
        other.name = p.name || !other.enable || other.address = "" || enabledIn l other.name
  else
    let others := (allLocals locals).filter (·.peer.name ≠ p.name)
    others.all (enabledIn · p.name) && !others.isEmpty

structure Verdict where
  statuses : List PeerConnectionStatus := []
  allReady : Bool := true
  reason : String := "PeersConnected"
  message : String := "all replication peers are connected"
  deriving DecidableEq, Repr

/-- Add the status of one peer. -/
def buildStatus (peers : List ResolvedPeer) (locals : Locals) (reachable : String → Bool) (v : Verdict)
    (p : ResolvedPeer) : Verdict :=
  let connected := peerConnected p peers locals
  let add (v : Verdict) (message : String) : Verdict :=
    { v with
      statuses := v.statuses ++ [{ name := p.name, reachable := reachable p.name, connected := connected, message }] }
  if !reachable p.name then
    let v :=
      if p.enable then
        { v with
          allReady := false, reason := "PeerUnreachable", message := "peer " ++ GoText.quote p.name ++ " is unreachable" }
      else v
    match p.resolveErr with
    | some e => add v ("peer could not be resolved: " ++ e.text)
    | none => add v "peer frontend is unreachable or not ready"
  else if !p.enable then add v "connection intentionally disabled"
  else if !connected then
    let v := { v with allReady := false }
    add
      (if v.reason = "PeersConnected" then
        { v with
          reason := "ReplicationConfigDrift"
          message := "peer " ++ GoText.quote p.name ++ " is not connected on all peers" }
      else v)
      "peer is not yet registered as an enabled remote on all peers"
  else add v "connected"

def buildStatuses (peers : List ResolvedPeer) (locals : Locals) (reachable : String → Bool) : Verdict :=
  peers.foldl (buildStatus peers locals reachable) {}

/-! ## The controller -/

section Controller

variable (clusterAt : String → String) (env : ConnectionEnv)

def reconcilePeers (peers : List ResolvedPeer) : Proc ConnectionPass Err Verdict := do
  let locals ← dialLocals clusterAt env peers
  let locals ← upsertRemotes clusterAt env peers locals
  return buildStatuses peers locals (computeReachable peers locals)

/-- The registries after `RemoveRemoteCluster` on `cluster`. -/
def serverRemove (cluster name : String) (registries : Registries) : Except RpcErr Registries :=
  if ((registries cluster).lookup name).isSome then
    .ok (Function.update registries cluster ((registries cluster).erase name))
  else .error ⟨.notFound, "remote cluster not found"⟩

/-- Take one other peer out of the registry of a dialed one; errors are only logged. -/
def removeRemote (name : String) (l : ResolvedPeer) (other : ResolvedPeer) : Proc ConnectionPass Err Unit := do
  if other.name = name then return ()
  else do
    let _ ← (attempt (remoteCall (env.remove l.name other.name) (serverRemove (clusterAt l.address) other.name)
      (.remove l.name other.name)) : Proc ConnectionPass Err (Except Err Unit))

def removeOn (peers : List ResolvedPeer) (locals : Locals) (name : String) : Proc ConnectionPass Err Unit :=
  match locals.lookup name with
  | none => return ()
  | some l => peers.forM (removeRemote clusterAt env name l.peer)

def reconcileDelete (peers : List ResolvedPeer) : Proc ConnectionPass Err Unit := do
  if clusterConnectionFinalizer ∈ (← get).obj.finalizers then do
    let locals ← dialLocals clusterAt env peers
    (env.order locals.keys).forM (removeOn clusterAt env peers locals)
    dropFinalizer kind env.toKubeEnv
  else return ()

def setReady (conn : TemporalClusterConnection) (peers : List PeerConnectionStatus) (status : ConditionStatus)
    (reason message : String) : TemporalClusterConnectionStatus :=
  { observedGeneration := conn.generation
    peers := peers
    conditions := setStatusCondition
      { type := .ready, status, reason, message, observedGeneration := conn.generation } conn.status.conditions }

def verdictStatus (v : Verdict) (conn : TemporalClusterConnection) : TemporalClusterConnectionStatus :=
  if v.allReady then setReady conn v.statuses .true "PeersConnected" "all replication peers are connected"
  else setReady conn v.statuses .false v.reason v.message

def reconcilePresent (peers : List ResolvedPeer) : Proc ConnectionPass Err GoDuration := do
  ensureFinalizer kind env.toKubeEnv
  let v ← reconcilePeers clusterAt env peers
  modify fun s => { s with obj := { s.obj with status := verdictStatus v s.obj } }
  statusUpdate kind env.toKubeEnv
  return Namespace.namespaceDriftRequeue

/-- `Reconcile` after the object has been read. -/
def reconcileObject : Proc ConnectionPass Err GoDuration := do
  let conn := (← get).obj
  let peers := resolvePeers env conn.spec
  if conn.deleting then do
    reconcileDelete clusterAt env peers
    return 0
  else reconcilePresent clusterAt env peers

end Controller

abbrev ConnectionWorld := World TemporalClusterConnectionSpec TemporalClusterConnectionStatus Registries

abbrev ConnectionReport :=
  Report ConnectionEnv TemporalClusterConnectionSpec TemporalClusterConnectionStatus ConnectionCall

/-- `Reconcile`. -/
def reconcilePass (clusterAt : String → String) (w : ConnectionWorld) (env : ConnectionEnv) :
    ConnectionWorld × ConnectionReport :=
  pass kind ConnectionEnv.toKubeEnv (reconcileObject clusterAt) w env

end TemporalOperator.Satellite.Connection
