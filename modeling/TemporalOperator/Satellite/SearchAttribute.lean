import TemporalOperator.Satellite.Controller

/-!
# Reconciling a search attribute

`internal/controller/temporalsearchattribute_controller.go` and the search attribute client of
`internal/temporal/client.go`. The server keeps the custom search attributes of the namespace; one that has just been
added may not be listed yet.

* `TemporalSearchAttributeSpec`, `TemporalSearchAttributeStatus` : `api/v1alpha1/temporalsearchattribute_types.go`;
* `ensureRegistered`, `remoteDelete`, `controller`, `reconcilePass` : the controller.
-/

namespace TemporalOperator.Satellite.SearchAttribute
open Lib Proc

/-! ## The object -/

inductive AttributeType
  | text
  | keyword
  | int
  | double
  | bool
  | datetime
  | keywordList
  deriving DecidableEq, Repr

structure TemporalSearchAttributeSpec where
  clusterRef : ClusterReference
  /-- The Temporal namespace. -/
  namespace_ : String
  name : String
  type : AttributeType
  allowDeletion : Bool := false
  deriving DecidableEq, Repr

inductive ConditionType
  | ready
  deriving DecidableEq, Repr

structure TemporalSearchAttributeStatus where
  observedGeneration : Nat := 0
  registered : Bool := false
  registeredAt : Option GoTime := none
  conditions : List (Condition ConditionType) := []
  deriving DecidableEq, Repr

abbrev TemporalSearchAttribute := Object TemporalSearchAttributeSpec TemporalSearchAttributeStatus

/-- `ValidateUpdate` of the webhook. -/
def admits (old new : TemporalSearchAttributeSpec) : Bool := new.clusterRef.name ≠ "" && new.type = old.type

def searchAttributeFinalizer : String := "temporal.bmor10.com/search-attribute"

def kind : Kind TemporalSearchAttributeSpec TemporalSearchAttributeStatus where
  finalizer := searchAttributeFinalizer
  admits := admits
  persist st := { st with registeredAt := st.registeredAt.map metaTime }

/-! ## The client -/

abbrev Attributes := List (String × AttributeType)

inductive AttributeCall
  | list (namespace_ : String) (answer : Except Err Attributes)
  | add (namespace_ name : String) (type : AttributeType) (answer : Except Err Unit)
  | remove (namespace_ name : String) (answer : Except Err Unit)
  deriving DecidableEq

/-- How the calls of one pass go; `list n` answers the `n`-th `List` with the names it does not show yet. -/
structure AttributeEnv extends KubeEnv TemporalSearchAttributeSpec where
  list : Nat → Except RpcErr (List String) := fun _ => .ok []
  add : Outcome RpcErr := .done
  remove : Outcome RpcErr := .done

abbrev AttributePass := Pass TemporalSearchAttributeSpec TemporalSearchAttributeStatus Attributes AttributeCall

def listAnswer (env : AttributeEnv) (n : Nat) (remote : Attributes) : Except Err Attributes :=
  match env.list n with
  | .error e => .error (.rpc e)
  | .ok hidden => .ok (remote.filter (·.1 ∉ hidden))

def list (env : AttributeEnv) (n : Nat) (namespace_ : String) : Proc AttributePass Err Attributes := do
  issue (.list namespace_) (listAnswer env n (← get).remote)

def serverAdd (name : String) (type : AttributeType) (remote : Attributes) : Except RpcErr Attributes :=
  if (remote.lookup name).isSome then .error ⟨.alreadyExists, "search attribute already exists"⟩
  else .ok ((name, type) :: remote)

/-- The server does not know an attribute that is gone. -/
def serverRemove (name : String) (remote : Attributes) : Except RpcErr Attributes :=
  if (remote.lookup name).isSome then .ok (remote.filter (·.1 ≠ name))
  else .error ⟨.notFound, "search attribute not found"⟩

def add (env : AttributeEnv) (sa : TemporalSearchAttribute) : Proc AttributePass Err Unit :=
  remoteCall env.add (serverAdd sa.spec.name sa.spec.type) (.add sa.spec.namespace_ sa.spec.name sa.spec.type)

/-- `Remove` hands on the server's error as it is. -/
def remove (env : AttributeEnv) (sa : TemporalSearchAttribute) : Proc AttributePass Err Unit :=
  remoteCall env.remove (serverRemove sa.spec.name) (.remove sa.spec.namespace_ sa.spec.name)

/-! ## The controller -/

/-- An attribute that has just been added may not be visible yet. -/
def attributeVisible (env : AttributeEnv) (sa : TemporalSearchAttribute) : Proc AttributePass Err Bool := do
  match ← attempt (list env 1 sa.spec.namespace_) with
  | .error _ => return false
  | .ok attrs => return (attrs.lookup sa.spec.name).isSome

def ensureRegistered (env : AttributeEnv) (sa : TemporalSearchAttribute) : Proc AttributePass Err Bool := do
  let existing ← mapError (Err.wrap "listing search attributes") (list env 0 sa.spec.namespace_)
  if (existing.lookup sa.spec.name).isSome then return true
  else do
    mapError (Err.wrap "adding search attribute") (add env sa)
    attributeVisible env sa

def readyStatus (sa : TemporalSearchAttribute) (status : ConditionStatus) (reason message : String) :
    TemporalSearchAttributeStatus :=
  { sa.status with
    observedGeneration := sa.generation
    conditions := setStatusCondition
      { type := .ready, status, reason, message, observedGeneration := sa.generation } sa.status.conditions }

def registeredStatus (env : AttributeEnv) (sa : TemporalSearchAttribute) : TemporalSearchAttributeStatus :=
  let status := { sa.status with registered := true, registeredAt := sa.status.registeredAt <|> some env.now }
  readyStatus { sa with status := status } .true "Registered" "search attribute is registered"

def hiddenStatus (sa : TemporalSearchAttribute) : TemporalSearchAttributeStatus :=
  readyStatus sa .false "Reconciling" "waiting for the search attribute to become visible"

def remoteDelete (env : AttributeEnv) (sa : TemporalSearchAttribute) : Proc AttributePass Err Unit :=
  mapError (Err.wrap "removing search attribute") (remove env sa)

def controller (env : AttributeEnv) :
    Controller TemporalSearchAttributeSpec TemporalSearchAttributeStatus Attributes AttributeCall where
  kind := kind
  clusterRef := TemporalSearchAttributeSpec.clusterRef
  allowDeletion := TemporalSearchAttributeSpec.allowDeletion
  readyStatus := readyStatus
  notFoundRequeue := 60 * second
  ensureRegistered := do
    if ← ensureRegistered env (← get).obj then return (registeredStatus env, 0)
    else return (hiddenStatus, 10 * second)
  remoteDelete := remoteDelete env

abbrev AttributeWorld := World TemporalSearchAttributeSpec TemporalSearchAttributeStatus Attributes

abbrev AttributeReport := Report AttributeEnv TemporalSearchAttributeSpec TemporalSearchAttributeStatus AttributeCall

/-- `Reconcile`. -/
def reconcilePass (w : AttributeWorld) (env : AttributeEnv) : AttributeWorld × AttributeReport :=
  pass kind AttributeEnv.toKubeEnv (fun env => (controller env).reconcileObject env.toKubeEnv) w env

end TemporalOperator.Satellite.SearchAttribute
