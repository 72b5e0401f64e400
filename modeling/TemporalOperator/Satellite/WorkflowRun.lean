import TemporalOperator.Api.WorkflowRun
import TemporalOperator.Lib.Runs
import TemporalOperator.Satellite.Pass
import TemporalOperator.Schedule.Proto

/-!
# Reconciling a workflow run

`internal/controller/temporalworkflowrun_controller.go` and the client of `internal/temporal/workflowrun.go`. The
frontend may answer anything; every call of the client is recorded with its answer. Of the webhook, `admits` has the
fields that may not be edited; the checks of the new spec alone only refuse more.

* `startClient`, `describeClient`, `cancelClient`, `terminateClient` : the client;
* `reconcileRun`, `ttlCleanup`, `reconcileDelete`, `reconcileObject`, `reconcilePass` : the controller; `runSystem` :
  its runs.
-/

namespace TemporalOperator.Satellite.WorkflowRun
open Lib Proc

/-! ## The client -/

inductive ExecutionStatus
  | unspecified
  | running
  | completed
  | failed
  | canceled
  | terminated
  | continuedAsNew
  | timedOut
  | other (code : Int)
  deriving DecidableEq, Repr

def phaseFromStatus : ExecutionStatus → String
  | .running => "Running"
  | .completed => "Completed"
  | .failed => "Failed"
  | .canceled => "Canceled"
  | .terminated => "Terminated"
  | .continuedAsNew => "ContinuedAsNew"
  | .timedOut => "TimedOut"
  | _ => "Pending"

def isTerminalStatus : ExecutionStatus → Bool
  | .unspecified => false
  | .running => false
  | _ => true

structure WorkflowFailure where
  message : String
  type : String
  deriving DecidableEq, Repr

/-- The close events of a history with the data read from them. -/
inductive HistoryEvent
  | failed (message type : String)
  | terminated (reason : String)
  | timedOut
  | other
  deriving DecidableEq, Repr

def workflowFailureFromEvent : HistoryEvent → Option WorkflowFailure
  | .failed message type => some ⟨message, type⟩
  | .terminated reason => some ⟨reason, "Terminated"⟩
  | .timedOut => some ⟨"workflow execution timed out", "TimedOut"⟩
  | .other => none

structure StartRequest where
  namespace_ : String
  workflow : ProtoStartWorkflow
  identity : String
  requestId : String
  deriving DecidableEq, Repr

/-- The answer of the frontend to `DescribeWorkflowExecution`. -/
structure DescribeResponse where
  status : ExecutionStatus
  runID : String := ""
  workflowType : String := ""
  taskQueue : String := ""
  startTime : Option GoTime := none
  closeTime : Option GoTime := none
  historyLength : Int := 0
  deriving DecidableEq, Repr

structure WorkflowExecutionInfo where
  status : ExecutionStatus
  runID : String
  workflowType : String
  taskQueue : String
  startTime : Option GoTime
  closeTime : Option GoTime
  historyLength : Int
  failure : Option WorkflowFailure
  deriving DecidableEq, Repr

/-- The answers to the calls of one pass. A pass describes an execution twice at most: when a start finds it there
already (0), and to refresh the status (1). -/
structure RunEnv extends KubeEnv TemporalWorkflowRunSpec where
  startExecution : StartRequest → Except RpcErr String := fun _ => .ok "run"
  describeExecution : Nat → Except RpcErr DescribeResponse := fun _ => .ok { status := .running }
  executionHistory : Nat → Except RpcErr (List HistoryEvent) := fun _ => .ok []
  cancelExecution : Except RpcErr Unit := .ok ()
  terminateExecution : Except RpcErr Unit := .ok ()

def workflowRunIdentity : String := "temporal-operator"

def errWorkflowNotFound : Err := .notFound "workflow execution not found"

def closeFailure (env : RunEnv) (n : Nat) : Option WorkflowFailure :=
  match env.executionHistory n with
  | .error _ => none
  | .ok events => events.findSome? workflowFailureFromEvent

/-- The `n`-th `Describe` of the pass. -/
def describeClient (env : RunEnv) (n : Nat) : Except Err WorkflowExecutionInfo :=
  match env.describeExecution n with
  | .error e => .error (if e.code = .notFound then errWorkflowNotFound else .rpc e)
  | .ok wi =>
    .ok
      { status := wi.status
        runID := wi.runID
        workflowType := wi.workflowType
        taskQueue := wi.taskQueue
        startTime := wi.startTime
        closeTime := wi.closeTime
        historyLength := wi.historyLength
        failure :=
          if isTerminalStatus wi.status ∧ wi.status ≠ .completed ∧ wi.status ≠ .canceled then closeFailure env n
          else none }

def startClient (env : RunEnv) (namespace_ requestID : String) (p : StartWorkflowParams) : Except Err String :=
  match reusePolicies.lookup p.idReusePolicy with
  | none => .error (.other ⟨.other, "unknown workflow id reuse policy " ++ GoText.quote p.idReusePolicy⟩)
  | some reuse =>
    let request :=
      { namespace_, workflow := protoStartWorkflow p reuse, identity := workflowRunIdentity, requestId := requestID }
    match env.startExecution request with
    | .ok runID => .ok runID
    | .error e =>
      if e.code = .alreadyExists then (describeClient env 0).map (·.runID) else .error (.rpc e)

/-- `Cancel` and `Terminate` take an execution that is closed for one that does not exist. -/
def closedAsNotFound : Except RpcErr Unit → Except Err Unit
  | .ok () => .ok ()
  | .error e =>
    .error (if e.code = .notFound ∨ e.code = .failedPrecondition then errWorkflowNotFound else .rpc e)

def cancelClient (env : RunEnv) : Except Err Unit := closedAsNotFound env.cancelExecution

def terminateClient (env : RunEnv) : Except Err Unit := closedAsNotFound env.terminateExecution

inductive RunCall
  | start (namespace_ requestID : String) (params : StartWorkflowParams) (answer : Except Err String)
  | describe (namespace_ workflowID runID : String) (answer : Except Err WorkflowExecutionInfo)
  | cancel (namespace_ workflowID runID reason : String) (answer : Except Err Unit)
  | terminate (namespace_ workflowID runID reason : String) (answer : Except Err Unit)
  deriving DecidableEq

abbrev RunEffect := Effect TemporalWorkflowRunSpec TemporalWorkflowRunStatus RunCall

abbrev RunPass := Pass TemporalWorkflowRunSpec TemporalWorkflowRunStatus Unit RunCall

/-! ## The object -/

/-- `ValidateUpdate` of the webhook: reference, namespace and workflow stay. -/
def admits (old new : TemporalWorkflowRunSpec) : Bool :=
  new.clusterRef = old.clusterRef && new.namespace_ = old.namespace_ && new.workflow = old.workflow

def workflowRunFinalizer : String := "temporal.bmor10.com/workflowrun"

def kind : Kind TemporalWorkflowRunSpec TemporalWorkflowRunStatus where
  finalizer := workflowRunFinalizer
  admits := admits
  persist := TemporalWorkflowRunStatus.persist

def readyStatus (run : TemporalWorkflowRun) (status : ConditionStatus) (reason message : String) :
    TemporalWorkflowRunStatus :=
  { run.status with
    observedGeneration := run.generation
    conditions := setStatusCondition
      { type := .ready, status, reason, message, observedGeneration := run.generation } run.status.conditions }

def setReady (status : ConditionStatus) (reason message : String) : Proc RunPass Err Unit :=
  modify fun s => { s with obj := { s.obj with status := readyStatus s.obj status reason message } }

def resolveWorkflowID (run : TemporalWorkflowRun) : String :=
  if run.spec.workflow.workflowID ≠ "" then run.spec.workflow.workflowID else run.name

def checkWorkflowRunPolicy (p : WorkflowRunPolicy) (namespace_ taskQueue : String) : Except String Unit :=
  if !p.enabled then .error "workflow runs are not enabled on the referenced Temporal target"
  else if p.allowedNamespaces ≠ [] ∧ namespace_ ∉ p.allowedNamespaces then
    .error ("namespace " ++ GoText.quote namespace_ ++ " is not in the target's allowedNamespaces")
  else if p.allowedTaskQueues ≠ [] ∧ taskQueue ∉ p.allowedTaskQueues then
    .error ("task queue " ++ GoText.quote taskQueue ++ " is not in the target's allowedTaskQueues")
  else .ok ()

def workflowRunParams (run : TemporalWorkflowRun) : Except String StartWorkflowParams := do
  let a := run.spec.workflow
  let retry ← retryParams a.retryPolicy
  return {
    workflowType := a.workflowType
    taskQueue := a.taskQueue
    workflowID := resolveWorkflowID run
    args := rawList a.args
    executionTimeout := a.workflowExecutionTimeout
    runTimeout := a.workflowRunTimeout
    taskTimeout := a.workflowTaskTimeout
    idReusePolicy := a.workflowIDReusePolicy
    retry := retry
    memo := rawMap a.memo
    searchAttributes := rawMap a.searchAttributes }

/-! ## The controller -/

def workflowRunPollInterval : GoDuration := 10 * second

def workflowRunPolicyRetry : GoDuration := 30 * second

/-- The result of a pass is the requeue delay. -/
def ttlCleanup (env : RunEnv) : Proc RunPass Err GoDuration := do
  let run := (← get).obj
  match run.spec.ttlSecondsAfterFinished, run.status.completionTime with
  | some ttl, some completion =>
    let remaining := completion + ttl * second - env.now
    if remaining > 0 then return remaining
    else do
      ignoreNotFound (deleteObject kind env.toKubeEnv)
      return 0
  | _, _ => return 0

/-- The status after a successful `Start`. -/
def startedStatus (run : TemporalWorkflowRun) (runID : String) : TemporalWorkflowRunStatus :=
  { run.status with
    workflowID := resolveWorkflowID run
    runID := runID
    workflowType := run.spec.workflow.workflowType
    taskQueue := run.spec.workflow.taskQueue
    phase := "Running" }

def startRun (env : RunEnv) (params : StartWorkflowParams) : Proc RunPass Err Unit := do
  let run := (← get).obj
  let runID ← mapError (Err.wrap "starting workflow")
    (issue (.start run.spec.namespace_ run.uid params) (startClient env run.spec.namespace_ run.uid params))
  modify fun s => { s with obj := { s.obj with status := startedStatus s.obj runID } }
  setReady .true "WorkflowRunning" "workflow started"

/-- The status with the observed state of the execution. -/
def observedStatus (st : TemporalWorkflowRunStatus) (info : WorkflowExecutionInfo) : TemporalWorkflowRunStatus :=
  { st with
    phase := phaseFromStatus info.status
    historyLength := info.historyLength
    startTime := info.startTime <|> st.startTime
    closeTime := info.closeTime <|> st.closeTime }

/-- The status of an execution found in a terminal state. -/
def finishedStatus (run : TemporalWorkflowRun) (info : WorkflowExecutionInfo) (now : GoTime) :
    TemporalWorkflowRunStatus :=
  { run.status with
    completionTime := run.status.completionTime <|> some now
    failure := (info.failure.map fun f => ⟨f.message, f.type⟩) <|> run.status.failure
    conditions := setStatusCondition
      { type := .finished, status := .true, reason := "WorkflowFinished"
        message := "workflow reached a terminal state: " ++ run.status.phase
        observedGeneration := run.generation }
      run.status.conditions }

/-- Record the terminal state, then look at the TTL. -/
def finishRun (env : RunEnv) (info : WorkflowExecutionInfo) : Proc RunPass Err GoDuration := do
  modify fun s => { s with obj := { s.obj with status := finishedStatus s.obj info env.now } }
  setReady .true "WorkflowFinished" ("workflow finished: " ++ (← get).obj.status.phase)
  statusUpdate kind env.toKubeEnv
  ttlCleanup env

/-- Refresh the observed state. -/
def refreshRun (env : RunEnv) : Proc RunPass Err GoDuration := do
  let run := (← get).obj
  let info ← mapError (Err.wrap "describing workflow")
    (issue (.describe run.spec.namespace_ (resolveWorkflowID run) run.status.runID) (describeClient env 1))
  modify fun s => { s with obj := { s.obj with status := observedStatus s.obj.status info } }
  if isTerminalStatus info.status then finishRun env info
  else do
    setReady .true "WorkflowRunning" "workflow is running"
    statusUpdate kind env.toKubeEnv
    return workflowRunPollInterval

def reconcileRun (env : RunEnv) (policy : WorkflowRunPolicy) : Proc RunPass Err GoDuration := do
  let run := (← get).obj
  if run.status.completionTime.isSome then ttlCleanup env
  else if run.status.runID = "" then
    match checkWorkflowRunPolicy policy run.spec.namespace_ run.spec.workflow.taskQueue with
    | .error e => do
      setReady .false "WorkflowRunNotPermitted" e
      statusUpdate kind env.toKubeEnv
      return workflowRunPolicyRetry
    | .ok () =>
      match workflowRunParams run with
      | .error e => do
        setReady .false "InvalidSpec" e
        statusUpdate kind env.toKubeEnv
        return 0
      | .ok params => do
        startRun env params
        refreshRun env
  else refreshRun env

def removeFinalizer (env : RunEnv) : Proc RunPass Err Unit := dropFinalizer kind env.toKubeEnv

/-- An error other than `ErrWorkflowNotFound` ends the pass. -/
def ignoreWorkflowNotFound (pre : String) (m : Proc RunPass Err Unit) : Proc RunPass Err Unit := do
  match ← attempt m with
  | .error (.notFound _) => return ()
  | .error e => throw (e.wrap pre)
  | .ok () => return ()

/-- Apply the cancellation policy to a workflow that is recorded as running. -/
def applyCancellationPolicy (env : RunEnv) (run : TemporalWorkflowRun) : Proc RunPass Err Unit :=
  if run.status.runID ≠ "" ∧ run.status.completionTime = none then
    match run.spec.cancellationPolicy with
    | .abandon => return ()
    | .cancel =>
      ignoreWorkflowNotFound "cancelling workflow"
        (issue (.cancel run.spec.namespace_ (resolveWorkflowID run) run.status.runID "TemporalWorkflowRun deleted")
          (cancelClient env))
    | .terminate =>
      ignoreWorkflowNotFound "terminating workflow"
        (issue (.terminate run.spec.namespace_ (resolveWorkflowID run) run.status.runID "TemporalWorkflowRun deleted")
          (terminateClient env))
  else return ()

def reconcileDelete (env : RunEnv) : Proc RunPass Err Unit := do
  let run := (← get).obj
  if kind.finalizer ∈ run.finalizers then do
    applyCancellationPolicy env run
    removeFinalizer env
  else return ()

/-- The object is read and not being deleted, and the client is there. -/
def reconcilePresent (env : RunEnv) (target : ResolvedTarget) : Proc RunPass Err GoDuration := do
  ensureFinalizer kind env.toKubeEnv
  if !target.ready then do
    setReady .false "ClusterNotReady" "waiting for the Temporal target to become ready"
    statusUpdate kind env.toKubeEnv
    return 15 * second
  else
    match ← attempt (reconcileRun env target.workflowRunPolicy) with
    | .ok requeue => return requeue
    | .error e =>
      if e.transient then do
        setReady .false "FrontendUnavailable" "waiting for the Temporal frontend to become available"
        statusUpdate kind env.toKubeEnv
        return 5 * second
      else throw e

/-- `Reconcile` after the object has been read. -/
def reconcileObject (env : RunEnv) : Proc RunPass Err GoDuration := do
  let run := (← get).obj
  match resolveTarget env.target run.spec.clusterRef with
  | .error .notFound =>
    if run.deleting then do
      removeFinalizer env
      return 0
    else do
      setReady .false "ClusterNotFound" "referenced Temporal target not found"
      statusUpdate kind env.toKubeEnv
      return 15 * second
  | .error (.other e) => throw (.other e)
  | .ok target =>
    match env.clientErr with
    | some e => throw (.other (e.wrap "building temporal client"))
    | none =>
      if run.deleting then do
        reconcileDelete env
        return 0
      else reconcilePresent env target

abbrev RunReport := Report RunEnv TemporalWorkflowRunSpec TemporalWorkflowRunStatus RunCall

abbrev RunWorld := World TemporalWorkflowRunSpec TemporalWorkflowRunStatus Unit

/-- `Reconcile`. -/
def reconcilePass (w : RunWorld) (env : RunEnv) : RunWorld × RunReport :=
  pass kind RunEnv.toKubeEnv reconcileObject w env

/-- Passes one after the other, each with what users do before and during it. -/
def runSystem : System RunWorld RunEnv RunReport := ⟨reconcilePass⟩

/-! ## A run to try passes on -/

def sampleRun (ttl : Option Int) (policy : CancellationPolicy) : TemporalWorkflowRun where
  name := "report"
  spec :=
    { clusterRef := { name := "dev", kind := "TemporalDevServer" }
      namespace_ := "default"
      workflow := { workflowType := "Report", taskQueue := "reports" }
      ttlSecondsAfterFinished := ttl
      cancellationPolicy := policy }
  status := {}

/-- The target is ready and every call succeeds; the execution is in the state `status`. -/
def smoothEnv (status : ExecutionStatus) (now : GoTime) : RunEnv where
  target := { getDevServer := .ok { conditions := [⟨.ready, .true, "Ready", "", 1⟩] } }
  describeExecution := fun _ => .ok { status := status, runID := "run" }
  now := now

end TemporalOperator.Satellite.WorkflowRun
