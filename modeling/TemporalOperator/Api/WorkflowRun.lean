import TemporalOperator.Api.Schedule
import TemporalOperator.Lib.ObjectStore

/-!
# The TemporalWorkflowRun API

`api/v1alpha1/temporalworkflowrun_types.go`. The API server keeps times in whole seconds (`metaTime`).
-/

namespace TemporalOperator
open Lib

/-- What happens to a workflow that is still running when its object is deleted. -/
inductive CancellationPolicy
  | abandon
  | cancel
  | terminate
  deriving DecidableEq, Repr

structure TemporalWorkflowRunSpec where
  clusterRef : ClusterReference
  /-- The Temporal namespace. -/
  namespace_ : String
  workflow : StartWorkflowAction
  ttlSecondsAfterFinished : Option Int := none
  cancellationPolicy : CancellationPolicy := .abandon
  deriving DecidableEq, Repr

structure WorkflowRunFailure where
  message : String := ""
  type : String := ""
  deriving DecidableEq, Repr

inductive WorkflowRunConditionType
  | ready
  | finished
  deriving DecidableEq, Repr

structure TemporalWorkflowRunStatus where
  observedGeneration : Nat := 0
  phase : String := ""
  workflowID : String := ""
  runID : String := ""
  workflowType : String := ""
  taskQueue : String := ""
  startTime : Option GoTime := none
  closeTime : Option GoTime := none
  completionTime : Option GoTime := none
  historyLength : Int := 0
  failure : Option WorkflowRunFailure := none
  conditions : List (Condition WorkflowRunConditionType) := []
  deriving DecidableEq, Repr

abbrev TemporalWorkflowRun := Object TemporalWorkflowRunSpec TemporalWorkflowRunStatus

def second : GoDuration := 1000000000

/-- A `metav1.Time` as it is read back. -/
def metaTime (t : GoTime) : GoTime := t / second * second

/-- The status as it is read back. -/
def TemporalWorkflowRunStatus.persist (st : TemporalWorkflowRunStatus) : TemporalWorkflowRunStatus :=
  { st with
    startTime := st.startTime.map metaTime
    closeTime := st.closeTime.map metaTime
    completionTime := st.completionTime.map metaTime }

end TemporalOperator
