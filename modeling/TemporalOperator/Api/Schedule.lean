import TemporalOperator.Lib.Conditions
import TemporalOperator.Lib.GoMap
import TemporalOperator.Lib.ObjectStore

/-!
# The TemporalSchedule API

`api/v1alpha1/temporalschedule_types.go`. The status is over a type `H` of spec hashes; `none` is the empty text.
-/

namespace TemporalOperator
open Lib

/-- A `time.Duration` in nanoseconds. -/
abbrev GoDuration := Int

/-- The instant of a `time.Time`, in nanoseconds since 1970. -/
abbrev GoTime := Int

structure ClusterReference where
  name : String
  kind : String := ""
  deriving DecidableEq, Repr

/-- `runtime.RawExtension`: the bytes of a JSON value, none for `null`. -/
structure RawExtension where
  raw : List UInt8
  deriving DecidableEq, Repr

structure CalendarRange where
  start : Int
  stop : Int := 0
  step : Int := 0
  deriving DecidableEq, Repr

structure StructuredCalendarSpec where
  second : List CalendarRange := []
  minute : List CalendarRange := []
  hour : List CalendarRange := []
  dayOfMonth : List CalendarRange := []
  month : List CalendarRange := []
  year : List CalendarRange := []
  dayOfWeek : List CalendarRange := []
  comment : String := ""
  deriving DecidableEq, Repr

structure IntervalSpec where
  every : GoDuration
  offset : Option GoDuration := none
  deriving DecidableEq, Repr

structure ScheduleSpec where
  /-- Cron strings; `none` is the nil slice, which is hashed differently from an empty one. -/
  calendars : Option (List String) := none
  intervals : List IntervalSpec := []
  structuredCalendar : List StructuredCalendarSpec := []
  excludeStructuredCalendar : List StructuredCalendarSpec := []
  startTime : Option GoTime := none
  endTime : Option GoTime := none
  jitter : Option GoDuration := none
  timezoneName : String := ""
  deriving DecidableEq, Repr

structure RetryPolicySpec where
  initialInterval : Option GoDuration := none
  backoffCoefficient : String := ""
  maximumInterval : Option GoDuration := none
  maximumAttempts : Int := 0
  /-- `none` is the nil slice. -/
  nonRetryableErrorTypes : Option (List String) := none
  deriving DecidableEq, Repr

structure StartWorkflowAction where
  workflowType : String
  taskQueue : String
  workflowID : String := ""
  args : List RawExtension := []
  workflowExecutionTimeout : Option GoDuration := none
  workflowRunTimeout : Option GoDuration := none
  workflowTaskTimeout : Option GoDuration := none
  workflowIDReusePolicy : String := ""
  retryPolicy : Option RetryPolicySpec := none
  memo : GoMap RawExtension := .empty
  searchAttributes : GoMap RawExtension := .empty
  deriving DecidableEq, Repr

structure ScheduleActionSpec where
  startWorkflow : StartWorkflowAction
  deriving DecidableEq, Repr

structure SchedulePoliciesSpec where
  overlapPolicy : String := ""
  catchupWindow : Option GoDuration := none
  pauseOnFailure : Bool := false
  keepOriginalWorkflowID : Bool := false
  deriving DecidableEq, Repr

structure ScheduleStateSpec where
  paused : Bool := false
  notes : String := ""
  limitedActions : Bool := false
  remainingActions : Int := 0
  deriving DecidableEq, Repr

structure TemporalScheduleSpec where
  clusterRef : ClusterReference
  /-- The Temporal namespace. -/
  namespace_ : String
  scheduleID : String := ""
  allowDeletion : Bool := false
  schedule : ScheduleSpec
  action : ScheduleActionSpec
  policies : Option SchedulePoliciesSpec := none
  state : Option ScheduleStateSpec := none
  deriving DecidableEq, Repr

inductive ScheduleConditionType
  | ready
  deriving DecidableEq, Repr

structure TemporalScheduleStatus (H : Type) where
  observedGeneration : Nat := 0
  scheduleID : String := ""
  created : Bool := false
  paused : Bool := false
  notes : String := ""
  lastAppliedSpecHash : Option H := none
  nextActionTimes : List GoTime := []
  runningWorkflows : Int := 0
  lastUpdated : Option GoTime := none
  conditions : List (Condition ScheduleConditionType) := []
  deriving DecidableEq, Repr

def TemporalScheduleStatus.ready {H : Type} (st : TemporalScheduleStatus H) : Bool :=
  isStatusConditionTrue .ready st.conditions

abbrev TemporalSchedule (H : Type) := Object TemporalScheduleSpec (TemporalScheduleStatus H)

end TemporalOperator
