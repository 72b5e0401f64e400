import TemporalOperator.Api.Schedule
import TemporalOperator.Lib.Float64

/-!
# Schedule parameters

`scheduleParams` and `computeSpecHash` of `internal/controller/temporalschedule_controller.go`: the operator's own
description of a schedule, read off the object's spec, and the hash by which a later pass recognises it. The hash is a
function on the parameters that can be written as JSON.
-/

namespace TemporalOperator
open Lib

structure RangeParams where
  start : Int
  stop : Int
  step : Int
  deriving DecidableEq, Repr

structure StructuredCalendarParams where
  second : List RangeParams := []
  minute : List RangeParams := []
  hour : List RangeParams := []
  dayOfMonth : List RangeParams := []
  month : List RangeParams := []
  year : List RangeParams := []
  dayOfWeek : List RangeParams := []
  comment : String := ""
  deriving DecidableEq, Repr

structure IntervalParams where
  every : GoDuration
  offset : Option GoDuration
  deriving DecidableEq, Repr

structure ScheduleSpecParams where
  cronStrings : Option (List String)
  intervals : List IntervalParams
  calendars : List StructuredCalendarParams
  excludeCalendars : List StructuredCalendarParams
  startTime : Option GoTime
  endTime : Option GoTime
  jitter : Option GoDuration
  timezoneName : String
  deriving DecidableEq, Repr

structure RetryParams where
  initialInterval : Option GoDuration
  backoffCoefficient : Float64
  maximumInterval : Option GoDuration
  maximumAttempts : Int
  nonRetryableErrorTypes : Option (List String)
  deriving DecidableEq, Repr

structure StartWorkflowParams where
  workflowType : String
  taskQueue : String
  workflowID : String
  args : List (List UInt8)
  executionTimeout : Option GoDuration
  runTimeout : Option GoDuration
  taskTimeout : Option GoDuration
  idReusePolicy : String
  retry : Option RetryParams
  memo : GoMap (List UInt8)
  searchAttributes : GoMap (List UInt8)
  deriving DecidableEq, Repr

structure SchedulePolicyParams where
  overlapPolicy : String := ""
  catchupWindow : Option GoDuration := none
  pauseOnFailure : Bool := false
  keepOriginalWorkflowID : Bool := false
  deriving DecidableEq, Repr

structure ScheduleStateParams where
  paused : Bool := false
  notes : String := ""
  limitedActions : Bool := false
  remainingActions : Int := 0
  deriving DecidableEq, Repr

structure ScheduleParams where
  scheduleID : String
  namespace_ : String
  spec : ScheduleSpecParams
  action : StartWorkflowParams
  policies : SchedulePolicyParams
  state : ScheduleStateParams
  deriving DecidableEq, Repr

/-! ## From the spec -/

def resolveScheduleID (name : String) (spec : TemporalScheduleSpec) : String :=
  if spec.scheduleID ≠ "" then spec.scheduleID else name

def ranges (rs : List CalendarRange) : List RangeParams :=
  rs.map fun r => { start := r.start, stop := r.stop, step := r.step }

def calendars (cs : List StructuredCalendarSpec) : List StructuredCalendarParams :=
  cs.map fun c =>
    { second := ranges c.second
      minute := ranges c.minute
      hour := ranges c.hour
      dayOfMonth := ranges c.dayOfMonth
      month := ranges c.month
      year := ranges c.year
      dayOfWeek := ranges c.dayOfWeek
      comment := c.comment }

def rawList (xs : List RawExtension) : List (List UInt8) := xs.map RawExtension.raw

def rawMap (m : GoMap RawExtension) : GoMap (List UInt8) := m.map RawExtension.raw

/-- The backoff coefficient of a retry policy; 2 when it is not given. -/
def backoffCoefficient (r : RetryPolicySpec) : Except String Float64 :=
  if r.backoffCoefficient = "" then .ok Float64.two
  else
    match Float64.parseFloat r.backoffCoefficient with
    | .ok f => .ok f
    | .error e => .error ("invalid retryPolicy.backoffCoefficient: " ++ e)

def retryParams : Option RetryPolicySpec → Except String (Option RetryParams)
  | none => .ok none
  | some r => do
    let backoff ← backoffCoefficient r
    return some
      { initialInterval := r.initialInterval
        backoffCoefficient := backoff
        maximumInterval := r.maximumInterval
        maximumAttempts := r.maximumAttempts
        nonRetryableErrorTypes := r.nonRetryableErrorTypes }

def scheduleSpecParams (s : ScheduleSpec) : ScheduleSpecParams where
  cronStrings := s.calendars
  intervals := s.intervals.map fun iv => { every := iv.every, offset := iv.offset }
  calendars := calendars s.structuredCalendar
  excludeCalendars := calendars s.excludeStructuredCalendar
  startTime := s.startTime
  endTime := s.endTime
  jitter := s.jitter
  timezoneName := s.timezoneName

def policyParams : Option SchedulePoliciesSpec → SchedulePolicyParams
  | none => {}
  | some p =>
    { overlapPolicy := p.overlapPolicy
      catchupWindow := p.catchupWindow
      pauseOnFailure := p.pauseOnFailure
      keepOriginalWorkflowID := p.keepOriginalWorkflowID }

def stateParams : Option ScheduleStateSpec → ScheduleStateParams
  | none => {}
  | some s =>
    { paused := s.paused
      notes := s.notes
      limitedActions := s.limitedActions
      remainingActions := s.remainingActions }

/-- `scheduleParams`, on the object's name and spec. -/
def scheduleParams (name : String) (spec : TemporalScheduleSpec) : Except String ScheduleParams := do
  let a := spec.action.startWorkflow
  let retry ← retryParams a.retryPolicy
  return {
    scheduleID := resolveScheduleID name spec
    namespace_ := spec.namespace_
    spec := scheduleSpecParams spec.schedule
    action :=
      { workflowType := a.workflowType
        taskQueue := a.taskQueue
        workflowID := a.workflowID
        args := rawList a.args
        executionTimeout := a.workflowExecutionTimeout
        runTimeout := a.workflowRunTimeout
        taskTimeout := a.workflowTaskTimeout
        idReusePolicy := a.workflowIDReusePolicy
        retry := retry
        memo := rawMap a.memo
        searchAttributes := rawMap a.searchAttributes }
    policies := policyParams spec.policies
    state := stateParams spec.state }

/-! ## The hash -/

/-- Why `json.Marshal` fails; the text is the library's. -/
inductive MarshalErr
  /-- `Time.MarshalJSON` writes years of four digits. -/
  | year (t : GoTime)
  /-- A number is written only if it is finite. -/
  | unsupportedValue (f : Float64)
  deriving DecidableEq, Repr

def timeErr : Option GoTime → Option MarshalErr
  | none => none
  | some t => if -62167219200 ≤ t / 10 ^ 9 ∧ t / 10 ^ 9 < 253402300800 then none else some (.year t)

def floatErr : Float64 → Option MarshalErr
  | .nan => some (.unsupportedValue .nan)
  | .inf neg => some (.unsupportedValue (.inf neg))
  | .finite _ _ => none

/-- The first error of `json.Marshal`, in the order of the fields. -/
def marshalErr (p : ScheduleParams) : Option MarshalErr :=
  timeErr p.spec.startTime <|> timeErr p.spec.endTime <|>
    p.action.retry.bind fun r => floatErr r.backoffCoefficient

def computeSpecHash {H : Type} (hash : ScheduleParams → H) (p : ScheduleParams) : Except MarshalErr H :=
  match marshalErr p with
  | some e => .error e
  | none => .ok (hash p)

theorem computeSpecHash_eq_ok {H : Type} {hash : ScheduleParams → H} {p : ScheduleParams} {specHash : H}
    (h : computeSpecHash hash p = .ok specHash) : specHash = hash p := by
  unfold computeSpecHash at h
  split at h
  · cases h
  · exact (Except.ok.inj h).symm

end TemporalOperator
