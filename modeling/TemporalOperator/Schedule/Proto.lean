import TemporalOperator.Schedule.Params

/-!
# The schedule sent to Temporal

`toProtoSchedule` of `internal/temporal/schedule.go`, with the message types of the Temporal API as far as it fills them
in. A nil list or map of a message is an empty one.
-/

namespace TemporalOperator
open Lib

/-! ## Messages -/

/-- `durationpb.Duration`. -/
structure ProtoDuration where
  seconds : Int
  nanos : Int
  deriving DecidableEq, Repr

/-- `timestamppb.Timestamp`. -/
structure ProtoTimestamp where
  seconds : Int
  nanos : Int
  deriving DecidableEq, Repr

inductive OverlapPolicy
  | unspecified
  | skip
  | bufferOne
  | bufferAll
  | cancelOther
  | terminateOther
  | allowAll
  deriving DecidableEq, Repr

inductive IdReusePolicy
  | unspecified
  | allowDuplicate
  | allowDuplicateFailedOnly
  | rejectDuplicate
  | terminateIfRunning
  deriving DecidableEq, Repr

structure Payload where
  metadata : GoMap (List UInt8)
  data : List UInt8
  deriving DecidableEq, Repr

structure ProtoRange where
  start : Int
  stop : Int
  step : Int
  deriving DecidableEq, Repr

structure ProtoCalendar where
  second : List ProtoRange
  minute : List ProtoRange
  hour : List ProtoRange
  dayOfMonth : List ProtoRange
  month : List ProtoRange
  year : List ProtoRange
  dayOfWeek : List ProtoRange
  comment : String
  deriving DecidableEq, Repr

structure ProtoInterval where
  interval : ProtoDuration
  phase : Option ProtoDuration
  deriving DecidableEq, Repr

structure ProtoScheduleSpec where
  cronString : List String
  interval : List ProtoInterval
  structuredCalendar : List ProtoCalendar
  excludeStructuredCalendar : List ProtoCalendar
  startTime : Option ProtoTimestamp
  endTime : Option ProtoTimestamp
  jitter : Option ProtoDuration
  timezoneName : String
  deriving DecidableEq, Repr

structure ProtoRetryPolicy where
  initialInterval : Option ProtoDuration
  backoffCoefficient : Float64
  maximumInterval : Option ProtoDuration
  maximumAttempts : Int
  nonRetryableErrorTypes : List String
  deriving DecidableEq, Repr

inductive TaskQueueKind
  | normal
  deriving DecidableEq, Repr

/-- `NewWorkflowExecutionInfo`. -/
structure ProtoStartWorkflow where
  workflowId : String
  workflowType : String
  taskQueue : String
  taskQueueKind : TaskQueueKind
  input : Option (List Payload)
  workflowExecutionTimeout : Option ProtoDuration
  workflowRunTimeout : Option ProtoDuration
  workflowTaskTimeout : Option ProtoDuration
  workflowIdReusePolicy : IdReusePolicy
  memo : Option (GoMap Payload)
  searchAttributes : Option (GoMap Payload)
  retryPolicy : Option ProtoRetryPolicy
  deriving DecidableEq, Repr

structure ProtoPolicies where
  overlapPolicy : OverlapPolicy
  catchupWindow : Option ProtoDuration
  pauseOnFailure : Bool
  keepOriginalWorkflowId : Bool
  deriving DecidableEq, Repr

structure ProtoScheduleState where
  notes : String
  paused : Bool
  limitedActions : Bool
  remainingActions : Int
  deriving DecidableEq, Repr

/-- `schedulepb.Schedule`; its action is always `StartWorkflow`. -/
structure ProtoSchedule where
  spec : ProtoScheduleSpec
  action : ProtoStartWorkflow
  policies : ProtoPolicies
  state : ProtoScheduleState
  deriving DecidableEq, Repr

/-! ## Building it -/

def overlapPolicies : List (String × OverlapPolicy) :=
  [("", .unspecified), ("Skip", .skip), ("BufferOne", .bufferOne), ("BufferAll", .bufferAll),
    ("CancelOther", .cancelOther), ("TerminateOther", .terminateOther), ("AllowAll", .allowAll)]

def reusePolicies : List (String × IdReusePolicy) :=
  [("", .unspecified), ("AllowDuplicate", .allowDuplicate),
    ("AllowDuplicateFailedOnly", .allowDuplicateFailedOnly), ("RejectDuplicate", .rejectDuplicate),
    ("TerminateIfRunning", .terminateIfRunning)]

/-- `durationpb.New`. -/
def protoDuration (d : GoDuration) : ProtoDuration where
  seconds := d.tdiv (10 ^ 9)
  nanos := d.tmod (10 ^ 9)

/-- `timestamppb.New`. -/
def protoTimestamp (t : GoTime) : ProtoTimestamp where
  seconds := t / 10 ^ 9
  nanos := t % 10 ^ 9

def optDuration (d : Option GoDuration) : Option ProtoDuration := d.map protoDuration

def optTimestamp (t : Option GoTime) : Option ProtoTimestamp := t.map protoTimestamp

def jsonPlainEncoding : String := "json/plain"

def encodeJSONPayload (raw : List UInt8) : Payload where
  metadata := .single "encoding" jsonPlainEncoding.toUTF8.toList
  data := raw

def encodeJSONPayloads (raws : List (List UInt8)) : Option (List Payload) :=
  if raws.isEmpty then none else some (raws.map encodeJSONPayload)

def encodeJSONFields (raws : GoMap (List UInt8)) : Option (GoMap Payload) :=
  if raws.isEmpty then none else some (raws.map encodeJSONPayload)

def protoRange (r : RangeParams) : ProtoRange where
  start := r.start
  stop := r.stop
  step := if r.step = 0 then 1 else r.step

def protoRanges (rs : List RangeParams) : List ProtoRange := rs.map protoRange

def protoCalendar (c : StructuredCalendarParams) : ProtoCalendar where
  second := protoRanges c.second
  minute := protoRanges c.minute
  hour := protoRanges c.hour
  dayOfMonth := protoRanges c.dayOfMonth
  month := protoRanges c.month
  year := protoRanges c.year
  dayOfWeek := protoRanges c.dayOfWeek
  comment := c.comment

def protoSpec (s : ScheduleSpecParams) : ProtoScheduleSpec where
  cronString := s.cronStrings.getD []
  interval := s.intervals.map fun iv => { interval := protoDuration iv.every, phase := optDuration iv.offset }
  structuredCalendar := s.calendars.map protoCalendar
  excludeStructuredCalendar := s.excludeCalendars.map protoCalendar
  startTime := optTimestamp s.startTime
  endTime := optTimestamp s.endTime
  jitter := optDuration s.jitter
  timezoneName := s.timezoneName

def protoRetryPolicy (r : RetryParams) : ProtoRetryPolicy where
  initialInterval := optDuration r.initialInterval
  backoffCoefficient := r.backoffCoefficient
  maximumInterval := optDuration r.maximumInterval
  maximumAttempts := r.maximumAttempts
  nonRetryableErrorTypes := r.nonRetryableErrorTypes.getD []

def protoStartWorkflow (a : StartWorkflowParams) (reuse : IdReusePolicy) : ProtoStartWorkflow where
  workflowId := a.workflowID
  workflowType := a.workflowType
  taskQueue := a.taskQueue
  taskQueueKind := .normal
  input := encodeJSONPayloads a.args
  workflowExecutionTimeout := optDuration a.executionTimeout
  workflowRunTimeout := optDuration a.runTimeout
  workflowTaskTimeout := optDuration a.taskTimeout
  workflowIdReusePolicy := reuse
  memo := encodeJSONFields a.memo
  searchAttributes := encodeJSONFields a.searchAttributes
  retryPolicy := a.retry.map protoRetryPolicy

def toProtoSchedule (p : ScheduleParams) : Except String ProtoSchedule :=
  match overlapPolicies.lookup p.policies.overlapPolicy with
  | none => .error ("unknown overlap policy " ++ GoText.quote p.policies.overlapPolicy)
  | some overlap =>
    match reusePolicies.lookup p.action.idReusePolicy with
    | none => .error ("unknown workflow id reuse policy " ++ GoText.quote p.action.idReusePolicy)
    | some reuse =>
      .ok
        { spec := protoSpec p.spec
          action := protoStartWorkflow p.action reuse
          policies :=
            { overlapPolicy := overlap
              catchupWindow := optDuration p.policies.catchupWindow
              pauseOnFailure := p.policies.pauseOnFailure
              keepOriginalWorkflowId := p.policies.keepOriginalWorkflowID }
          state :=
            { notes := p.state.notes
              paused := p.state.paused
              limitedActions := p.state.limitedActions
              remainingActions := p.state.remainingActions } }

theorem toProtoSchedule_paused {p : ScheduleParams} {s : ProtoSchedule} (h : toProtoSchedule p = .ok s) :
    s.state.paused = p.state.paused := by
  unfold toProtoSchedule at h
  split at h
  · cases h
  · split at h
    · cases h
    · obtain rfl := Except.ok.inj h
      rfl

end TemporalOperator
