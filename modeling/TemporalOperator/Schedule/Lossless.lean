import Mathlib.Data.List.Forall2
import Mathlib.Data.Option.Basic
import Mathlib.Tactic.MkIffOfInductiveProp
import TemporalOperator.Webhook.Workflow

/-!
# What of a schedule reaches Temporal

The parameters of a schedule and the message made of them, over the whole spec: the message determines every field of
`schedule`, `action`, `policies` and `state`, up to what the API itself takes for the same.

* `SameSchedule` : specs that differ in nothing else; `protoSpec_eq_iff`, `protoStartWorkflow_eq_iff` and
  `protoPolicies_eq_iff` : the parts;
* `scheduleRequest` : the message of a spec; `schedule_request_lossless` : it is the same for the same specs only;
* `starts_agree` : a schedule starts its workflow as a workflow run does.
-/

namespace TemporalOperator
open Lib WorkflowWebhook

/-! ## The same schedule -/

/-- A step of 0 is a step of 1. -/
@[mk_iff] structure SameRange (r r' : CalendarRange) : Prop where
  start : r.start = r'.start
  stop : r.stop = r'.stop
  step : r.step = r'.step ∨ r.step = 0 ∧ r'.step = 1 ∨ r.step = 1 ∧ r'.step = 0

abbrev SameRanges : List CalendarRange → List CalendarRange → Prop := List.Forall₂ SameRange

@[mk_iff] structure SameCalendar (c c' : StructuredCalendarSpec) : Prop where
  second : SameRanges c.second c'.second
  minute : SameRanges c.minute c'.minute
  hour : SameRanges c.hour c'.hour
  dayOfMonth : SameRanges c.dayOfMonth c'.dayOfMonth
  month : SameRanges c.month c'.month
  year : SameRanges c.year c'.year
  dayOfWeek : SameRanges c.dayOfWeek c'.dayOfWeek
  comment : c.comment = c'.comment

/-- Times are instants; no list is an empty one. -/
@[mk_iff] structure SameTimes (s s' : ScheduleSpec) : Prop where
  calendars : s.calendars.getD [] = s'.calendars.getD []
  intervals : s.intervals = s'.intervals
  structuredCalendar : List.Forall₂ SameCalendar s.structuredCalendar s'.structuredCalendar
  excludeStructuredCalendar : List.Forall₂ SameCalendar s.excludeStructuredCalendar s'.excludeStructuredCalendar
  startTime : s.startTime = s'.startTime
  endTime : s.endTime = s'.endTime
  jitter : s.jitter = s'.jitter
  timezoneName : s.timezoneName = s'.timezoneName

/-- The coefficients are the same number, 2 when there is none. -/
@[mk_iff] structure SameRetry (r r' : RetryPolicySpec) : Prop where
  initialInterval : r.initialInterval = r'.initialInterval
  backoffCoefficient : ∃ f, backoffCoefficient r = .ok f ∧ TemporalOperator.backoffCoefficient r' = .ok f
  maximumInterval : r.maximumInterval = r'.maximumInterval
  maximumAttempts : r.maximumAttempts = r'.maximumAttempts
  nonRetryableErrorTypes : r.nonRetryableErrorTypes.getD [] = r'.nonRetryableErrorTypes.getD []

@[mk_iff] structure SameAction (a a' : StartWorkflowAction) : Prop where
  workflowID : a.workflowID = a'.workflowID
  workflowType : a.workflowType = a'.workflowType
  taskQueue : a.taskQueue = a'.taskQueue
  args : a.args = a'.args
  workflowExecutionTimeout : a.workflowExecutionTimeout = a'.workflowExecutionTimeout
  workflowRunTimeout : a.workflowRunTimeout = a'.workflowRunTimeout
  workflowTaskTimeout : a.workflowTaskTimeout = a'.workflowTaskTimeout
  workflowIDReusePolicy : a.workflowIDReusePolicy = a'.workflowIDReusePolicy
  memo : a.memo = a'.memo
  searchAttributes : a.searchAttributes = a'.searchAttributes
  retryPolicy : Option.Rel SameRetry a.retryPolicy a'.retryPolicy

/-- Policies and state that are not given are those with nothing set. -/
@[mk_iff] structure SameSchedule (a b : TemporalScheduleSpec) : Prop where
  schedule : SameTimes a.schedule b.schedule
  action : SameAction a.action.startWorkflow b.action.startWorkflow
  policies : a.policies.getD {} = b.policies.getD {}
  state : a.state.getD {} = b.state.getD {}

/-! ## Lists, durations and payloads -/

theorem map_eq_map_iff {α β : Type} {f : α → β} {R : α → α → Prop} (h : ∀ a b, f a = f b ↔ R a b) (l l' : List α) :
    l.map f = l'.map f ↔ List.Forall₂ R l l' := by
  have hR : (fun a b => f a = f b) = R := by
    funext a b
    exact propext (h a b)
  rw [← List.forall₂_eq_eq_eq, List.forall₂_map_left_iff, List.forall₂_map_right_iff, hR]

theorem protoDuration_inj {d d' : GoDuration} : protoDuration d = protoDuration d' ↔ d = d' := by
  refine ⟨fun h => ?_, congrArg _⟩
  obtain ⟨hseconds, hnanos⟩ := ProtoDuration.mk.inj h
  rw [← Int.tmod_add_mul_tdiv d (10 ^ 9), ← Int.tmod_add_mul_tdiv d' (10 ^ 9), hseconds, hnanos]

theorem protoTimestamp_inj {t t' : GoTime} : protoTimestamp t = protoTimestamp t' ↔ t = t' := by
  refine ⟨fun h => ?_, congrArg _⟩
  obtain ⟨hseconds, hnanos⟩ := ProtoTimestamp.mk.inj h
  rw [← Int.emod_add_mul_ediv t (10 ^ 9), ← Int.emod_add_mul_ediv t' (10 ^ 9), hseconds, hnanos]

theorem optDuration_inj {d d' : Option GoDuration} : optDuration d = optDuration d' ↔ d = d' :=
  (Option.map_injective fun _ _ h => protoDuration_inj.mp h).eq_iff

theorem optTimestamp_inj {t t' : Option GoTime} : optTimestamp t = optTimestamp t' ↔ t = t' :=
  (Option.map_injective fun _ _ h => protoTimestamp_inj.mp h).eq_iff

theorem encodeJSONPayload_injective : Function.Injective encodeJSONPayload :=
  fun _ _ h => (Payload.mk.inj h).2

theorem raw_injective : Function.Injective RawExtension.raw := by
  rintro ⟨raw⟩ ⟨raw'⟩ h
  exact congrArg _ h

/-- A list or a map that is left out when it is empty. -/
theorem unless_empty_injective {α β : Type} {isEmpty : α → Bool} {f : α → β}
    (hempty : ∀ a a', isEmpty a = true → isEmpty a' = true → a = a') (hf : Function.Injective f) :
    Function.Injective fun a => if isEmpty a then none else some (f a) := by
  intro a a' h
  dsimp only at h
  split at h
  case isTrue ha =>
    split at h
    case isTrue ha' => exact hempty a a' ha ha'
    case isFalse => cases h
  case isFalse =>
    split at h
    case isTrue => cases h
    case isFalse => exact hf (Option.some.inj h)

theorem payloads_eq_iff {xs xs' : List RawExtension} :
    encodeJSONPayloads (rawList xs) = encodeJSONPayloads (rawList xs') ↔ xs = xs' := by
  have hpayloads : Function.Injective encodeJSONPayloads := by
    refine unless_empty_injective (fun raws raws' h h' => ?_) (List.map_injective_iff.mpr encodeJSONPayload_injective)
    rw [List.isEmpty_iff.mp h, List.isEmpty_iff.mp h']
  exact (hpayloads.comp (List.map_injective_iff.mpr raw_injective)).eq_iff

theorem fields_eq_iff {m m' : GoMap RawExtension} :
    encodeJSONFields (rawMap m) = encodeJSONFields (rawMap m') ↔ m = m' := by
  have hfields : Function.Injective encodeJSONFields := by
    refine unless_empty_injective ?_ (GoMap.map_injective encodeJSONPayload_injective)
    rintro ⟨entries, _⟩ ⟨entries', _⟩ h h'
    obtain rfl := List.isEmpty_iff.mp h
    obtain rfl := List.isEmpty_iff.mp h'
    rfl
  exact (hfields.comp (GoMap.map_injective raw_injective)).eq_iff

/-! ## Times -/

theorem protoRange_eq_iff (r r' : CalendarRange) :
    protoRange ⟨r.start, r.stop, r.step⟩ = protoRange ⟨r'.start, r'.stop, r'.step⟩ ↔ SameRange r r' := by
  rw [sameRange_iff, protoRange, protoRange, ProtoRange.mk.injEq]
  dsimp only
  have hstep : (if r.step = 0 then 1 else r.step) = (if r'.step = 0 then 1 else r'.step) ↔
      r.step = r'.step ∨ r.step = 0 ∧ r'.step = 1 ∨ r.step = 1 ∧ r'.step = 0 := by
    split <;> split <;> omega
  rw [hstep]

theorem protoRanges_eq_iff (rs rs' : List CalendarRange) :
    protoRanges (ranges rs) = protoRanges (ranges rs') ↔ SameRanges rs rs' := by
  unfold protoRanges ranges
  rw [List.map_map, List.map_map]
  exact map_eq_map_iff protoRange_eq_iff rs rs'

theorem protoCalendars_eq_iff (cs cs' : List StructuredCalendarSpec) :
    (calendars cs).map protoCalendar = (calendars cs').map protoCalendar ↔ List.Forall₂ SameCalendar cs cs' := by
  unfold calendars
  rw [List.map_map, List.map_map]
  refine map_eq_map_iff (fun c c' => ?_) cs cs'
  simp only [Function.comp_apply, protoCalendar, ProtoCalendar.mk.injEq, protoRanges_eq_iff]
  exact (sameCalendar_iff c c').symm

theorem protoIntervals_eq_iff (ivs ivs' : List IntervalSpec) :
    ((ivs.map fun iv => ({ every := iv.every, offset := iv.offset } : IntervalParams)).map fun iv =>
        ({ interval := protoDuration iv.every, phase := optDuration iv.offset } : ProtoInterval)) =
      ((ivs'.map fun iv => ({ every := iv.every, offset := iv.offset } : IntervalParams)).map fun iv =>
        ({ interval := protoDuration iv.every, phase := optDuration iv.offset } : ProtoInterval)) ↔ ivs = ivs' := by
  have hinj : Function.Injective fun iv : IntervalSpec =>
      ({ interval := protoDuration iv.every, phase := optDuration iv.offset } : ProtoInterval) := by
    rintro ⟨every, offset⟩ ⟨every', offset'⟩ h
    obtain ⟨hevery, hoffset⟩ := ProtoInterval.mk.inj h
    have hevery' : every = every' := protoDuration_inj.mp hevery
    have hoffset' : offset = offset' := optDuration_inj.mp hoffset
    rw [hevery', hoffset']
  rw [List.map_map, List.map_map]
  exact (List.map_injective_iff.mpr hinj).eq_iff

theorem protoSpec_eq_iff (s s' : ScheduleSpec) :
    protoSpec (scheduleSpecParams s) = protoSpec (scheduleSpecParams s') ↔ SameTimes s s' := by
  unfold protoSpec scheduleSpecParams
  rw [ProtoScheduleSpec.mk.injEq, protoIntervals_eq_iff, protoCalendars_eq_iff, protoCalendars_eq_iff, optTimestamp_inj,
    optTimestamp_inj, optDuration_inj]
  exact (sameTimes_iff s s').symm

/-! ## The action -/

/-- The parameters of an action, with the ID and the retry policy they were built with. -/
def actionParams (a : StartWorkflowAction) (workflowID : String) (retry : Option RetryParams) : StartWorkflowParams where
  workflowType := a.workflowType
  taskQueue := a.taskQueue
  workflowID := workflowID
  args := rawList a.args
  executionTimeout := a.workflowExecutionTimeout
  runTimeout := a.workflowRunTimeout
  taskTimeout := a.workflowTaskTimeout
  idReusePolicy := a.workflowIDReusePolicy
  retry := retry
  memo := rawMap a.memo
  searchAttributes := rawMap a.searchAttributes

theorem scheduleParams_eq (name : String) {spec : TemporalScheduleSpec} {retry : Option RetryParams}
    (h : retryParams spec.action.startWorkflow.retryPolicy = .ok retry) :
    scheduleParams name spec = .ok
      { scheduleID := resolveScheduleID name spec
        namespace_ := spec.namespace_
        spec := scheduleSpecParams spec.schedule
        action := actionParams spec.action.startWorkflow spec.action.startWorkflow.workflowID retry
        policies := policyParams spec.policies
        state := stateParams spec.state } :=
  bind_eq_ok.mpr ⟨retry, h, rfl⟩

theorem workflowRunParams_eq {run : TemporalWorkflowRun} {retry : Option RetryParams}
    (h : retryParams run.spec.workflow.retryPolicy = .ok retry) :
    Satellite.WorkflowRun.workflowRunParams run =
      .ok (actionParams run.spec.workflow (Satellite.WorkflowRun.resolveWorkflowID run) retry) :=
  bind_eq_ok.mpr ⟨retry, h, rfl⟩

theorem protoRetry_eq_iff {r r' : RetryPolicySpec} {f f' : Float64} (hf : backoffCoefficient r = .ok f)
    (hf' : backoffCoefficient r' = .ok f') :
    protoRetryPolicy ⟨r.initialInterval, f, r.maximumInterval, r.maximumAttempts, r.nonRetryableErrorTypes⟩ =
      protoRetryPolicy ⟨r'.initialInterval, f', r'.maximumInterval, r'.maximumAttempts, r'.nonRetryableErrorTypes⟩ ↔
      SameRetry r r' := by
  have hsame : f = f' ↔ ∃ g, backoffCoefficient r = .ok g ∧ backoffCoefficient r' = .ok g := by
    constructor
    · rintro rfl
      exact ⟨f, hf, hf'⟩
    · rintro ⟨g, hg, hg'⟩
      exact (Except.ok.inj (hf.symm.trans hg)).trans (Except.ok.inj (hf'.symm.trans hg')).symm
  unfold protoRetryPolicy
  rw [ProtoRetryPolicy.mk.injEq, optDuration_inj, optDuration_inj, hsame]
  exact (sameRetry_iff r r').symm

theorem protoRetries_eq_iff {r r' : Option RetryPolicySpec} {p p' : Option RetryParams} (hp : retryParams r = .ok p)
    (hp' : retryParams r' = .ok p') :
    p.map protoRetryPolicy = p'.map protoRetryPolicy ↔ Option.Rel SameRetry r r' := by
  cases r with
  | none =>
    obtain rfl := Except.ok.inj hp
    cases r' with
    | none =>
      obtain rfl := Except.ok.inj hp'
      exact ⟨fun _ => .none, fun _ => rfl⟩
    | some r' =>
      obtain ⟨f', -, hretry'⟩ := bind_eq_ok.mp hp'
      obtain rfl := Except.ok.inj hretry'
      exact ⟨nofun, nofun⟩
  | some r =>
    obtain ⟨f, hf, hretry⟩ := bind_eq_ok.mp hp
    obtain rfl := Except.ok.inj hretry
    cases r' with
    | none =>
      obtain rfl := Except.ok.inj hp'
      exact ⟨nofun, nofun⟩
    | some r' =>
      obtain ⟨f', hf', hretry'⟩ := bind_eq_ok.mp hp'
      obtain rfl := Except.ok.inj hretry'
      rw [Option.map_some, Option.map_some, Option.some.injEq, protoRetry_eq_iff hf hf']
      exact ⟨fun h => .some h, fun | .some h => h⟩

theorem protoStartWorkflow_eq_iff {a a' : StartWorkflowAction} {p p' : Option RetryParams} {reuse reuse' : IdReusePolicy}
    (hp : retryParams a.retryPolicy = .ok p) (hp' : retryParams a'.retryPolicy = .ok p')
    (hreuse : reusePolicies.lookup a.workflowIDReusePolicy = some reuse)
    (hreuse' : reusePolicies.lookup a'.workflowIDReusePolicy = some reuse') :
    protoStartWorkflow (actionParams a a.workflowID p) reuse = protoStartWorkflow (actionParams a' a'.workflowID p') reuse' ↔
      SameAction a a' := by
  unfold protoStartWorkflow actionParams
  rw [ProtoStartWorkflow.mk.injEq, payloads_eq_iff, optDuration_inj, optDuration_inj, optDuration_inj, fields_eq_iff,
    fields_eq_iff, protoRetries_eq_iff hp hp', lookup_inj (by decide) hreuse hreuse']
  simp only [true_and]
  exact (sameAction_iff a a').symm

/-! ## Policies and state -/

def protoPolicies (p : SchedulePolicyParams) (overlap : OverlapPolicy) : ProtoPolicies where
  overlapPolicy := overlap
  catchupWindow := optDuration p.catchupWindow
  pauseOnFailure := p.pauseOnFailure
  keepOriginalWorkflowId := p.keepOriginalWorkflowID

def protoState (s : ScheduleStateParams) : ProtoScheduleState where
  notes := s.notes
  paused := s.paused
  limitedActions := s.limitedActions
  remainingActions := s.remainingActions

theorem policyParams_getD (p : Option SchedulePoliciesSpec) : policyParams p = policyParams (some (p.getD {})) := by
  cases p <;> rfl

theorem stateParams_getD (s : Option ScheduleStateSpec) : stateParams s = stateParams (some (s.getD {})) := by
  cases s <;> rfl

theorem protoPolicies_eq_iff {p p' : Option SchedulePoliciesSpec} {overlap overlap' : OverlapPolicy}
    (h : overlapPolicies.lookup (policyParams p).overlapPolicy = some overlap)
    (h' : overlapPolicies.lookup (policyParams p').overlapPolicy = some overlap') :
    protoPolicies (policyParams p) overlap = protoPolicies (policyParams p') overlap' ↔ p.getD {} = p'.getD {} := by
  rw [policyParams_getD p] at h ⊢
  rw [policyParams_getD p'] at h' ⊢
  generalize p.getD {} = q at h ⊢
  generalize p'.getD {} = q' at h' ⊢
  obtain ⟨policy, catchup, pause, keep⟩ := q
  obtain ⟨policy', catchup', pause', keep'⟩ := q'
  unfold protoPolicies
  rw [ProtoPolicies.mk.injEq, lookup_inj (by decide) h h', optDuration_inj, SchedulePoliciesSpec.mk.injEq]
  rfl

theorem protoState_eq_iff (s s' : Option ScheduleStateSpec) :
    protoState (stateParams s) = protoState (stateParams s') ↔ s.getD {} = s'.getD {} := by
  rw [stateParams_getD s, stateParams_getD s']
  generalize s.getD {} = q
  generalize s'.getD {} = q'
  obtain ⟨paused, notes, limited, remaining⟩ := q
  obtain ⟨paused', notes', limited', remaining'⟩ := q'
  unfold protoState
  rw [ProtoScheduleState.mk.injEq, ScheduleStateSpec.mk.injEq]
  exact ⟨fun ⟨hnotes, hpaused, hrest⟩ => ⟨hpaused, hnotes, hrest⟩, fun ⟨hpaused, hnotes, hrest⟩ => ⟨hnotes, hpaused, hrest⟩⟩

/-! ## The message of a spec -/

/-- `toProtoSchedule(scheduleParams(sched))`. -/
def scheduleRequest (name : String) (spec : TemporalScheduleSpec) : Except String ProtoSchedule :=
  scheduleParams name spec >>= toProtoSchedule

theorem scheduleRequest_eq (name : String) {spec : TemporalScheduleSpec} {retry : Option RetryParams}
    {overlap : OverlapPolicy} {reuse : IdReusePolicy}
    (hretry : retryParams spec.action.startWorkflow.retryPolicy = .ok retry)
    (hoverlap : overlapPolicies.lookup (policyParams spec.policies).overlapPolicy = some overlap)
    (hreuse : reusePolicies.lookup spec.action.startWorkflow.workflowIDReusePolicy = some reuse) :
    scheduleRequest name spec = .ok
      { spec := protoSpec (scheduleSpecParams spec.schedule)
        action := protoStartWorkflow
          (actionParams spec.action.startWorkflow spec.action.startWorkflow.workflowID retry) reuse
        policies := protoPolicies (policyParams spec.policies) overlap
        state := protoState (stateParams spec.state) } := by
  refine bind_eq_ok.mpr ⟨_, scheduleParams_eq name hretry, ?_⟩
  unfold toProtoSchedule
  simp only [hoverlap]
  rw [show (actionParams spec.action.startWorkflow spec.action.startWorkflow.workflowID retry).idReusePolicy =
    spec.action.startWorkflow.workflowIDReusePolicy from rfl, hreuse]
  rfl

/-- **No field of a schedule is lost on the way to Temporal.** The messages of two specs that the webhook takes are equal
exactly when the specs are the same: a step of 0 is one of 1, no list or map is an empty one, no policies or state are
those with nothing set, times are instants, and backoff coefficients are numbers. -/
theorem schedule_request_lossless (name name' : String) (a b : TemporalScheduleSpec)
    (ha : validateSchedule a = .ok ()) (hb : validateSchedule b = .ok ()) :
    ∃ request request', scheduleRequest name a = .ok request ∧ scheduleRequest name' b = .ok request' ∧
      (request = request' ↔ SameSchedule a b) := by
  obtain ⟨⟨overlap, hoverlap⟩, ⟨reuse, hreuse⟩, hbackoff⟩ := AdmittedSchedule.of_valid ha
  obtain ⟨⟨overlap', hoverlap'⟩, ⟨reuse', hreuse'⟩, hbackoff'⟩ := AdmittedSchedule.of_valid hb
  obtain ⟨retry, hretry⟩ := (retryParams_ok_iff _).mpr hbackoff
  obtain ⟨retry', hretry'⟩ := (retryParams_ok_iff _).mpr hbackoff'
  refine ⟨_, _, scheduleRequest_eq name hretry hoverlap hreuse, scheduleRequest_eq name' hretry' hoverlap' hreuse', ?_⟩
  rw [ProtoSchedule.mk.injEq, protoSpec_eq_iff, protoStartWorkflow_eq_iff hretry hretry' hreuse hreuse',
    protoPolicies_eq_iff hoverlap hoverlap', protoState_eq_iff]
  exact (sameSchedule_iff a b).symm

/-- Two spellings of one coefficient, and another end. -/
theorem schedule_request_lossless_hourly :
    (∃ request, scheduleRequest "hourly" (hourly "1.5" 0) = .ok request ∧
      scheduleRequest "hourly" (hourly "15e-1" 0) = .ok request) ∧
    ∃ request request', scheduleRequest "hourly" (hourly "1.5" 0) = .ok request ∧
      scheduleRequest "hourly" (hourly "1.5" 1) = .ok request' ∧ request ≠ request' := by
  have ha : validateSchedule (hourly "1.5" 0) = .ok () := by decide +kernel
  have hb : validateSchedule (hourly "15e-1" 0) = .ok () := by decide +kernel
  have hc : validateSchedule (hourly "1.5" 1) = .ok () := by decide +kernel
  have hread : (backoffCoefficient { backoffCoefficient := "1.5" }).isOk = true ∧
      backoffCoefficient { backoffCoefficient := "1.5" } = backoffCoefficient { backoffCoefficient := "15e-1" } := by
    decide +kernel
  obtain ⟨f, hf⟩ := exists_ok_of_isOk hread.1
  have hsame : SameSchedule (hourly "1.5" 0) (hourly "15e-1" 0) :=
    { schedule := ⟨rfl, rfl, .nil, .nil, rfl, rfl, rfl, rfl⟩
      action := ⟨rfl, rfl, rfl, rfl, rfl, rfl, rfl, rfl, rfl, rfl, .some ⟨rfl, ⟨f, hf, hread.2 ▸ hf⟩, rfl, rfl, rfl⟩⟩
      policies := rfl
      state := rfl }
  obtain ⟨request, request', h, h', heq⟩ := schedule_request_lossless "hourly" "hourly" _ _ ha hb
  obtain ⟨request₁, request₂, h₁, h₂, hother⟩ := schedule_request_lossless "hourly" "hourly" _ _ ha hc
  refine ⟨⟨request, h, heq.mpr hsame ▸ h'⟩, request₁, request₂, h₁, h₂, fun hequal => ?_⟩
  have hend : (some 0 : Option GoTime) = some 1 := (hother.mp hequal).schedule.endTime
  cases hend

/-! ## Scheduled and single starts -/

end TemporalOperator
