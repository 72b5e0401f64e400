import TemporalOperator.Lib.Json.Scan
import TemporalOperator.Lib.Result
import TemporalOperator.Satellite.StartOnce
import TemporalOperator.Schedule.Proto

/-!
# The webhooks of schedules and workflow runs

`internal/webhook/v1alpha1/temporalschedule_webhook.go` and `temporalworkflowrun_webhook.go`: what is checked of a spec
on every write. Of several values of a map that are not JSON, the first by its key is reported. The schedule webhook
checks the backoff coefficient of a retry policy, the one of workflow runs does not.

* `validateSchedule`, `validateWorkflowRun` : the checks of a spec;
* `ScheduleExecutable`, `RunExecutable` : the controllers can turn the spec into their requests;
* `admitted_executable_iff` : an admitted spec is executable when its backoff coefficient can be read and written, and
  its times can be written; `admitted_not_executable`.
-/

namespace TemporalOperator.WorkflowWebhook
open Lib

/-! ## Schedules -/

def notEmpty (text field : String) : Except String Unit :=
  if text = "" then .error (field ++ " must not be empty") else .ok ()

def validOverlapPolicies : List String :=
  ["", "Skip", "BufferOne", "BufferAll", "CancelOther", "TerminateOther", "AllowAll"]

def validReusePolicies : List String :=
  ["", "AllowDuplicate", "AllowDuplicateFailedOnly", "RejectDuplicate", "TerminateIfRunning"]

def validPolicy (valid : List String) (policy field : String) : Except String Unit :=
  if policy ∈ valid then .ok () else .error (field ++ " " ++ GoText.quote policy ++ " is not valid")

def validateScheduleRequiredFields (spec : TemporalScheduleSpec) : Except String Unit := do
  notEmpty spec.clusterRef.name "spec.clusterRef.name"
  notEmpty spec.namespace_ "spec.namespace"
  notEmpty spec.action.startWorkflow.workflowType "spec.action.startWorkflow.workflowType"
  notEmpty spec.action.startWorkflow.taskQueue "spec.action.startWorkflow.taskQueue"

def validateScheduleTimeSource (spec : TemporalScheduleSpec) : Except String Unit :=
  let paused := spec.state.any (·.paused)
  let sp := spec.schedule
  let hasTime := sp.calendars.getD [] ≠ [] || sp.intervals ≠ [] || sp.structuredCalendar ≠ []
  if !hasTime && !paused then
    .error ("spec.schedule must specify at least one of calendars, intervals, or structuredCalendar " ++
      "(unless spec.state.paused is true)")
  else .ok ()

def validateOverlap : Option SchedulePoliciesSpec → Except String Unit
  | none => .ok ()
  | some p => validPolicy validOverlapPolicies p.overlapPolicy "spec.policies.overlapPolicy"

/-- The check of a backoff coefficient that is given. -/
def validateBackoff (r : RetryPolicySpec) : Except String Unit :=
  let bad := "spec.action.startWorkflow.retryPolicy.backoffCoefficient must be a number >= 1"
  if r.backoffCoefficient = "" then .ok ()
  else
    match Float64.parseFloat r.backoffCoefficient with
    | .error _ => .error bad
    | .ok f => if f.lt .one then .error bad else .ok ()

def validateRetry : Option RetryPolicySpec → Except String Unit
  | none => .ok ()
  | some r => validateBackoff r

def validateSchedulePolicies (spec : TemporalScheduleSpec) : Except String Unit := do
  validateOverlap spec.policies
  let a := spec.action.startWorkflow
  validPolicy validReusePolicies a.workflowIDReusePolicy "spec.action.startWorkflow.workflowIDReusePolicy"
  validateRetry a.retryPolicy

def validateJSON (place : String) (raw : RawExtension) : Except String Unit :=
  if raw.raw ≠ [] ∧ Json.valid raw.raw = false then .error (place ++ " is not valid JSON") else .ok ()

def validateJSONList (field : String) (values : List RawExtension) : Except String Unit :=
  (values.zipIdx).forM fun v => validateJSON (field ++ "[" ++ toString v.2 ++ "]") v.1

def validateJSONMap (field : String) (values : GoMap RawExtension) : Except String Unit :=
  values.entries.forM fun v => validateJSON (field ++ "[" ++ GoText.quote v.1 ++ "]") v.2

/-- The values of an action that are JSON. -/
def validateValues (field : String) (a : StartWorkflowAction) : Except String Unit := do
  validateJSONList (field ++ ".args") a.args
  validateJSONMap (field ++ ".memo") a.memo
  validateJSONMap (field ++ ".searchAttributes") a.searchAttributes

def validateSchedule (spec : TemporalScheduleSpec) : Except String Unit := do
  validateScheduleRequiredFields spec
  validateScheduleTimeSource spec
  validateSchedulePolicies spec
  validateValues "spec.action.startWorkflow" spec.action.startWorkflow

/-! ## Workflow runs -/

def validateWorkflowRun (spec : TemporalWorkflowRunSpec) : Except String Unit := do
  notEmpty spec.clusterRef.name "spec.clusterRef.name"
  notEmpty spec.namespace_ "spec.namespace"
  let w := spec.workflow
  notEmpty w.workflowType "spec.workflow.workflowType"
  notEmpty w.taskQueue "spec.workflow.taskQueue"
  validPolicy validReusePolicies w.workflowIDReusePolicy "spec.workflow.workflowIDReusePolicy"
  validateValues "spec.workflow" w

/-! ## What the controllers make of a spec -/

/-- The parameters of the schedule, their hash and the request are there. -/
def ScheduleExecutable {H : Type} (hash : ScheduleParams → H) (name : String) (spec : TemporalScheduleSpec) : Prop :=
  ∃ params, scheduleParams name spec = .ok params ∧ (∃ specHash, computeSpecHash hash params = .ok specHash) ∧
    ∃ schedule, toProtoSchedule params = .ok schedule

/-- The parameters of the workflow run are there, and `Start` gets to its call. -/
def RunExecutable (run : TemporalWorkflowRun) : Prop :=
  ∃ params, Satellite.WorkflowRun.workflowRunParams run = .ok params ∧
    ∃ request, Satellite.WorkflowRun.startRequest run.spec.namespace_ run.uid params = some request

/-- A backoff coefficient that is given is a number, as far as `strconv.ParseFloat` goes. -/
def ReadableBackoff (a : StartWorkflowAction) : Prop :=
  ∀ r ∈ a.retryPolicy, r.backoffCoefficient ≠ "" → ∃ f, Float64.parseFloat r.backoffCoefficient = .ok f

def FiniteBackoff (a : StartWorkflowAction) : Prop :=
  ∀ r ∈ a.retryPolicy, ∀ f, Float64.parseFloat r.backoffCoefficient = .ok f → f.isFinite = true

def FourDigitYear (time : Option GoTime) : Prop :=
  ∀ t ∈ time, -62167219200 ≤ t / 10 ^ 9 ∧ t / 10 ^ 9 < 253402300800

theorem timeErr_eq_none_iff (time : Option GoTime) : timeErr time = none ↔ FourDigitYear time := by
  cases time with
  | none => exact ⟨fun _ t ht => absurd ht (Option.not_mem_none t), fun _ => rfl⟩
  | some t =>
    have hone : FourDigitYear (some t) ↔ -62167219200 ≤ t / 10 ^ 9 ∧ t / 10 ^ 9 < 253402300800 :=
      ⟨fun h => h t rfl, fun h t' ht' => Option.some.inj ht' ▸ h⟩
    rw [hone]
    unfold timeErr
    dsimp only
    split
    case isTrue hin => exact ⟨fun _ => hin, fun _ => rfl⟩
    case isFalse hout => exact ⟨nofun, fun hin => absurd hin hout⟩

theorem floatErr_eq_none_iff (f : Float64) : floatErr f = none ↔ f.isFinite = true := by
  cases f with
  | nan => exact ⟨nofun, nofun⟩
  | inf neg => cases neg <;> exact ⟨nofun, nofun⟩
  | finite neg mag => exact ⟨fun _ => rfl, fun _ => rfl⟩

/-! ## Retry policies -/

theorem backoffCoefficient_of_empty {r : RetryPolicySpec} (h : r.backoffCoefficient = "") :
    backoffCoefficient r = .ok Float64.two := if_pos h

theorem backoffCoefficient_eq_ok {r : RetryPolicySpec} (h : r.backoffCoefficient ≠ "") (f : Float64) :
    backoffCoefficient r = .ok f ↔ Float64.parseFloat r.backoffCoefficient = .ok f := by
  unfold backoffCoefficient
  rw [if_neg h]
  cases Float64.parseFloat r.backoffCoefficient with
  | error e => exact ⟨nofun, nofun⟩
  | ok g => exact ⟨fun h => congrArg _ (Except.ok.inj h), fun h => congrArg _ (Except.ok.inj h)⟩

theorem retryParams_some {r : RetryPolicySpec} {f : Float64} (h : backoffCoefficient r = .ok f) :
    ∃ retry, retryParams (some r) = .ok retry := ⟨_, bind_eq_ok.mpr ⟨f, h, rfl⟩⟩

/-- The parameters are built unless the coefficient cannot be read. -/
theorem retryParams_ok_iff (a : StartWorkflowAction) :
    (∃ retry, retryParams a.retryPolicy = .ok retry) ↔ ReadableBackoff a := by
  unfold ReadableBackoff
  cases a.retryPolicy with
  | none => exact ⟨fun _ r hr => absurd hr (Option.not_mem_none r), fun _ => ⟨none, rfl⟩⟩
  | some r =>
    constructor
    · rintro ⟨retry, hretry⟩ r' hr' hgiven
      obtain rfl := Option.some.inj hr'
      obtain ⟨f, hf, -⟩ := bind_eq_ok.mp hretry
      exact ⟨f, (backoffCoefficient_eq_ok hgiven f).mp hf⟩
    · intro hreadable
      by_cases hempty : r.backoffCoefficient = ""
      · exact retryParams_some (backoffCoefficient_of_empty hempty)
      · obtain ⟨f, hf⟩ := hreadable r rfl hempty
        exact retryParams_some ((backoffCoefficient_eq_ok hempty f).mpr hf)

/-- A coefficient can be written if it can be read and is finite. -/
theorem retryParams_finite_iff {a : StartWorkflowAction} {retry : Option RetryParams}
    (h : retryParams a.retryPolicy = .ok retry) :
    (retry.bind fun r => floatErr r.backoffCoefficient) = none ↔ FiniteBackoff a := by
  unfold FiniteBackoff
  cases hr : a.retryPolicy with
  | none =>
    rw [hr] at h
    obtain rfl := Except.ok.inj h
    exact ⟨fun _ r hr => absurd hr (Option.not_mem_none r), fun _ => rfl⟩
  | some r =>
    rw [hr] at h
    obtain ⟨f, hf, hretry⟩ := bind_eq_ok.mp h
    obtain rfl := Except.ok.inj hretry
    show floatErr f = none ↔ _
    rw [floatErr_eq_none_iff]
    by_cases hempty : r.backoffCoefficient = ""
    · -- the default is finite, and the empty text is not a number
      have hempty' : Float64.parseFloat "" = .error "strconv.ParseFloat: parsing \"\": invalid syntax" := by decide +kernel
      obtain rfl := Except.ok.inj (hf.symm.trans (backoffCoefficient_of_empty hempty))
      refine ⟨fun _ r' hr' g hg => ?_, fun _ => rfl⟩
      obtain rfl := Option.some.inj hr'
      rw [hempty, hempty'] at hg
      cases hg
    · have hread := (backoffCoefficient_eq_ok hempty f).mp hf
      refine ⟨fun hfinite r' hr' g hg => ?_, fun hfinite => hfinite r rfl f hread⟩
      obtain rfl := Option.some.inj hr'
      obtain rfl := Except.ok.inj (hread.symm.trans hg)
      exact hfinite

/-! ## Admitted specs -/

/-- A policy that the webhook takes is known to the client. -/
theorem lookup_of_validPolicy {α : Type} {policies : List (String × α)} {valid : List String} {policy field : String}
    (h : validPolicy valid policy field = .ok ()) (hknown : ∀ p ∈ valid, (policies.lookup p).isSome = true) :
    ∃ v, policies.lookup policy = some v := by
  unfold validPolicy at h
  split at h
  case isTrue hmem => exact Option.isSome_iff_exists.mp (hknown policy hmem)
  case isFalse => cases h

theorem reusePolicies_valid : ∀ p ∈ validReusePolicies, (reusePolicies.lookup p).isSome = true := by decide

theorem overlapPolicies_valid : ∀ p ∈ validOverlapPolicies, (overlapPolicies.lookup p).isSome = true := by decide

structure AdmittedSchedule (spec : TemporalScheduleSpec) : Prop where
  overlap : ∃ v, overlapPolicies.lookup (policyParams spec.policies).overlapPolicy = some v
  reuse : ∃ v, reusePolicies.lookup spec.action.startWorkflow.workflowIDReusePolicy = some v
  backoff : ReadableBackoff spec.action.startWorkflow

theorem readableBackoff_of_validateRetry {a : StartWorkflowAction} (h : validateRetry a.retryPolicy = .ok ()) :
    ReadableBackoff a := by
  intro r hr hgiven
  rw [Option.mem_def.mp hr] at h
  have hbackoff : validateBackoff r = .ok () := h
  unfold validateBackoff at hbackoff
  dsimp only at hbackoff
  rw [if_neg hgiven] at hbackoff
  cases hread : Float64.parseFloat r.backoffCoefficient with
  | ok f => exact ⟨f, rfl⟩
  | error e =>
    rw [hread] at hbackoff
    cases hbackoff

theorem AdmittedSchedule.of_valid {spec : TemporalScheduleSpec} (h : validateSchedule spec = .ok ()) :
    AdmittedSchedule spec := by
  unfold validateSchedule at h
  rw [check_eq_ok, check_eq_ok, check_eq_ok] at h
  obtain ⟨-, -, hpolicies, -⟩ := h
  unfold validateSchedulePolicies at hpolicies
  rw [check_eq_ok, check_eq_ok] at hpolicies
  obtain ⟨hoverlap, hreuse, hretry⟩ := hpolicies
  refine ⟨?_, lookup_of_validPolicy hreuse reusePolicies_valid, readableBackoff_of_validateRetry hretry⟩
  cases hp : spec.policies with
  | none => exact ⟨.unspecified, rfl⟩
  | some p =>
    rw [hp] at hoverlap
    exact lookup_of_validPolicy hoverlap overlapPolicies_valid

theorem scheduleParams_of_retryParams (name : String) {spec : TemporalScheduleSpec} {retry : Option RetryParams}
    (h : retryParams spec.action.startWorkflow.retryPolicy = .ok retry) :
    ∃ params, scheduleParams name spec = .ok params ∧ params.spec = scheduleSpecParams spec.schedule ∧
      params.action.idReusePolicy = spec.action.startWorkflow.workflowIDReusePolicy ∧ params.action.retry = retry ∧
      params.policies = policyParams spec.policies :=
  ⟨_, bind_eq_ok.mpr ⟨retry, h, rfl⟩, rfl, rfl, rfl, rfl⟩

/-- The hash is there when the times and the coefficient can be written. -/
theorem computeSpecHash_ok_iff {H : Type} {hash : ScheduleParams → H} (p : ScheduleParams) :
    (∃ specHash, computeSpecHash hash p = .ok specHash) ↔ FourDigitYear p.spec.startTime ∧
      FourDigitYear p.spec.endTime ∧ (p.action.retry.bind fun r => floatErr r.backoffCoefficient) = none := by
  have hmarshal : marshalErr p = none ↔ FourDigitYear p.spec.startTime ∧ FourDigitYear p.spec.endTime ∧
      (p.action.retry.bind fun r => floatErr r.backoffCoefficient) = none := by
    unfold marshalErr
    rw [Option.orElse_eq_none, Option.orElse_eq_none, timeErr_eq_none_iff, timeErr_eq_none_iff]
  rw [← hmarshal]
  unfold computeSpecHash
  cases marshalErr p with
  | none => exact ⟨fun _ => rfl, fun _ => ⟨_, rfl⟩⟩
  | some e => exact ⟨fun ⟨_, h⟩ => (nomatch h), nofun⟩

theorem toProtoSchedule_ok {p : ScheduleParams} (hoverlap : ∃ v, overlapPolicies.lookup p.policies.overlapPolicy = some v)
    (hreuse : ∃ v, reusePolicies.lookup p.action.idReusePolicy = some v) :
    ∃ schedule, toProtoSchedule p = .ok schedule := by
  obtain ⟨overlap, hoverlap⟩ := hoverlap
  obtain ⟨reuse, hreuse⟩ := hreuse
  unfold toProtoSchedule
  rw [hoverlap, hreuse]
  exact ⟨_, rfl⟩

theorem AdmittedSchedule.executable_iff {H : Type} {hash : ScheduleParams → H} {name : String}
    {spec : TemporalScheduleSpec} (h : AdmittedSchedule spec) :
    ScheduleExecutable hash name spec ↔ FiniteBackoff spec.action.startWorkflow ∧
      FourDigitYear spec.schedule.startTime ∧ FourDigitYear spec.schedule.endTime := by
  obtain ⟨retry, hretry⟩ := (retryParams_ok_iff _).mpr h.backoff
  obtain ⟨params, hparams, hspec, hpolicy, rfl, hpolicies⟩ := scheduleParams_of_retryParams name hretry
  have hproto : ∃ schedule, toProtoSchedule params = .ok schedule :=
    toProtoSchedule_ok (by rw [hpolicies]; exact h.overlap) (by rw [hpolicy]; exact h.reuse)
  have hhash : (∃ specHash, computeSpecHash hash params = .ok specHash) ↔ FourDigitYear spec.schedule.startTime ∧
      FourDigitYear spec.schedule.endTime ∧ FiniteBackoff spec.action.startWorkflow := by
    rw [computeSpecHash_ok_iff, retryParams_finite_iff hretry, hspec]
    rfl
  constructor
  · rintro ⟨params', hparams', hhash', -⟩
    obtain rfl := Except.ok.inj (hparams.symm.trans hparams')
    obtain ⟨hstart, hend, hfinite⟩ := hhash.mp hhash'
    exact ⟨hfinite, hstart, hend⟩
  · rintro ⟨hfinite, hstart, hend⟩
    exact ⟨params, hparams, hhash.mpr ⟨hstart, hend, hfinite⟩, hproto⟩

theorem runExecutable_iff {run : TemporalWorkflowRun} (h : validateWorkflowRun run.spec = .ok ()) :
    RunExecutable run ↔ ReadableBackoff run.spec.workflow := by
  unfold validateWorkflowRun at h
  rw [check_eq_ok, check_eq_ok, check_eq_ok, check_eq_ok, check_eq_ok] at h
  obtain ⟨-, -, -, -, hreuse, -⟩ := h
  obtain ⟨reuse, hreuse⟩ := lookup_of_validPolicy hreuse reusePolicies_valid
  rw [← retryParams_ok_iff]
  constructor
  · rintro ⟨params, hparams, -⟩
    obtain ⟨retry, hretry, -⟩ := bind_eq_ok.mp hparams
    exact ⟨retry, hretry⟩
  · rintro ⟨retry, hretry⟩
    refine ⟨_, bind_eq_ok.mpr ⟨retry, hretry, rfl⟩, ?_⟩
    unfold Satellite.WorkflowRun.startRequest
    rw [hreuse]
    exact ⟨_, rfl⟩

/-- **What is admitted can be executed**, except for numbers and times that the checks let through: a schedule exactly
when its backoff coefficient is finite and its times are in the years 0 to 9999, a workflow run exactly when its backoff
coefficient is a number. -/
theorem admitted_executable_iff {H : Type} (hash : ScheduleParams → H) :
    (∀ name spec, validateSchedule spec = .ok () →
      (ScheduleExecutable hash name spec ↔ FiniteBackoff spec.action.startWorkflow ∧
        FourDigitYear spec.schedule.startTime ∧ FourDigitYear spec.schedule.endTime)) ∧
    ∀ run : TemporalWorkflowRun, validateWorkflowRun run.spec = .ok () →
      (RunExecutable run ↔ ReadableBackoff run.spec.workflow) :=
  ⟨fun _ _ h => (AdmittedSchedule.of_valid h).executable_iff, fun _ h => runExecutable_iff h⟩

def reportAction (backoff : String) : StartWorkflowAction where
  workflowType := "Report"
  taskQueue := "reports"
  args := [⟨[0x5b, 0x31, 0x5d]⟩]
  retryPolicy := some { backoffCoefficient := backoff }

/-- It is started every hour, up to a time. -/
def hourly (backoff : String) (endTime : GoTime) : TemporalScheduleSpec where
  clusterRef := { name := "dev" }
  namespace_ := "default"
  schedule := { intervals := [{ every := 3600 * 10 ^ 9 }], endTime := some endTime }
  action := ⟨reportAction backoff⟩

/-- It is started once. -/
def reportRun (backoff : String) : TemporalWorkflowRun where
  name := "report"
  spec := { clusterRef := { name := "dev" }, namespace_ := "default", workflow := reportAction backoff }
  status := {}

theorem admitted_executable_plain :
    ScheduleExecutable id "hourly" (hourly "1.5" 0) ∧ RunExecutable (reportRun "1.5") := by
  obtain ⟨hschedule, hrun⟩ := admitted_executable_iff (id : ScheduleParams → ScheduleParams)
  have hadmitted : validateSchedule (hourly "1.5" 0) = .ok () := by decide +kernel
  have hadmitted' : validateWorkflowRun (reportRun "1.5").spec = .ok () := by decide +kernel
  have hfinite : FiniteBackoff (reportAction "1.5") := by
    have hread : (Float64.parseFloat "1.5").map Float64.isFinite = .ok true := by decide +kernel
    rintro r ⟨⟩ f hf
    rw [hf] at hread
    exact Except.ok.inj hread
  have hyear : FourDigitYear (hourly "1.5" 0).schedule.endTime := by
    rintro t ⟨⟩
    decide
  have hreadable : ReadableBackoff (reportAction "1.5") := (AdmittedSchedule.of_valid hadmitted).backoff
  exact ⟨(hschedule _ _ hadmitted).mpr ⟨hfinite, nofun, hyear⟩, (hrun _ hadmitted').mpr hreadable⟩

/-- Three specs that are admitted: the parameters of the first two cannot be written as JSON, and those of the third
cannot be built. -/
theorem admitted_not_executable :
    (validateSchedule (hourly "NaN" 0) = .ok () ∧
      (scheduleParams "hourly" (hourly "NaN" 0)).map (computeSpecHash id) = .ok (.error (.unsupportedValue .nan))) ∧
    (validateSchedule (hourly "2" (253402300800 * 10 ^ 9)) = .ok () ∧
      (scheduleParams "hourly" (hourly "2" (253402300800 * 10 ^ 9))).map (computeSpecHash id) =
        .ok (.error (.year (253402300800 * 10 ^ 9)))) ∧
    (validateWorkflowRun (reportRun "two").spec = .ok () ∧
      Satellite.WorkflowRun.workflowRunParams (reportRun "two") =
        .error ("invalid retryPolicy.backoffCoefficient: strconv.ParseFloat: parsing \"two\": invalid syntax")) := by
  decide +kernel

end TemporalOperator.WorkflowWebhook
