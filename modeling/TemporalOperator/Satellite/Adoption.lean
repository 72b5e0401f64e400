import Mathlib.Data.Finset.Insert
import Mathlib.Data.Fintype.EquivFin
import TemporalOperator.Satellite.StartOnce

/-!
# Executions that a workflow run adopts

When the frontend answers a start with `AlreadyExists`, the client returns the run ID of the latest execution, whatever
its status. The frontend answers so when another execution is open, and also when the reuse policy forbids a new
execution after one that is closed. What others do to the executions goes on between any two calls.

* `ServerRun`, `Executions` : the executions of a workflow ID; `ServerEvent`, `Executions.after` : what others do;
* `serverStart`, `startCall` : a start; `Served` : the answers that the client gets are those of the frontend;
* `adoptionSystem` : passes over one object, with the executions of its workflow ID;
* `Restartable` : a closed execution is not in the way of a start;
* `adopts_no_finished_iff` : with it, and only with it, `Start` returns executions of its own or open ones;
  `adopts_finished` : without it.
-/

namespace TemporalOperator.Satellite.WorkflowRun
open Lib Proc

/-! ## The executions of a workflow ID -/

structure ServerRun extends Execution where
  status : ExecutionStatus := .running
  deriving DecidableEq, Repr

def ServerRun.Open (r : ServerRun) : Prop := r.status = .running

instance (r : ServerRun) : Decidable r.Open := inferInstanceAs (Decidable (_ = _))

/-- The execution `runID` ends with `status` if it is open. -/
def ServerRun.closed (runID : String) (status : ExecutionStatus) (r : ServerRun) : ServerRun :=
  if r.runID = runID ∧ r.Open then { r with status } else r

theorem ServerRun.closed_toExecution (runID : String) (status : ExecutionStatus) (r : ServerRun) :
    (r.closed runID status).toExecution = r.toExecution := by
  unfold closed
  split <;> rfl

theorem ServerRun.closed_of_not_open {r : ServerRun} (h : ¬ r.Open) (runID : String) (status : ExecutionStatus) :
    r.closed runID status = r := if_neg fun hopen => h hopen.2

/-- The executions of a workflow ID, the latest first. -/
structure Executions where
  runs : List ServerRun
  nodup : (runs.map fun r => r.runID).Nodup
  named : ∀ r ∈ runs, r.runID ≠ ""

namespace Executions

def Fresh (x : Executions) (runID : String) : Prop := runID ≠ "" ∧ runID ∉ x.runs.map fun r => r.runID

instance (x : Executions) (runID : String) : Decidable (x.Fresh runID) := inferInstanceAs (Decidable (_ ∧ _))

/-- A new execution, if its run ID is new. -/
def started (x : Executions) (requestId runID : String) : Executions :=
  if h : x.Fresh runID then
    { runs := { requestId, runID } :: x.runs
      nodup := List.nodup_cons.mpr ⟨h.2, x.nodup⟩
      named := List.forall_mem_cons.mpr ⟨h.1, x.named⟩ }
  else x

theorem map_runID_closed (x : Executions) (runID : String) (status : ExecutionStatus) :
    (x.runs.map (ServerRun.closed runID status)).map (fun r => r.runID) = x.runs.map fun r => r.runID := by
  rw [List.map_map]
  exact List.map_congr_left fun r _ => congrArg Execution.runID (ServerRun.closed_toExecution runID status r)

def closed (x : Executions) (runID : String) (status : ExecutionStatus) : Executions where
  runs := x.runs.map (ServerRun.closed runID status)
  nodup := by
    rw [map_runID_closed]
    exact x.nodup
  named := by
    intro r hr
    obtain ⟨r', hr', rfl⟩ := List.mem_map.mp hr
    rw [ServerRun.closed_toExecution]
    exact x.named r' hr'

end Executions

/-- What others do to the executions. -/
inductive ServerEvent
  | started (requestId runID : String)
  | closed (runID : String) (status : ExecutionStatus)
  deriving DecidableEq, Repr

def ServerEvent.apply (x : Executions) : ServerEvent → Executions
  | .started requestId runID => x.started requestId runID
  | .closed runID status => x.closed runID status

/-- The executions after the events, of which the first is the oldest. -/
def Executions.after (x : Executions) (events : List ServerEvent) : Executions := events.foldl ServerEvent.apply x

/-! ## A start -/

/-- Whether the reuse policy lets a new execution follow the latest one, by its status. One that is still running is
terminated then. -/
abbrev ReuseRules := IdReusePolicy → ExecutionStatus → Bool

def alreadyStarted : RpcErr := { code := .alreadyExists, text := "Workflow execution is already running." }

/-- `StartWorkflowExecution`: the answer, and the executions after it. A new execution is given the run ID `runID`. -/
def serverStart (rules : ReuseRules) (runID : String) (request : StartRequest) (x : Executions) :
    Except RpcErr String × Executions :=
  match x.runs.head? with
  | none => (.ok runID, x.started request.requestId runID)
  | some latest =>
    if latest.requestId = request.requestId then (.ok latest.runID, x)
    else if rules request.workflow.workflowIdReusePolicy latest.status then
      (.ok runID, (x.closed latest.runID .terminated).started request.requestId runID)
    else (.error alreadyStarted, x)

/-- What happens around the start of a pass. -/
structure Traffic where
  /-- Since the last pass. -/
  before : List ServerEvent := []
  start : Outcome RpcErr := .done
  /-- The run ID of a new execution. -/
  runID : String := "run"
  /-- After the frontend has seen the start. -/
  meanwhile : List ServerEvent := []
  deriving DecidableEq, Repr

/-- A start that may fail on its way there or back. -/
def startCall (rules : ReuseRules) (t : Traffic) (request : StartRequest) (x : Executions) :
    Except RpcErr String × Executions :=
  match t.start with
  | .done => serverStart rules t.runID request x
  | .failed e => (.error e, x)
  | .unheard e => (.error e, (serverStart rules t.runID request x).2)

/-- The calls of `Start` are answered by the frontend, which has the executions `x`. -/
structure Served (rules : ReuseRules) (t : Traffic) (request : StartRequest) (x : Executions) (env : RunEnv) : Prop where
  fresh : x.Fresh t.runID
  /-- Only the frontend answers `AlreadyExists`. -/
  lost : ∀ e, t.start = .failed e ∨ t.start = .unheard e → e.code ≠ .alreadyExists
  start : env.startExecution request = (startCall rules t request x).1
  /-- An execution that is described without a run ID is the latest one. -/
  describe : ∀ response, env.describeExecution 0 = .ok response →
    ∃ latest ∈ ((startCall rules t request x).2.after t.meanwhile).runs.head?,
      response.runID = latest.runID ∧ response.status = latest.status

/-- The execution was started by the request, or was open at some moment between the answer to the start and the end of
`Start`. -/
def OwnOrOpen (rules : ReuseRules) (t : Traffic) (request : StartRequest) (x : Executions) (runID : String) : Prop :=
  (∃ r ∈ ((startCall rules t request x).2.after t.meanwhile).runs, r.runID = runID ∧ r.requestId = request.requestId) ∨
    ∃ events ∈ t.meanwhile.inits, ∃ r ∈ ((startCall rules t request x).2.after events).runs, r.runID = runID ∧ r.Open

/-- If the latest execution is closed and of another request, the reuse policy lets a new one follow it. -/
def Restartable (rules : ReuseRules) (request : StartRequest) (x : Executions) : Prop :=
  ∀ latest ∈ x.runs.head?, latest.requestId ≠ request.requestId → ¬ latest.Open →
    rules request.workflow.workflowIdReusePolicy latest.status = true

/-! ## Executions stay -/

theorem Executions.eq_of_runID {x : Executions} {r r' : ServerRun} (hr : r ∈ x.runs) (hr' : r' ∈ x.runs)
    (h : r.runID = r'.runID) : r = r' := List.inj_on_of_nodup_map x.nodup hr hr' h

/-- Executions are not forgotten, and a closed one is not changed. -/
structure Extends (x y : Executions) : Prop where
  closed : ∀ r ∈ x.runs, ¬ r.Open → r ∈ y.runs
  mem : ∀ r ∈ x.runs, ∃ r' ∈ y.runs, r'.toExecution = r.toExecution

theorem Extends.refl (x : Executions) : Extends x x := ⟨fun _ hr _ => hr, fun r hr => ⟨r, hr, rfl⟩⟩

theorem Extends.trans {x y z : Executions} (h : Extends x y) (h' : Extends y z) : Extends x z := by
  refine ⟨fun r hr hclosed => h'.closed r (h.closed r hr hclosed) hclosed, fun r hr => ?_⟩
  obtain ⟨r', hr', heq⟩ := h.mem r hr
  obtain ⟨r'', hr'', heq'⟩ := h'.mem r' hr'
  exact ⟨r'', hr'', heq'.trans heq⟩

theorem Executions.runs_started {x : Executions} {runID : String} (h : x.Fresh runID) (requestId : String) :
    (x.started requestId runID).runs = { requestId, runID } :: x.runs := by
  unfold started
  rw [dif_pos h]

theorem Extends.started (x : Executions) (requestId runID : String) : Extends x (x.started requestId runID) := by
  by_cases hfresh : x.Fresh runID
  · have hmem : ∀ r ∈ x.runs, r ∈ (x.started requestId runID).runs := by
      intro r hr
      rw [Executions.runs_started hfresh]
      exact List.mem_cons_of_mem _ hr
    exact ⟨fun r hr _ => hmem r hr, fun r hr => ⟨r, hmem r hr, rfl⟩⟩
  · unfold Executions.started
    rw [dif_neg hfresh]
    exact .refl x

theorem Extends.close (x : Executions) (runID : String) (status : ExecutionStatus) :
    Extends x (x.closed runID status) := by
  have hmem : ∀ r ∈ x.runs, r.closed runID status ∈ (x.closed runID status).runs :=
    fun r hr => List.mem_map_of_mem hr
  refine ⟨fun r hr hclosed => ?_, fun r hr => ⟨_, hmem r hr, ServerRun.closed_toExecution runID status r⟩⟩
  rw [← ServerRun.closed_of_not_open hclosed runID status]
  exact hmem r hr

theorem Extends.apply (x : Executions) (e : ServerEvent) : Extends x (e.apply x) := by
  cases e with
  | started requestId runID => exact .started x requestId runID
  | closed runID status => exact .close x runID status

theorem Extends.after (x : Executions) (events : List ServerEvent) : Extends x (x.after events) := by
  induction events generalizing x with
  | nil => exact .refl x
  | cons e events ih => exact (Extends.apply x e).trans (ih (e.apply x))

theorem Extends.serverStart (rules : ReuseRules) (runID : String) (request : StartRequest) (x : Executions) :
    Extends x (serverStart rules runID request x).2 := by
  unfold WorkflowRun.serverStart
  split
  · exact .started x _ _
  · split
    · exact .refl x
    · split
      · exact (Extends.close x _ _).trans (.started _ _ _)
      · exact .refl x

theorem Extends.startCall (rules : ReuseRules) (t : Traffic) (request : StartRequest) (x : Executions) :
    Extends x (startCall rules t request x).2 := by
  unfold WorkflowRun.startCall
  cases t.start with
  | done => exact .serverStart rules t.runID request x
  | failed e => exact .refl x
  | unheard e => exact .serverStart rules t.runID request x

/-! ## The latest execution -/

/-- After an event the latest execution is the one before, or it has just been started. -/
theorem head_apply {x : Executions} {e : ServerEvent} {r : ServerRun} (hr : r ∈ (e.apply x).runs.head?) :
    (∃ r' ∈ x.runs.head?, r'.runID = r.runID) ∨ r.Open := by
  cases e with
  | started requestId runID =>
    by_cases hfresh : x.Fresh runID
    · have hruns : (ServerEvent.apply x (.started requestId runID)).runs = { requestId, runID } :: x.runs :=
        Executions.runs_started hfresh requestId
      rw [hruns] at hr
      obtain rfl := Option.some.inj hr
      exact .inr rfl
    · have hsame : ServerEvent.apply x (.started requestId runID) = x := dif_neg hfresh
      rw [hsame] at hr
      exact .inl ⟨r, hr, rfl⟩
  | closed runID status =>
    have hruns : (ServerEvent.apply x (.closed runID status)).runs = x.runs.map (ServerRun.closed runID status) := rfl
    rw [hruns, List.head?_map] at hr
    obtain ⟨r', hr', rfl⟩ := Option.map_eq_some_iff.mp hr
    exact .inl ⟨r', hr', congrArg Execution.runID (ServerRun.closed_toExecution runID status r').symm⟩

/-- After some events the latest execution is the one before, or it has been open in between. -/
theorem head_after {x : Executions} {events : List ServerEvent} {r : ServerRun}
    (hr : r ∈ (x.after events).runs.head?) :
    (∃ r' ∈ x.runs.head?, r'.runID = r.runID) ∨
      ∃ es ∈ events.inits, ∃ r' ∈ (x.after es).runs, r'.runID = r.runID ∧ r'.Open := by
  induction events generalizing x with
  | nil => exact .inl ⟨r, hr, rfl⟩
  | cons e events ih =>
    have hcons : ∀ es ∈ events.inits, e :: es ∈ (e :: events).inits := fun es hes =>
      (List.mem_inits _ _).mpr (List.cons_prefix_cons.mpr ⟨rfl, (List.mem_inits _ _).mp hes⟩)
    rcases ih hr with ⟨r', hr', heq⟩ | ⟨es, hes, hopen⟩
    · rcases head_apply hr' with ⟨r'', hr'', heq'⟩ | hopen
      · exact .inl ⟨r'', hr'', heq'.trans heq⟩
      · exact .inr ⟨[e], hcons [] ((List.mem_inits _ _).mpr List.nil_prefix), r', List.mem_of_mem_head? hr', heq, hopen⟩
    · exact .inr ⟨e :: es, hcons es hes, hopen⟩

/-! ## What `Start` returns -/

section Start

variable {rules : ReuseRules} {t : Traffic} {request : StartRequest} {x : Executions} {env : RunEnv}
  {namespace_ requestID : String} {p : StartWorkflowParams}

/-- The frontend answers with an execution of the request, or refuses to follow the latest one. -/
theorem serverStart_cases (rules : ReuseRules) (request : StartRequest) {runID : String} (hfresh : x.Fresh runID) :
    (∃ id, (serverStart rules runID request x).1 = .ok id ∧
      ∃ r ∈ (serverStart rules runID request x).2.runs, r.runID = id ∧ r.requestId = request.requestId) ∨
    (serverStart rules runID request x = (.error alreadyStarted, x) ∧ ∃ latest ∈ x.runs.head?,
      latest.requestId ≠ request.requestId ∧ rules request.workflow.workflowIdReusePolicy latest.status = false) := by
  have hstarted : ∀ y : Executions, y.Fresh runID →
      ∃ r ∈ (y.started request.requestId runID).runs, r.runID = runID ∧ r.requestId = request.requestId := by
    intro y hy
    rw [Executions.runs_started hy]
    exact ⟨_, List.mem_cons_self, rfl, rfl⟩
  unfold serverStart
  split
  · exact .inl ⟨runID, rfl, hstarted x hfresh⟩
  · rename_i latest hlatest
    split
    · rename_i hown
      exact .inl ⟨latest.runID, rfl, latest, List.mem_of_mem_head? hlatest, rfl, hown⟩
    · rename_i hother
      split
      · refine .inl ⟨runID, rfl, hstarted _ ⟨hfresh.1, ?_⟩⟩
        have hids := x.map_runID_closed latest.runID .terminated
        intro hmem
        exact hfresh.2 (hids ▸ hmem)
      · rename_i hrules
        exact .inr ⟨rfl, latest, hlatest, hother, Bool.eq_false_of_not_eq_true hrules⟩

theorem Served.start_cases (h : Served rules t request x env) :
    startCall rules t request x = serverStart rules t.runID request x ∨
      ∃ e, env.startExecution request = .error e ∧ e.code ≠ .alreadyExists := by
  have hstart := h.start
  unfold startCall at hstart ⊢
  cases houtcome : t.start with
  | done => exact .inl rfl
  | failed e =>
    rw [houtcome] at hstart
    exact .inr ⟨e, hstart, h.lost e (.inl houtcome)⟩
  | unheard e =>
    rw [houtcome] at hstart
    exact .inr ⟨e, hstart, h.lost e (.inr houtcome)⟩

theorem describeClient_runID {n : Nat} {info : WorkflowExecutionInfo} (h : describeClient env n = .ok info) :
    ∃ response, env.describeExecution n = .ok response ∧ response.runID = info.runID := by
  unfold describeClient at h
  split at h
  · cases h
  · rename_i response hresponse
    obtain rfl := Except.ok.inj h
    exact ⟨response, hresponse, rfl⟩

/-- A run ID is returned without an error only if the start is answered with it, or with `AlreadyExists` and the
execution is described. -/
theorem startClient_eq_ok (hrequest : startRequest namespace_ requestID p = some request) {id : String}
    (h : startClient env namespace_ requestID p = .ok id) :
    env.startExecution request = .ok id ∨
      (∃ e, env.startExecution request = .error e ∧ e.code = .alreadyExists) ∧
        ∃ response, env.describeExecution 0 = .ok response ∧ response.runID = id := by
  rw [startClient_eq hrequest] at h
  cases hanswer : env.startExecution request with
  | ok runID =>
    rw [hanswer] at h
    obtain rfl := Except.ok.inj h
    exact .inl rfl
  | error e =>
    rw [hanswer] at h
    dsimp only at h
    split at h
    · rename_i hcode
      cases hinfo : describeClient env 0 with
      | error e' =>
        rw [hinfo] at h
        cases h
      | ok info =>
        rw [hinfo] at h
        obtain rfl := Except.ok.inj h
        exact .inr ⟨⟨e, rfl, hcode⟩, describeClient_runID hinfo⟩
    · cases h

/-- `Start` adopts no closed execution if none is in its way. -/
theorem Served.ownOrOpen (hserved : Served rules t request x env) (hclear : Restartable rules request x)
    (hrequest : startRequest namespace_ requestID p = some request) {id : String}
    (h : startClient env namespace_ requestID p = .ok id) : OwnOrOpen rules t request x id := by
  rcases hserved.start_cases with hcall | ⟨e, herror, hcode⟩
  · have hanswer := hserved.start
    rw [hcall] at hanswer
    rcases serverStart_cases rules request hserved.fresh with
      ⟨id', hok, r, hr, hid, hown⟩ | ⟨hrefused, latest, hlatest, hother, hrules⟩
    · rw [hok] at hanswer
      obtain rfl : id' = id := by
        rcases startClient_eq_ok hrequest h with heq | ⟨⟨e, heq, -⟩, -⟩
        · exact Except.ok.inj (hanswer.symm.trans heq)
        · cases hanswer.symm.trans heq
      rw [← hcall] at hr
      obtain ⟨r', hr', heq⟩ := (Extends.after _ t.meanwhile).mem r hr
      exact .inl ⟨r', hr', (congrArg Execution.runID heq).trans hid, (congrArg Execution.requestId heq).trans hown⟩
    · -- the latest execution is open, and so is one that has followed it
      have hafter : (startCall rules t request x).2 = x := by rw [hcall, hrefused]
      have hopen : latest.Open := by
        by_contra hclosed
        rw [hclear latest hlatest hother hclosed] at hrules
        cases hrules
      rw [hrefused] at hanswer
      rcases startClient_eq_ok hrequest h with heq | ⟨-, response, hresponse, rfl⟩
      · cases hanswer.symm.trans heq
      · obtain ⟨described, hdescribed, hid, -⟩ := hserved.describe response hresponse
        rw [hid]
        rcases head_after hdescribed with ⟨r, hr, heq⟩ | hsince
        · rw [hafter] at hr
          obtain rfl := Option.mem_unique hr hlatest
          refine .inr ⟨[], (List.mem_inits _ _).mpr List.nil_prefix, r, ?_, heq, hopen⟩
          rw [hafter]
          exact List.mem_of_mem_head? hr
        · exact .inr hsince
  · rcases startClient_eq_ok hrequest h with heq | ⟨⟨e', heq, hcode'⟩, -⟩
    · cases herror.symm.trans heq
    · obtain rfl := Except.error.inj (herror.symm.trans heq)
      exact absurd hcode' hcode

theorem Executions.exists_fresh (x : Executions) : ∃ runID, x.Fresh runID := by
  have hinj : Function.Injective fun n => String.ofList (List.replicate n 'a') := by
    intro m n h
    have hlists := congrArg (fun s => s.toList.length) h
    simpa using hlists
  have := Infinite.of_injective _ hinj
  obtain ⟨runID, hnew⟩ := Infinite.exists_notMem_finset (insert "" (x.runs.map fun r => r.runID).toFinset)
  rw [Finset.mem_insert, not_or, List.mem_toFinset] at hnew
  exact ⟨runID, hnew⟩

/-- A start that finds a closed execution in its way, with nothing else going on. -/
theorem adopts_of_not_restartable (hrequest : startRequest namespace_ requestID p = some request)
    (h : ¬ Restartable rules request x) :
    ∃ t env id, Served rules t request x env ∧ startClient env namespace_ requestID p = .ok id ∧
      ¬ OwnOrOpen rules t request x id := by
  unfold Restartable at h
  push Not at h
  obtain ⟨latest, hlatest, hother, hclosed, hrules⟩ := h
  obtain ⟨runID, hfresh⟩ := x.exists_fresh
  have hrefused : startCall rules { runID } request x = (.error alreadyStarted, x) := by
    show serverStart rules runID request x = _
    rcases serverStart_cases rules request hfresh with ⟨id, hok, -⟩ | ⟨hrefused, -⟩
    · unfold serverStart at hok
      rw [Option.mem_def.mp hlatest] at hok
      dsimp only at hok
      rw [if_neg hother, if_neg hrules] at hok
      cases hok
    · exact hrefused
  let env : RunEnv :=
    { startExecution := fun _ => .error alreadyStarted
      describeExecution := fun _ => .ok { status := latest.status, runID := latest.runID } }
  refine ⟨{ runID }, env, latest.runID, ⟨hfresh, ?_, ?_, ?_⟩, ?_, ?_⟩
  · rintro e (herr | herr) <;> cases herr
  · rw [hrefused]
  · rintro response hresponse
    obtain rfl := Except.ok.inj hresponse
    rw [hrefused]
    exact ⟨latest, hlatest, rfl, rfl⟩
  · rw [startClient_eq hrequest]
    rfl
  · have hmem := List.mem_of_mem_head? hlatest
    unfold OwnOrOpen
    rw [hrefused]
    rintro (⟨r, hr, hid, hown⟩ | ⟨events, hevents, r, hr, hid, hopen⟩)
    · obtain rfl := Executions.eq_of_runID hr hmem hid
      exact hother hown
    · obtain rfl := List.prefix_nil.mp ((List.mem_inits _ _).mp hevents)
      obtain rfl := Executions.eq_of_runID hr hmem hid
      exact hclosed hopen

end Start

/-! ## Where the run ID of a status is from -/

/-- The status has no run ID, or one that is `known`, or one from a start of the pass. -/
def Sourced (known : String → Prop) (s : RunPass) (st : TemporalWorkflowRunStatus) : Prop :=
  st.runID = "" ∧ st.phase ≠ "Completed" ∨ known st.runID ∨ StartAnswered s st.runID

/-- The statuses of a pass and the answers to its starts. -/
structure Sourcing (known : String → Prop) (env : RunEnv) (s : RunPass) : Prop where
  stored : ∀ o ∈ s.stored, Sourced known s o.status
  obj : Sourced known s s.obj.status
  written : ∀ st, Effect.statusWritten st ∈ s.events → Sourced known s st
  answers : ∀ namespace_ requestID params answer,
    Effect.call (.start namespace_ requestID params answer) ∈ s.events → answer = startClient env namespace_ requestID params

section Sourcing

variable {known : String → Prop} {env : RunEnv}

theorem Sourced.congr {s : RunPass} {st st' : TemporalWorkflowRunStatus} (h : Sourced known s st)
    (hrunID : st'.runID = st.runID) (hphase : st'.phase = st.phase) : Sourced known s st' := by
  unfold Sourced
  rw [hrunID, hphase]
  exact h

theorem Sourced.mono {s s' : RunPass} {st : TemporalWorkflowRunStatus} (h : Sourced known s st)
    (hevents : ∀ e ∈ s.events, e ∈ s'.events) : Sourced known s' st := by
  refine h.imp id (Or.imp id ?_)
  rintro ⟨namespace_, requestID, params, hmem⟩
  exact ⟨namespace_, requestID, params, hevents _ hmem⟩

theorem StatusStep.sourced {s : RunPass} {st : TemporalWorkflowRunStatus} (h : StatusStep s st)
    (hs : Sourced known s s.obj.status) : Sourced known s st := by
  cases h with
  | ready status reason message => exact hs.congr rfl rfl
  | finished info now => exact hs.congr rfl rfl
  | advance h =>
    cases h with
    | started runID _ hanswered => exact .inr (.inr hanswered)
    | observed info hrun =>
      rcases hrun with hrunID | hanswered
      · exact .inr (hs.resolve_left fun hnone => hrunID hnone.1)
      · exact .inr (.inr hanswered)

theorem Sourcing.edited {s : RunPass} (h : Sourcing known env s) (es : List (Edit TemporalWorkflowRunSpec)) :
    Sourcing known env { s with stored := edits kind.admits es s.stored } :=
  ⟨edits_status (P := Sourced known s) kind.admits es h.stored, h.obj, h.written, h.answers⟩

theorem Sourcing.event {s : RunPass} (h : Sourcing known env s) {e : RunEffect} {stored : Option TemporalWorkflowRun}
    {obj : TemporalWorkflowRun} (hcall : ∀ c, e ≠ .call c) (hstored : ∀ o ∈ stored, Sourced known s o.status)
    (hobj : Sourced known s obj.status) (hwritten : ∀ st, e = .statusWritten st → Sourced known s st) :
    Sourcing known env { s with stored, obj, events := e :: s.events } := by
  have hmono : ∀ {st}, Sourced known s st → Sourced known { s with stored, obj, events := e :: s.events } st :=
    fun hst => hst.mono fun _ he => List.mem_cons_of_mem _ he
  refine ⟨fun o ho => hmono (hstored o ho), hmono hobj, fun st hst => ?_, fun _ _ _ _ hmem => ?_⟩
  · rcases List.mem_cons.mp hst with heq | hst
    · exact hmono (hwritten st heq.symm)
    · exact hmono (h.written st hst)
  · rcases List.mem_cons.mp hmem with heq | hmem
    · exact absurd heq.symm (hcall _)
    · exact h.answers _ _ _ _ hmem

/-- A write that stores `o`, whether the caller hears of it (`obj`) or not. -/
theorem Sourcing.wrote {s : RunPass} (h : Sourcing known env s) {o : TemporalWorkflowRun} {event : RunEffect}
    (ho : Sourced known s o.status) (hcall : ∀ c, event ≠ .call c)
    (hwritten : ∀ st, event = .statusWritten st → Sourced known s st) :
    Sourcing known env { s with stored := o.orGone, events := event :: s.events } ∧
      Sourcing known env { s with stored := o.orGone, events := event :: s.events, obj := o } := by
  have hstored : ∀ o' ∈ o.orGone, Sourced known s o'.status := by
    intro o' ho'
    rw [Object.orGone_eq_some ho']
    exact ho
  exact ⟨h.event hcall hstored h.obj hwritten, h.event hcall hstored ho hwritten⟩

theorem Sourcing.passInvariant : PassInvariant env (Sourcing known env) (Sourcing known env) := by
  refine PassInvariant.of_steps ?_ ?_ ?_ ?_ ?_ ?_
  · exact fun s st hstep hs => ⟨hs.stored, hstep.sourced hs.obj, hs.written, hs.answers⟩
  · exact fun s fs hs => ⟨hs.stored, hs.obj, hs.written, hs.answers⟩
  · intro s c hissues hs
    have hmono : ∀ {st}, Sourced known s st → Sourced known { s with events := .call c :: s.events } st :=
      fun hst => hst.mono fun _ he => List.mem_cons_of_mem _ he
    refine ⟨fun o ho => hmono (hs.stored o ho), hmono hs.obj, fun st hst => ?_, fun _ _ _ _ hmem => ?_⟩
    · rcases List.mem_cons.mp hst with heq | hst
      · cases heq
      · exact hmono (hs.written st hst)
    · rcases List.mem_cons.mp hmem with heq | hmem
      · cases heq
        exact hissues.2.2.2
      · exact hs.answers _ _ _ _ hmem
  · have hwritten : ∀ (s : RunPass) cur, Sourcing known env s → cur ∈ edits kind.admits env.beforeUpdate s.stored →
        Sourced known s (s.obj.written cur).status := fun s cur hs hcur => (hs.edited env.beforeUpdate).stored cur hcur
    exact triple_write (fun s _ hs => hs.edited _)
      (fun s cur _ hs hcur _ => (hs.wrote (hwritten s cur hs hcur) (fun _ h => by cases h) fun _ h => by cases h).1)
      fun s cur hs hcur _ => (hs.wrote (hwritten s cur hs hcur) (fun _ h => by cases h) fun _ h => by cases h).2
  · have hpersist : ∀ (s : RunPass) (cur : TemporalWorkflowRun), Sourcing known env s →
        Sourced known s (Object.writtenStatus (kind.persist s.obj.status) cur).status :=
      fun s cur hs => hs.obj.congr rfl rfl
    have hwritten : ∀ (s : RunPass) (cur : TemporalWorkflowRun), Sourcing known env s → ∀ st,
        (.statusWritten (Object.writtenStatus (kind.persist s.obj.status) cur).status : RunEffect) = .statusWritten st →
        Sourced known s st := by
      intro s cur hs st heq
      rw [← Effect.statusWritten.inj heq]
      exact hpersist s cur hs
    exact keeps_ignoreNotFound <| triple_write (fun s _ hs => hs.edited _)
      (fun s cur _ hs _ _ => (hs.wrote (hpersist s cur hs) (fun _ h => by cases h) (hwritten s cur hs)).1)
      fun s cur hs _ _ => (hs.wrote (hpersist s cur hs) (fun _ h => by cases h) (hwritten s cur hs)).2
  · refine triple_deleteObject (fun s hs => hs.edited _) fun s o hs ho => ?_
    have hmarked := (hs.edited env.beforeDelete).edited [.delete]
    rw [ho, edits_delete] at hmarked
    exact hs.event (fun _ h => by cases h) hmarked.stored hs.obj fun _ h => by cases h

end Sourcing

/-! ## Runs -/

def requestOf : RunEffect → Option StartRequest
  | .call (.start namespace_ requestID params _) => startRequest namespace_ requestID params
  | _ => none

def serverEffect (rules : ReuseRules) (t : Traffic) (e : RunEffect) (x : Executions) : Executions :=
  match requestOf e with
  | none => x
  | some request => (startCall rules t request x).2.after t.meanwhile

/-- Passes over one object, with the executions of its workflow ID. -/
def adoptionSystem (rules : ReuseRules) : System (RunWorld × Executions) (RunEnv × Traffic) RunReport where
  step s e :=
    let out := reconcilePass s.1 e.1
    ((out.1, out.2.events.foldr (serverEffect rules e.2) (s.2.after e.2.before)), out.2)

/-- The starts of the pass are answered by the frontend, and no closed execution is in their way. -/
def ServedRestartable (rules : ReuseRules) (s : RunWorld × Executions) (_ : List RunReport) (e : RunEnv × Traffic) :
    Prop :=
  ∀ ev ∈ (reconcilePass s.1 e.1).2.events, ∀ request ∈ requestOf ev,
    Served rules e.2 request (s.2.after e.2.before) e.1 ∧ Restartable rules request (s.2.after e.2.before)

theorem Extends.serverEffects (rules : ReuseRules) (t : Traffic) (x : Executions) (events : List RunEffect) :
    Extends x (events.foldr (serverEffect rules t) x) := by
  induction events with
  | nil => exact .refl x
  | cons e events ih =>
    refine ih.trans ?_
    rw [List.foldr_cons]
    unfold serverEffect
    split
    · exact .refl _
    · exact (Extends.startCall rules t _ _).trans (.after _ _)

/-- The run ID is one that the frontend can have given out after it had the executions `x₀`. -/
def NotEndedIn (x₀ : Executions) (runID : String) : Prop :=
  runID ≠ "" ∧ ∀ r ∈ x₀.runs, ¬ r.Open → r.runID ≠ runID

/-- An execution of a new request, or one that is open later, has not ended before. -/
theorem OwnOrOpen.notEndedIn {rules : ReuseRules} {t : Traffic} {request : StartRequest} {x₀ x : Executions}
    {runID : String} (h : OwnOrOpen rules t request x runID) (hextends : Extends x₀ x)
    (hnew : ∀ r ∈ x₀.runs, r.requestId ≠ request.requestId) : NotEndedIn x₀ runID := by
  have hcall := hextends.trans (.startCall rules t request x)
  rcases h with ⟨r, hr, rfl, hown⟩ | ⟨events, -, r, hr, rfl, hopen⟩
  · refine ⟨Executions.named _ r hr, fun r₀ hr₀ hclosed heq => ?_⟩
    have hr₀' := (hcall.trans (.after _ t.meanwhile)).closed r₀ hr₀ hclosed
    exact hnew r₀ hr₀ (Executions.eq_of_runID hr₀' hr heq ▸ hown)
  · refine ⟨Executions.named _ r hr, fun r₀ hr₀ hclosed heq => ?_⟩
    have hr₀' := (hcall.trans (.after _ events)).closed r₀ hr₀ hclosed
    exact hclosed (Executions.eq_of_runID hr₀' hr heq ▸ hopen)

/-- The status has no execution, or one that had not ended before. -/
def Adopted (x₀ : Executions) (st : TemporalWorkflowRunStatus) : Prop :=
  st.runID = "" ∧ st.phase ≠ "Completed" ∨ NotEndedIn x₀ st.runID

/-- What is known after some passes over the object that `run` was. -/
structure Adopting (run : TemporalWorkflowRun) (x₀ : Executions) (s : RunWorld × Executions) (h : List RunReport) :
    Prop where
  same : ∀ o ∈ s.1.stored, SameRun run o
  stored : ∀ o ∈ s.1.stored, Adopted x₀ o.status
  executions : Extends x₀ s.2
  written : ∀ r ∈ h, ∀ st, Effect.statusWritten st ∈ r.events → Adopted x₀ st

theorem startRequest_of_startClient {env : RunEnv} {namespace_ requestID id : String} {p : StartWorkflowParams}
    (h : startClient env namespace_ requestID p = .ok id) :
    ∃ request, startRequest namespace_ requestID p = some request := by
  unfold startClient at h
  unfold startRequest
  split at h
  · cases h
  · rename_i reuse hreuse
    rw [hreuse]
    exact ⟨_, rfl⟩

/-- A start of the pass is answered with an execution that had not ended before. -/
theorem StartAnswered.notEndedIn {rules : ReuseRules} {run : TemporalWorkflowRun} {x₀ : Executions}
    {s : RunWorld × Executions} {e : RunEnv × Traffic} {h : List RunReport} {pass : RunPass} {known : String → Prop}
    {runID : String} (hanswered : StartAnswered pass runID) (hsourcing : Sourcing known e.1 pass)
    (hidentified : Identified run pass) (hevents : (reconcilePass s.1 e.1).2.events = pass.events)
    (hserved : ServedRestartable rules s h e) (hextends : Extends x₀ s.2)
    (hnew : ∀ r ∈ x₀.runs, r.requestId ≠ run.uid) : NotEndedIn x₀ runID := by
  obtain ⟨namespace_, requestID, params, hmem⟩ := hanswered
  have hclient : startClient e.1 namespace_ requestID params = .ok runID := (hsourcing.answers _ _ _ _ hmem).symm
  obtain ⟨request, hrequest⟩ := startRequest_of_startClient hclient
  obtain ⟨hserved, hclear⟩ :=
    hserved (.call (.start namespace_ requestID params (.ok runID))) (hevents ▸ hmem) request hrequest
  have huid : request.requestId = run.uid := by
    obtain ⟨reuse, -, rfl⟩ := Option.map_eq_some_iff.mp hrequest
    exact (hidentified.starts _ _ _ _ hmem).2.1
  exact (hserved.ownOrOpen hclear hrequest hclient).notEndedIn (hextends.trans (.after _ _)) fun r hr => huid ▸ hnew r hr

theorem Adopting.pass {rules : ReuseRules} {run : TemporalWorkflowRun} {x₀ : Executions} {s : RunWorld × Executions}
    {h : List RunReport} (hs : Adopting run x₀ s h) (hnew : ∀ r ∈ x₀.runs, r.requestId ≠ run.uid)
    {e : RunEnv × Traffic} (hserved : ServedRestartable rules s h e) :
    Adopting run x₀ ((adoptionSystem rules).step s e).1 (((adoptionSystem rules).step s e).2 :: h) := by
  have hstep : (adoptionSystem rules).step s e = (((reconcilePass s.1 e.1).1,
      (reconcilePass s.1 e.1).2.events.foldr (serverEffect rules e.2) (s.2.after e.2.before)),
      (reconcilePass s.1 e.1).2) := rfl
  have hexecutions := hs.executions.trans ((Extends.after s.2 e.2.before).trans
    (.serverEffects rules e.2 _ (reconcilePass s.1 e.1).2.events))
  have hsame := SameRun.edited hs.same e.1.beforeGet
  have hstored := edits_status (P := Adopted x₀) kind.admits e.1.beforeGet hs.stored
  rw [hstep]
  rcases PassInvariant.reconcilePass_cases s.1 e.1 with heq | ⟨o, pass, ho, hend, heq⟩
  · rw [heq] at hexecutions ⊢
    refine ⟨hsame, hstored, hexecutions, fun r hr st hst => ?_⟩
    rcases List.mem_cons.mp hr with rfl | hr
    · exact absurd hst List.not_mem_nil
    · exact hs.written r hr st hst
  · have hidentified : Identified run pass := by
      refine hend _ _ Identified.passInvariant ⟨fun o' ho' => hsame o' (ho ▸ ho'), hsame o ho, ?_⟩
      exact fun _ _ _ _ hmem => absurd hmem List.not_mem_nil
    have hsourcing : Sourcing (NotEndedIn x₀) e.1 pass := by
      have hread : ∀ o ∈ edits kind.admits e.1.beforeGet s.1.stored, ∀ s', Sourced (NotEndedIn x₀) s' o.status :=
        fun o ho _ => (hstored o ho).imp id .inl
      refine hend _ _ Sourcing.passInvariant ⟨fun o' ho' => hread o' (ho ▸ ho') _, hread o ho _, ?_, ?_⟩
      · exact fun _ hst => absurd hst List.not_mem_nil
      · exact fun _ _ _ _ hmem => absurd hmem List.not_mem_nil
    have hadopted : ∀ st, Sourced (NotEndedIn x₀) pass st → Adopted x₀ st := by
      rintro st (hnone | hknown | hanswered)
      · exact .inl hnone
      · exact .inr hknown
      · have hevents : (reconcilePass s.1 e.1).2.events = pass.events := by rw [heq]
        exact .inr (hanswered.notEndedIn hsourcing hidentified hevents hserved hs.executions hnew)
    rw [heq] at hexecutions ⊢
    refine ⟨hidentified.stored, fun o ho => hadopted _ (hsourcing.stored o ho), hexecutions, fun r hr st hst => ?_⟩
    rcases List.mem_cons.mp hr with rfl | hr
    · exact hadopted st (hsourcing.written st hst)
    · exact hs.written r hr st hst

/-- **A workflow run adopts no finished execution**, exactly when none is in the way of its start: `Start` returns an
execution of its own request or one that is open when it answers. In runs of passes whose starts find none in their way,
no status reports `Completed` for an execution that had ended when the object was new. -/
theorem adopts_no_finished_iff (rules : ReuseRules) {namespace_ requestID : String} {p : StartWorkflowParams}
    {request : StartRequest} (hrequest : startRequest namespace_ requestID p = some request) (x : Executions) :
    ((∀ t env, Served rules t request x env → ∀ id, startClient env namespace_ requestID p = .ok id →
      OwnOrOpen rules t request x id) ↔ Restartable rules request x) ∧
    ∀ (run : TemporalWorkflowRun) (x₀ : Executions) (s : RunWorld × Executions) (h : List RunReport), run.status = {} →
      (∀ r ∈ x₀.runs, r.requestId ≠ run.uid) →
      (adoptionSystem rules).Run (ServedRestartable rules) (⟨some run, ()⟩, x₀) s h →
      ∀ r ∈ h, ∀ st, Effect.statusWritten st ∈ r.events → st.phase = "Completed" →
        st.runID ≠ "" ∧ ∀ ended ∈ x₀.runs, ¬ ended.Open → ended.runID ≠ st.runID := by
  refine ⟨⟨fun hstart => ?_, fun hclear t env hserved id h => hserved.ownOrOpen hclear hrequest h⟩, ?_⟩
  · by_contra hclear
    obtain ⟨t, env, id, hserved, hclient, hnot⟩ := adopts_of_not_restartable hrequest hclear
    exact hnot (hstart t env hserved id hclient)
  · intro run x₀ s h hstatus hnew hrun r hr st hst hcompleted
    have hstart : Adopting run x₀ (⟨some run, ()⟩, x₀) [] := by
      refine ⟨?_, ?_, .refl x₀, fun r hr => absurd hr List.not_mem_nil⟩
      · rintro o ⟨⟩
        exact .refl run
      · rintro o ⟨⟩
        rw [hstatus]
        exact .inl ⟨rfl, by decide⟩
    have hadopting := hrun.invariant (I := Adopting run x₀) hstart fun s h e _ hs hserved => hs.pass hnew hserved
    exact (hadopting.written r hr st hst).resolve_left fun hnone => hnone.2 hcompleted

/-- The reuse policies of Temporal. -/
def temporalRules : ReuseRules
  | .rejectDuplicate, _ => false
  | .allowDuplicateFailedOnly, status => status ∈ [.failed, .canceled, .terminated, .timedOut]
  | .terminateIfRunning, _ => true
  | _, status => status ≠ .running

def reportRun (policy : String) : TemporalWorkflowRun where
  name := "report"
  uid := "uid"
  spec :=
    { clusterRef := { name := "dev", kind := "TemporalDevServer" }
      namespace_ := "default"
      workflow := { workflowType := "Report", taskQueue := "reports", workflowIDReusePolicy := policy } }
  status := {}

def reportParams (policy : String) : StartWorkflowParams where
  workflowType := "Report"
  taskQueue := "reports"
  workflowID := "report"
  args := []
  executionTimeout := none
  runTimeout := none
  taskTimeout := none
  idReusePolicy := policy
  retry := none
  memo := .empty
  searchAttributes := .empty

def reportRequest (policy : String) (reuse : IdReusePolicy) : StartRequest where
  namespace_ := "default"
  workflow := protoStartWorkflow (reportParams policy) reuse
  identity := workflowRunIdentity
  requestId := "uid"

def otherExecution (status : ExecutionStatus) : Executions where
  runs := [⟨⟨"other", "old"⟩, status⟩]
  nodup := List.nodup_singleton _
  named := List.forall_mem_singleton.mpr (show "old" ≠ "" by decide)

def reportEnv (start : Except RpcErr String) (runID : String) : RunEnv where
  target := { getDevServer := .ok { conditions := [⟨.ready, .true, "Ready", "", 1⟩] } }
  startExecution := fun _ => start
  describeExecution := fun _ => .ok { status := .completed, runID }

/-- The other execution has failed, so that a new one is started. -/
theorem adopts_no_finished_failed :
    let request := reportRequest "AllowDuplicateFailedOnly" .allowDuplicateFailedOnly
    let x := otherExecution .failed
    let t : Traffic := { meanwhile := [.closed "run" .completed] }
    let env := reportEnv (.ok "run") "run"
    let next := (adoptionSystem temporalRules).step (⟨some (reportRun "AllowDuplicateFailedOnly"), ()⟩, x) (env, t)
    OwnOrOpen temporalRules t request x "run" ∧
      ∃ o ∈ next.1.1.stored, Effect.statusWritten o.status ∈ next.2.events ∧ o.status.phase = "Completed" ∧
        ∀ ended ∈ x.runs, ¬ ended.Open → ended.runID ≠ o.status.runID := by
  intro request x t env next
  have hrequest : startRequest "default" "uid" (reportParams "AllowDuplicateFailedOnly") = some request := by
    decide +kernel
  have hserved : Served temporalRules t request x env := by
    refine ⟨by decide, ?_, rfl, ?_⟩
    · rintro e (herr | herr) <;> cases herr
    · intro response hresponse
      obtain rfl := Except.ok.inj hresponse
      exact ⟨⟨⟨"uid", "run"⟩, .completed⟩, by decide +kernel, rfl, rfl⟩
  have hclear : Restartable temporalRules request x := by
    rintro latest ⟨⟩ - -
    rfl
  have hclient : startClient env "default" "uid" (reportParams "AllowDuplicateFailedOnly") = .ok "run" := by
    decide +kernel
  have hevents : next.2.events.filterMap requestOf = [request] := by decide +kernel
  have hstep : ServedRestartable temporalRules (⟨some (reportRun "AllowDuplicateFailedOnly"), ()⟩, x) [] (env, t) := by
    intro ev hev request' hrequest'
    have hmem : request' ∈ [request] := hevents ▸ List.mem_filterMap.mpr ⟨ev, hev, hrequest'⟩
    obtain rfl := List.mem_singleton.mp hmem
    exact ⟨hserved, hclear⟩
  have hnew : ∀ r ∈ x.runs, r.requestId ≠ (reportRun "AllowDuplicateFailedOnly").uid := by decide
  have hwritten : ∃ o ∈ next.1.1.stored, Effect.statusWritten o.status ∈ next.2.events ∧
      o.status.phase = "Completed" := by decide +kernel
  obtain ⟨hiff, hruns⟩ := adopts_no_finished_iff temporalRules hrequest x
  obtain ⟨o, ho, hst, hcompleted⟩ := hwritten
  refine ⟨hiff.mpr hclear t env hserved "run" hclient, o, ho, hst, hcompleted, ?_⟩
  have hrun := System.Run.step (S := adoptionSystem temporalRules) (env, t) .start hstep
  exact (hruns _ x _ _ rfl hnew hrun _ List.mem_cons_self o.status hst hcompleted).2

/-- No second execution is allowed, and the other one has completed: the new object takes it for its own, and reports it
as completed. -/
theorem adopts_finished :
    let request := reportRequest "RejectDuplicate" .rejectDuplicate
    let x := otherExecution .completed
    let env := reportEnv (.error alreadyStarted) "old"
    let next := (adoptionSystem temporalRules).step (⟨some (reportRun "RejectDuplicate"), ()⟩, x) (env, {})
    workflowRunParams (reportRun "RejectDuplicate") = .ok (reportParams "RejectDuplicate") ∧
      startRequest "default" "uid" (reportParams "RejectDuplicate") = some request ∧
      Served temporalRules {} request x env ∧
      startClient env "default" "uid" (reportParams "RejectDuplicate") = .ok "old" ∧
      ¬ OwnOrOpen temporalRules {} request x "old" ∧
      ∃ o ∈ next.1.1.stored, Effect.statusWritten o.status ∈ next.2.events ∧ o.status.phase = "Completed" ∧
        ∃ ended ∈ x.runs, ¬ ended.Open ∧ ended.runID = o.status.runID := by
  intro request x env next
  have hserved : Served temporalRules {} request x env := by
    refine ⟨by decide, ?_, rfl, ?_⟩
    · rintro e (herr | herr) <;> cases herr
    · intro response hresponse
      obtain rfl := Except.ok.inj hresponse
      exact ⟨⟨⟨"other", "old"⟩, .completed⟩, by decide +kernel, rfl, rfl⟩
  have hnot : ¬ OwnOrOpen temporalRules {} request x "old" := by
    unfold OwnOrOpen
    decide +kernel
  exact ⟨by decide, by decide +kernel, hserved, by decide +kernel, hnot, by decide +kernel⟩

end TemporalOperator.Satellite.WorkflowRun
