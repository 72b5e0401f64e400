import TemporalOperator.Satellite.WorkflowRun

/-!
# What a pass over a workflow run can do

The controller is walked through once. Whatever is to be shown of a pass is given as a condition `I` on the pass so far
and a condition `J` on its end; `PassInvariant` lists the steps that have to keep them, and when each step is taken.

* `Issues` : the calls a pass makes, by the object in memory; `Advance` : the ways it changes the status of a running
  one;
* `HasRun` : where the run ID in memory is from;
* `PassInvariant.reconcileObject` : with every step, the pass keeps the condition; `StatusStep`,
  `PassInvariant.of_steps` : the case of one condition throughout.
-/

namespace TemporalOperator.Satellite.WorkflowRun
open Lib Proc

/-- The calls that are made for the object in memory. -/
def Issues (env : RunEnv) (run : TemporalWorkflowRun) : RunCall → Prop
  | .start namespace_ requestID params answer =>
    namespace_ = run.spec.namespace_ ∧ requestID = run.uid ∧ workflowRunParams run = .ok params ∧
      answer = startClient env namespace_ requestID params
  | .describe namespace_ workflowID runID _ =>
    namespace_ = run.spec.namespace_ ∧ workflowID = resolveWorkflowID run ∧ runID = run.status.runID
  | .cancel namespace_ workflowID runID _ _ =>
    namespace_ = run.spec.namespace_ ∧ workflowID = resolveWorkflowID run ∧ runID = run.status.runID
  | .terminate namespace_ workflowID runID _ _ =>
    namespace_ = run.spec.namespace_ ∧ workflowID = resolveWorkflowID run ∧ runID = run.status.runID

/-- A start has been answered with the run ID. -/
def StartAnswered (s : RunPass) (runID : String) : Prop :=
  ∃ namespace_ requestID params, Effect.call (.start namespace_ requestID params (.ok runID)) ∈ s.events

theorem StartAnswered.call {s : RunPass} {runID : String} (h : StartAnswered s runID) (c : RunCall) :
    StartAnswered { s with events := .call c :: s.events } runID := by
  obtain ⟨namespace_, requestID, params, hmem⟩ := h
  exact ⟨namespace_, requestID, params, List.mem_cons_of_mem _ hmem⟩

/-- The run ID in memory is one that the object had, or the answer to a start. -/
def HasRun (s : RunPass) : Prop := s.obj.status.runID ≠ "" ∨ StartAnswered s s.obj.status.runID

/-- The new status of an object that is not finished. -/
inductive Advance (s : RunPass) : TemporalWorkflowRunStatus → Prop
  | started (runID : String) (hrunID : s.obj.status.runID = "") (hanswered : StartAnswered s runID) :
      Advance s (startedStatus s.obj runID)
  | observed (info : WorkflowExecutionInfo) (hrun : HasRun s) : Advance s (observedStatus s.obj.status info)

theorem Advance.completionTime {s : RunPass} {st : TemporalWorkflowRunStatus} (h : Advance s st) :
    st.completionTime = s.obj.status.completionTime := by
  cases h <;> rfl

/-- The new status of an object. -/
inductive StatusStep (s : RunPass) : TemporalWorkflowRunStatus → Prop
  | ready (status : ConditionStatus) (reason message : String) :
      StatusStep s (readyStatus s.obj status reason message)
  | advance {st : TemporalWorkflowRunStatus} (h : Advance s st) : StatusStep s st
  | finished (info : WorkflowExecutionInfo) (now : GoTime) : StatusStep s (finishedStatus s.obj info now)

def Unfinished (s : RunPass) : Prop := s.obj.status.completionTime = none

/-- `I` is kept by every step of a pass up to its last ones, which lead to `J`. -/
structure PassInvariant (env : RunEnv) (I J : RunPass → Prop) : Prop where
  weaken : ∀ s, I s → J s
  ready : ∀ s status reason message, I s →
    I { s with obj := { s.obj with status := readyStatus s.obj status reason message } }
  finalizers : ∀ s fs, I s → I { s with obj := { s.obj with finalizers := fs } }
  advance : ∀ s st, Advance s st → Unfinished s → I s → I { s with obj := { s.obj with status := st } }
  call : ∀ s c, Issues env s.obj c → Unfinished s → I s → I { s with events := .call c :: s.events }
  update : Keeps I (updateObject kind env.toKubeEnv)
  statusUpdate : Keeps I (statusUpdate kind env.toKubeEnv)
  cleanup : Triple (fun s => I s ∧ ¬ Unfinished s) (ttlCleanup env) (fun _ => J) fun e s => J s ∧ e.transient = false
  finish : ∀ info, Triple (fun s => I s ∧ Unfinished s) (finishRun env info) (fun _ => J)
    fun e s => J s ∧ e.transient = false

namespace PassInvariant

variable {env : RunEnv} {I J : RunPass → Prop}

theorem setReady (h : PassInvariant env I J) (status : ConditionStatus) (reason message : String) :
    Keeps I (setReady status reason message) :=
  triple_modify fun s hs => h.ready s status reason message hs

/-- The status is written with a new `Ready` condition, and the pass ends. -/
theorem report (h : PassInvariant env I J) {status : ConditionStatus} {reason message : String} {requeue : GoDuration} :
    Keeps I (do
      WorkflowRun.setReady status reason message
      Satellite.statusUpdate kind env.toKubeEnv
      return requeue) :=
  triple_bind (h.setReady status reason message) fun _ =>
    triple_bind h.statusUpdate fun _ => triple_pure fun _ hs => hs

theorem removeFinalizer (h : PassInvariant env I J) : Keeps I (removeFinalizer env) :=
  keeps_dropFinalizer h.finalizers h.update

theorem issue (h : PassInvariant env I J) {run : TemporalWorkflowRun} {α : Type} {call : Except Err α → RunCall}
    {answer : Except Err α} (hissues : Issues env run (call answer)) :
    Triple (fun s => s.obj = run ∧ I s ∧ Unfinished s) (issue call answer) (fun _ s => s.obj = run ∧ I s ∧ Unfinished s)
      fun _ => I := by
  refine triple_bind (triple_modify (Q := fun _ s => s.obj = run ∧ I s ∧ Unfinished s) ?_) fun _ => ?_
  · rintro s ⟨rfl, hI, hunfinished⟩
    exact ⟨rfl, h.call s _ hissues hunfinished hI, hunfinished⟩
  · intro s hs
    cases answer with
    | ok a => exact hs
    | error e => exact hs.2.1

/-- The call is recorded with its answer. -/
theorem issue_recorded {P : RunPass → Prop} {α : Type} {call : Except Err α → RunCall} {answer : Except Err α} :
    Triple P (Satellite.issue call answer) (fun a s => Effect.call (call (.ok a)) ∈ s.events) fun _ _ => True := by
  intro s _
  cases answer with
  | ok a => exact List.mem_cons_self
  | error e => trivial

theorem issue_hasRun {α : Type} {call : Except Err α → RunCall} {answer : Except Err α} :
    Keeps HasRun (Satellite.issue call answer) := by
  refine triple_bind (triple_modify (Q := fun _ => HasRun) fun s hs => ?_) fun _ => triple_ofExcept
  exact hs.imp id fun hs => hs.call _

/-! ## Starting and refreshing -/

theorem startRun (h : PassInvariant env I J) {run : TemporalWorkflowRun} {params : StartWorkflowParams}
    (hparams : workflowRunParams run = .ok params) (hrunID : run.status.runID = "") :
    Triple (fun s => s.obj = run ∧ I s ∧ Unfinished s) (startRun env params)
      (fun _ s => (I s ∧ Unfinished s) ∧ HasRun s) fun _ => I := by
  refine triple_bind triple_get fun a => ?_
  rintro s ⟨rfl, rfl, hI, hunfinished⟩
  have hissues : Issues env a.obj (.start a.obj.spec.namespace_ a.obj.uid params
      (startClient env a.obj.spec.namespace_ a.obj.uid params)) := ⟨rfl, rfl, hparams, rfl⟩
  have hissue := ((h.issue hissues).and (issue_recorded (P := fun _ => True))).errors fun _ _ hs => hs.1
  refine triple_bind (triple_mapError hissue) (fun runID => ?_) a ⟨⟨rfl, hI, hunfinished⟩, trivial⟩
  refine triple_bind (triple_modify (Q := fun _ s => (I s ∧ Unfinished s) ∧ HasRun s) ?_) fun _ => triple_modify ?_
  · rintro s ⟨⟨hobj, hI, hunfinished⟩, hrecorded⟩
    have hanswered : StartAnswered s runID := ⟨_, _, _, hrecorded⟩
    have hempty : s.obj.status.runID = "" := by rw [hobj]; exact hrunID
    exact ⟨⟨h.advance s _ (.started runID hempty hanswered) hunfinished hI, hunfinished⟩, .inr hanswered⟩
  · rintro s ⟨⟨hI, hunfinished⟩, hrun⟩
    exact ⟨⟨h.ready s _ _ _ hI, hunfinished⟩, hrun⟩

theorem refreshRun (h : PassInvariant env I J) :
    Triple (fun s => (I s ∧ Unfinished s) ∧ HasRun s) (refreshRun env) (fun _ => J)
      fun e s => J s ∧ (e.transient = true → I s) := by
  refine triple_bind triple_get fun a => ?_
  refine triple_bind (Q := fun _ s => (I s ∧ Unfinished s) ∧ HasRun s) ?_ fun info => ?_
  · have hissues : ∀ answer, Issues env a.obj
        (.describe a.obj.spec.namespace_ (resolveWorkflowID a.obj) a.obj.status.runID answer) :=
      fun _ => ⟨rfl, rfl, rfl⟩
    have hissue := ((h.issue (hissues (describeClient env 1))).and issue_hasRun).errors fun _ _ hs => hs.1
    refine (triple_mapError hissue).conseq ?_ (fun _ _ hs => ⟨hs.1.2, hs.2⟩) ?_
    · rintro s ⟨rfl, ⟨hI, hunfinished⟩, hrun⟩
      exact ⟨⟨rfl, hI, hunfinished⟩, hrun⟩
    · exact fun _ s hs => ⟨h.weaken s hs, fun _ => hs⟩
  · refine triple_bind (triple_modify (Q := fun _ s => I s ∧ Unfinished s) ?_) fun _ => ?_
    · rintro s ⟨⟨hI, hunfinished⟩, hrun⟩
      exact ⟨h.advance s _ (.observed info hrun) hunfinished hI, hunfinished⟩
    · split
      · -- the execution is closed
        refine (h.finish info).conseq (fun _ hs => hs) (fun _ _ hs => hs) fun e s hs => ⟨hs.1, fun he => ?_⟩
        rw [hs.2] at he
        cases he
      · exact h.report.conseq (fun _ hs => hs.1) (fun _ s hs => h.weaken s hs)
          fun _ s hs => ⟨h.weaken s hs, fun _ => hs⟩

theorem reconcileRun (h : PassInvariant env I J) (policy : WorkflowRunPolicy) :
    Triple I (reconcileRun env policy) (fun _ => J) fun e s => J s ∧ (e.transient = true → I s) := by
  have hreport : ∀ {status reason message requeue}, Triple I (do
      WorkflowRun.setReady status reason message
      Satellite.statusUpdate kind env.toKubeEnv
      return requeue) (fun _ => J) fun e s => J s ∧ (e.transient = true → I s) :=
    h.report.conseq (fun _ hs => hs) (fun _ s hs => h.weaken s hs) fun _ s hs => ⟨h.weaken s hs, fun _ => hs⟩
  refine triple_bind triple_get fun a => ?_
  dsimp only
  split
  · rename_i hfinished
    refine h.cleanup.conseq ?_ (fun _ _ hs => hs) fun e s hs => ⟨hs.1, fun he => ?_⟩
    · rintro s ⟨rfl, hI⟩
      refine ⟨hI, fun hunfinished => ?_⟩
      rw [hunfinished] at hfinished
      cases hfinished
    · rw [hs.2] at he
      cases he
  · rename_i hrunning
    have hunfinished : ∀ s, a = s ∧ I s → I s ∧ Unfinished s := by
      rintro s ⟨rfl, hI⟩
      exact ⟨hI, Option.not_isSome_iff_eq_none.mp hrunning⟩
    split
    · rename_i hrunID
      split
      · exact hreport.pre fun _ hs => hs.2
      · split
        · exact hreport.pre fun _ hs => hs.2
        · rename_i params hparams
          refine triple_bind ((h.startRun hparams hrunID).conseq ?_ (fun _ _ hs => hs) ?_) fun _ => h.refreshRun
          · intro s hs
            exact ⟨by rw [hs.1], hunfinished s hs⟩
          · exact fun _ s hs => ⟨h.weaken s hs, fun _ => hs⟩
    · rename_i hrunID
      refine h.refreshRun.pre fun s hs => ⟨hunfinished s hs, .inl ?_⟩
      rw [← hs.1]
      exact hrunID

/-! ## Deletion and the whole pass -/

theorem ignoreWorkflowNotFound {m : Proc RunPass Err Unit} {pre : String} {P : RunPass → Prop}
    (hm : Triple P m (fun _ => I) fun _ => I) : Triple P (ignoreWorkflowNotFound pre m) (fun _ => I) fun _ => I := by
  refine triple_attempt_bind hm (fun _ => triple_pure fun _ hs => hs) fun e => ?_
  cases e with
  | notFound text => exact triple_pure fun _ hs => hs
  | rpc e => exact triple_throw fun _ hs => hs
  | other e => exact triple_throw fun _ hs => hs

theorem applyCancellationPolicy (h : PassInvariant env I J) (run : TemporalWorkflowRun) :
    Triple (fun s => s.obj = run ∧ I s) (applyCancellationPolicy env run) (fun _ => I) fun _ => I := by
  unfold WorkflowRun.applyCancellationPolicy
  split
  · rename_i hrunning
    have hissued : ∀ {call : Except Err Unit → RunCall} {answer : Except Err Unit}, Issues env run (call answer) →
        Triple (fun s => s.obj = run ∧ I s) (Satellite.issue call answer) (fun _ => I) fun _ => I := by
      intro call answer hissues
      refine (h.issue hissues).conseq ?_ (fun _ _ hs => hs.2.1) fun _ _ hs => hs
      rintro s ⟨rfl, hI⟩
      exact ⟨rfl, hI, hrunning.2⟩
    split
    · exact triple_pure fun _ hs => hs.2
    · exact ignoreWorkflowNotFound (hissued ⟨rfl, rfl, rfl⟩)
    · exact ignoreWorkflowNotFound (hissued ⟨rfl, rfl, rfl⟩)
  · exact triple_pure fun _ hs => hs.2

theorem reconcileDelete (h : PassInvariant env I J) : Keeps I (reconcileDelete env) := by
  refine triple_bind triple_get fun a => ?_
  dsimp only
  split
  · refine triple_bind ((h.applyCancellationPolicy a.obj).pre ?_) fun _ => h.removeFinalizer
    rintro s ⟨rfl, hI⟩
    exact ⟨rfl, hI⟩
  · exact triple_pure fun _ hs => hs.2

theorem reconcilePresent (h : PassInvariant env I J) (target : ResolvedTarget) :
    Triple I (reconcilePresent env target) (fun _ => J) fun _ => J := by
  have hreport : ∀ {status reason message requeue}, Triple I (do
      WorkflowRun.setReady status reason message
      Satellite.statusUpdate kind env.toKubeEnv
      return requeue) (fun _ => J) fun _ => J :=
    h.report.conseq (fun _ hs => hs) (fun _ => h.weaken) fun _ => h.weaken
  have hfinalizer : Triple I (ensureFinalizer kind env.toKubeEnv) (fun _ => I) fun _ => J :=
    (keeps_ensureFinalizer h.finalizers h.update).conseq (fun _ hs => hs) (fun _ _ hs => hs) fun _ => h.weaken
  refine triple_bind hfinalizer fun _ => ?_
  split
  · exact hreport
  · refine triple_attempt_bind (h.reconcileRun _) (fun _ => triple_pure fun _ hs => hs) fun e => ?_
    dsimp only
    split
    · rename_i htransient
      exact hreport.pre fun _ hs => hs.2 htransient
    · exact triple_throw fun _ hs => hs.1

theorem reconcileObject (h : PassInvariant env I J) : Triple I (reconcileObject env) (fun _ => J) fun _ => J := by
  have hend : ∀ {m : Proc RunPass Err GoDuration}, Keeps I m → Triple I m (fun _ => J) fun _ => J :=
    fun hm => hm.conseq (fun _ hs => hs) (fun _ => h.weaken) fun _ => h.weaken
  refine triple_bind triple_get fun a => Triple.pre ?_ fun _ hs => hs.2
  dsimp only
  split
  · split
    · exact hend (triple_bind h.removeFinalizer fun _ => triple_pure fun _ hs => hs)
    · exact hend h.report
  · exact triple_throw h.weaken
  · split
    · exact triple_throw h.weaken
    · split
      · exact hend (triple_bind h.reconcileDelete fun _ => triple_pure fun _ hs => hs)
      · exact h.reconcilePresent _

/-! ## Conditions that do not depend on the outcome -/

/-- Errors of the API server are not taken for a frontend that is away. -/
theorem transient_statusUpdate (env : RunEnv) (P : RunPass → Prop) :
    Triple P (Satellite.statusUpdate kind env.toKubeEnv) (fun _ _ => True) fun e _ => e.transient = false := by
  have hwrite : Triple P (updateStatusObject kind env.toKubeEnv) (fun _ _ => True) fun e _ => e.transient = false :=
    triple_write (fun _ _ _ => rfl) (fun _ _ _ _ _ _ => rfl) fun _ _ _ _ _ => trivial
  exact (triple_ignoreNotFound hwrite).conseq (fun _ hs => hs) (fun _ _ _ => trivial) fun _ _ hs => hs

/-- A condition that every single step keeps. -/
theorem of_steps (status : ∀ s st, StatusStep s st → I s → I { s with obj := { s.obj with status := st } })
    (finalizers : ∀ s fs, I s → I { s with obj := { s.obj with finalizers := fs } })
    (call : ∀ s c, Issues env s.obj c → I s → I { s with events := .call c :: s.events })
    (update : Keeps I (updateObject kind env.toKubeEnv))
    (statusUpdate : Keeps I (Satellite.statusUpdate kind env.toKubeEnv))
    (delete : Triple I (deleteObject kind env.toKubeEnv) (fun _ => I) fun e s => I s ∧ e.transient = false) :
    PassInvariant env I I := by
  have hcleanup : Triple I (ttlCleanup env) (fun _ => I) fun e s => I s ∧ e.transient = false := by
    refine triple_bind triple_get fun a => Triple.pre ?_ fun _ hs => hs.2
    dsimp only
    split
    · split
      · exact triple_pure fun _ hs => hs
      · refine triple_bind ((triple_ignoreNotFound delete).conseq (fun _ hs => hs) ?_ fun _ _ hs => hs)
          fun _ => triple_pure fun _ hs => hs
        rintro _ s (hs | ⟨-, -, hs, -⟩) <;> exact hs
    · exact triple_pure fun _ hs => hs
  have hfinish : ∀ info, Triple I (finishRun env info) (fun _ => I) fun e s => I s ∧ e.transient = false := by
    intro info
    refine triple_bind (triple_modify (Q := fun _ => I) fun s hs => status s _ (.finished info env.now) hs) fun _ => ?_
    refine triple_bind triple_get fun a => ?_
    refine triple_bind (triple_modify (Q := fun _ => I) fun s hs => status s _ (.ready _ _ _) hs.2) fun _ => ?_
    have hwrite := statusUpdate.and (transient_statusUpdate env I)
    exact triple_bind (hwrite.conseq (fun _ hs => ⟨hs, hs⟩) (fun _ _ hs => hs.1) fun _ _ hs => hs) fun _ => hcleanup
  exact
    { weaken := fun _ hs => hs
      ready := fun s _ _ _ hs => status s _ (.ready _ _ _) hs
      finalizers := finalizers
      advance := fun s _ hadvance _ hs => status s _ (.advance hadvance) hs
      call := fun s c hissues _ hs => call s c hissues hs
      update := update
      statusUpdate := statusUpdate
      cleanup := hcleanup.pre fun _ hs => hs.1
      finish := fun info => (hfinish info).pre fun _ hs => hs.1 }

/-- What a condition that is kept says of a pass that reads an object. -/
theorem reconcilePass_cases (w : RunWorld) (env : RunEnv) :
    reconcilePass w env = (⟨edits kind.admits env.beforeGet w.stored, w.remote⟩, ⟨env, none, []⟩) ∨
      ∃ (o : TemporalWorkflowRun) (s : RunPass), edits kind.admits env.beforeGet w.stored = some o ∧
        (∀ I J : RunPass → Prop, PassInvariant env I J → I { stored := some o, obj := o, remote := w.remote } → J s) ∧
        reconcilePass w env = (⟨s.stored, s.remote⟩, ⟨env, some o, s.events⟩) := by
  rcases pass_cases kind RunEnv.toKubeEnv WorkflowRun.reconcileObject w env with h | ⟨o, s, -, ho, rfl, h⟩
  · exact .inl h
  · exact .inr ⟨o, _, ho, fun _ _ hI hstart => hI.reconcileObject.exec hstart, h⟩

end PassInvariant

end TemporalOperator.Satellite.WorkflowRun
