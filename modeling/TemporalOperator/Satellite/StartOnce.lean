import TemporalOperator.Satellite.Cancellation

/-!
# A workflow run starts once

Every start that passes make for an object goes to the same workflow ID and carries the object's UID as its request ID.
The frontend answers a start with the latest execution of the workflow ID if that was created by the same request.
Whether a start gets to the frontend is independent of its answer: any call may fail before or after it has taken
effect.

* `Execution`, `Frontend`, `startExecution` : the executions that the frontend has, and what a request makes of them;
* `startRequest` : what the client sends; `frontendSystem` : passes over one object, and the frontend;
* `Identified` : all starts of a pass are the same request; `StartedOnce` : what they make of the executions;
* `workflow_starts_once` : over whole runs.
-/

namespace TemporalOperator.Satellite.WorkflowRun
open Lib Proc

/-! ## The frontend -/

/-- An execution, by the request that created it. -/
structure Execution where
  requestId : String
  runID : String
  deriving DecidableEq, Repr

/-- The executions of a workflow ID in a namespace, the latest first. -/
abbrev Frontend := String → String → List Execution

structure StartIO where
  /-- The request gets to the frontend. -/
  arrives : Bool := true
  /-- The reuse policy and the state of the latest execution let another one be started. -/
  reusable : Bool := true
  runID : String := "run"
  deriving DecidableEq, Repr

/-- The executions after `StartWorkflowExecution`. -/
def startExecution (io : StartIO) (request : StartRequest) (f : Frontend) : Frontend :=
  let known := f request.namespace_ request.workflow.workflowId
  let started := Function.update f request.namespace_
    (Function.update (f request.namespace_) request.workflow.workflowId
      ({ requestId := request.requestId, runID := io.runID } :: known))
  match known with
  | [] => started
  | latest :: _ =>
    -- the same request again is answered with the latest execution
    if latest.requestId = request.requestId then f
    else if io.reusable then started
    else f

/-- The request of the client's `Start`. -/
def startRequest (namespace_ requestID : String) (p : StartWorkflowParams) : Option StartRequest :=
  (reusePolicies.lookup p.idReusePolicy).map fun reuse =>
    { namespace_, workflow := protoStartWorkflow p reuse, identity := workflowRunIdentity, requestId := requestID }

/-- What the client makes of the frontend's answer. -/
theorem startClient_eq {env : RunEnv} {namespace_ requestID : String} {p : StartWorkflowParams} {request : StartRequest}
    (h : startRequest namespace_ requestID p = some request) :
    startClient env namespace_ requestID p =
      match env.startExecution request with
      | .ok runID => .ok runID
      | .error e =>
        if e.code = .alreadyExists then (describeClient env 0).map (·.runID) else .error (.rpc e) := by
  obtain ⟨reuse, hreuse, rfl⟩ := Option.map_eq_some_iff.mp h
  unfold startClient
  split
  · rename_i hnone
    rw [hreuse] at hnone
    cases hnone
  · rename_i reuse' hreuse'
    obtain rfl := Option.some.inj (hreuse.symm.trans hreuse')
    rfl

def effect (io : StartIO) : RunEffect → Frontend → Frontend
  | .call (.start namespace_ requestID params _), f =>
    match startRequest namespace_ requestID params with
    | none => f
    | some request => if io.arrives then startExecution io request f else f
  | _, f => f

def frontendSystem : System (RunWorld × Frontend) (RunEnv × StartIO) RunReport where
  step s e :=
    let out := reconcilePass s.1 e.1
    ((out.1, out.2.events.foldr (effect e.2) s.2), out.2)

/-! ## One request -/

/-- The object that `run` was, as far as its starts go. -/
structure SameRun (run o : TemporalWorkflowRun) : Prop extends SameWorkflow run o where
  uid : o.uid = run.uid

theorem SameRun.refl (run : TemporalWorkflowRun) : SameRun run run := ⟨.refl run, rfl⟩

theorem SameRun.congr {run o o' : TemporalWorkflowRun} (h : SameRun run o) (hname : o'.name = o.name)
    (hspec : o'.spec = o.spec) (huid : o'.uid = o.uid) : SameRun run o' :=
  ⟨h.toSameWorkflow.congr hname hspec, huid.trans h.uid⟩

theorem SameRun.edited {run : TemporalWorkflowRun} {stored : Option TemporalWorkflowRun}
    (h : ∀ o ∈ stored, SameRun run o) (es : List (Edit TemporalWorkflowRunSpec)) :
    ∀ o ∈ edits kind.admits es stored, SameRun run o := by
  refine edits_induction (I := SameRun run) (fun o e o' ho he => ⟨ho.toSameWorkflow.edited he, ?_⟩) es h
  obtain rfl | ⟨spec, finalizers, generation, -, rfl⟩ | rfl := Edit.apply_cases he <;> exact ho.uid

/-- The starts among the events are the start of `run`. -/
def StartsAs (run : TemporalWorkflowRun) (events : List RunEffect) : Prop :=
  ∀ namespace_ requestID params answer, Effect.call (.start namespace_ requestID params answer) ∈ events →
    namespace_ = run.spec.namespace_ ∧ requestID = run.uid ∧ params.workflowID = resolveWorkflowID run

theorem StartsAs.cons {run : TemporalWorkflowRun} {events : List RunEffect} (h : StartsAs run events) {e : RunEffect}
    (he : ∀ c, e ≠ .call c) : StartsAs run (e :: events) := by
  intro namespace_ requestID params answer hmem
  rcases List.mem_cons.mp hmem with heq | hmem
  · exact absurd heq.symm (he _)
  · exact h _ _ _ _ hmem

/-- A pass over the object that `run` was. -/
structure Identified (run : TemporalWorkflowRun) (s : RunPass) : Prop where
  stored : ∀ o ∈ s.stored, SameRun run o
  obj : SameRun run s.obj
  starts : StartsAs run s.events

section Identified

variable {run : TemporalWorkflowRun} {env : RunEnv}

theorem Identified.edited {s : RunPass} (h : Identified run s) (es : List (Edit TemporalWorkflowRunSpec)) :
    Identified run { s with stored := edits kind.admits es s.stored } :=
  ⟨SameRun.edited h.stored es, h.obj, h.starts⟩

theorem Identified.wrote {s : RunPass} (h : Identified run s) {o : TemporalWorkflowRun} {event : RunEffect}
    (ho : SameRun run o) (hevent : ∀ c, event ≠ .call c) :
    Identified run { s with stored := o.orGone, events := event :: s.events } ∧
      Identified run { s with stored := o.orGone, events := event :: s.events, obj := o } := by
  have hstored : ∀ o' ∈ o.orGone, SameRun run o' := by
    intro o' ho'
    rw [Object.orGone_eq_some ho']
    exact ho
  exact ⟨⟨hstored, h.obj, h.starts.cons hevent⟩, ⟨hstored, ho, h.starts.cons hevent⟩⟩

theorem Identified.passInvariant : PassInvariant env (Identified run) (Identified run) := by
  refine PassInvariant.of_steps ?_ ?_ ?_ ?_ ?_ ?_
  · exact fun s st _ hs => ⟨hs.stored, hs.obj.congr rfl rfl rfl, hs.starts⟩
  · exact fun s fs hs => ⟨hs.stored, hs.obj.congr rfl rfl rfl, hs.starts⟩
  · intro s c hissues hs
    refine ⟨hs.stored, hs.obj, fun namespace_ requestID params answer hmem => ?_⟩
    rcases List.mem_cons.mp hmem with heq | hmem
    · cases heq
      obtain ⟨rfl, rfl, hparams, -⟩ := hissues
      exact ⟨hs.obj.namespace_, hs.obj.uid, (workflowRunParams_workflowID hparams).trans hs.obj.workflowID⟩
    · exact hs.starts _ _ _ _ hmem
  · have hwritten : ∀ s cur, Identified run s → SameRun run (s.obj.written cur) :=
      fun s cur hs => hs.obj.congr rfl rfl rfl
    exact triple_write (fun s _ hs => hs.edited _)
      (fun s cur _ hs _ _ => (hs.wrote (hwritten s cur hs) fun _ heq => by cases heq).1)
      fun s cur hs _ _ => (hs.wrote (hwritten s cur hs) fun _ heq => by cases heq).2
  · have hwritten : ∀ s cur, Identified run s → cur ∈ edits kind.admits env.beforeStatus s.stored →
        SameRun run (Object.writtenStatus s.obj.status.persist cur) :=
      fun s cur hs hcur => ((hs.edited env.beforeStatus).stored cur hcur).congr rfl rfl rfl
    exact keeps_ignoreNotFound <| triple_write (fun s _ hs => hs.edited _)
      (fun s cur _ hs hcur _ => (hs.wrote (hwritten s cur hs hcur) fun _ heq => by cases heq).1)
      fun s cur hs hcur _ => (hs.wrote (hwritten s cur hs hcur) fun _ heq => by cases heq).2
  · refine triple_deleteObject (fun s hs => hs.edited _) fun s o hs ho => ?_
    have hmarked := (hs.edited env.beforeDelete).edited [.delete]
    rw [ho, edits_delete] at hmarked
    exact ⟨hmarked.stored, hs.obj, hs.starts.cons fun _ heq => by cases heq⟩

end Identified

/-! ## The executions of an object -/

/-- At most one execution has been added to those of `f₀`, by the request of `run` and under its workflow ID. -/
structure StartedOnce (run : TemporalWorkflowRun) (f₀ f : Frontend) : Prop where
  elsewhere : ∀ namespace_ workflowID, namespace_ ≠ run.spec.namespace_ ∨ workflowID ≠ resolveWorkflowID run →
    f namespace_ workflowID = f₀ namespace_ workflowID
  here : f run.spec.namespace_ (resolveWorkflowID run) = f₀ run.spec.namespace_ (resolveWorkflowID run) ∨
    ∃ runID, f run.spec.namespace_ (resolveWorkflowID run) =
      { requestId := run.uid, runID } :: f₀ run.spec.namespace_ (resolveWorkflowID run)

section StartedOnce

variable {run : TemporalWorkflowRun} {f₀ f : Frontend}

/-- The request of `run` starts an execution only if the latest is not that of `run`. -/
theorem StartedOnce.startExecution (h : StartedOnce run f₀ f) (io : StartIO) {request : StartRequest}
    (hnamespace : request.namespace_ = run.spec.namespace_)
    (hworkflow : request.workflow.workflowId = resolveWorkflowID run)
    (hrequest : request.requestId = run.uid) : StartedOnce run f₀ (startExecution io request f) := by
  have hstarted (hnone : f run.spec.namespace_ (resolveWorkflowID run) =
      f₀ run.spec.namespace_ (resolveWorkflowID run)) :
      StartedOnce run f₀ (Function.update f run.spec.namespace_
        (Function.update (f run.spec.namespace_) (resolveWorkflowID run)
          ({ requestId := run.uid, runID := io.runID } :: f run.spec.namespace_ (resolveWorkflowID run)))) := by
    refine ⟨fun namespace_ workflowID hother => ?_, .inr ⟨io.runID, ?_⟩⟩
    · by_cases hn : namespace_ = run.spec.namespace_
      · subst hn
        rw [Function.update_self, Function.update_of_ne (hother.resolve_left (not_not_intro rfl))]
        exact h.elsewhere _ _ hother
      · rw [Function.update_of_ne hn]
        exact h.elsewhere _ _ hother
    · rw [Function.update_self, Function.update_self, hnone]
  unfold WorkflowRun.startExecution
  rw [hnamespace, hworkflow, hrequest]
  dsimp only
  rcases h.here with hnone | ⟨runID, hknown⟩
  · split
    · exact hstarted hnone
    · split
      · exact h
      · split
        · exact hstarted hnone
        · exact h
  · -- the execution of an earlier pass is the latest one
    rw [hknown]
    dsimp only
    rw [if_pos rfl]
    exact h

theorem StartedOnce.effect (h : StartedOnce run f₀ f) (io : StartIO) {e : RunEffect} (he : StartsAs run [e]) :
    StartedOnce run f₀ (effect io e f) := by
  unfold WorkflowRun.effect
  split
  · rename_i namespace_ requestID params answer
    obtain ⟨hnamespace, hrequest, hworkflow⟩ := he _ _ _ _ List.mem_cons_self
    split
    · exact h
    · rename_i request hsent
      obtain ⟨reuse, -, hsent⟩ := Option.map_eq_some_iff.mp hsent
      split
      · refine h.startExecution io ?_ ?_ ?_
        · rw [← hsent]
          exact hnamespace
        · rw [← hsent]
          exact hworkflow
        · rw [← hsent]
          exact hrequest
      · exact h
  · exact h

theorem StartedOnce.effects (h : StartedOnce run f₀ f) (io : StartIO) {events : List RunEffect}
    (hstarts : StartsAs run events) : StartedOnce run f₀ (events.foldr (WorkflowRun.effect io) f) := by
  induction events with
  | nil => exact h
  | cons e events ih =>
    refine (ih fun _ _ _ _ hmem => hstarts _ _ _ _ (List.mem_cons_of_mem _ hmem)).effect io ?_
    exact fun _ _ _ _ hmem => hstarts _ _ _ _ (List.mem_cons.mpr (.inl (List.mem_singleton.mp hmem)))

/-- All that has been started, at every place. -/
theorem StartedOnce.started (h : StartedOnce run f₀ f) (namespace_ workflowID : String) :
    ∃ started, f namespace_ workflowID = started ++ f₀ namespace_ workflowID ∧ started.length ≤ 1 ∧
      (started ≠ [] → namespace_ = run.spec.namespace_ ∧ workflowID = resolveWorkflowID run) := by
  by_cases hother : namespace_ ≠ run.spec.namespace_ ∨ workflowID ≠ resolveWorkflowID run
  · exact ⟨[], h.elsewhere _ _ hother, Nat.zero_le 1, fun hne => absurd rfl hne⟩
  · rw [not_or, not_not, not_not] at hother
    obtain ⟨rfl, rfl⟩ := hother
    rcases h.here with hnone | ⟨runID, hknown⟩
    · exact ⟨[], hnone, Nat.zero_le 1, fun hne => absurd rfl hne⟩
    · exact ⟨[_], hknown, Nat.le_refl 1, fun _ => ⟨rfl, rfl⟩⟩

end StartedOnce

/-! ## Runs -/

/-- What is known of the object and of its executions between two passes. -/
structure Startable (run : TemporalWorkflowRun) (f₀ : Frontend) (s : RunWorld × Frontend) : Prop where
  stored : ∀ o ∈ s.1.stored, SameRun run o
  once : StartedOnce run f₀ s.2

theorem Startable.pass {run : TemporalWorkflowRun} {f₀ : Frontend} {s : RunWorld × Frontend} (h : Startable run f₀ s)
    (env : RunEnv) (io : StartIO) : Startable run f₀ (frontendSystem.step s (env, io)).1 := by
  have hedited := SameRun.edited h.stored env.beforeGet
  have hstep : (frontendSystem.step s (env, io)).1 =
      ((reconcilePass s.1 env).1, (reconcilePass s.1 env).2.events.foldr (effect io) s.2) := rfl
  rw [hstep]
  rcases PassInvariant.reconcilePass_cases s.1 env with heq | ⟨o, s', ho, hend, heq⟩
  · rw [heq]
    exact ⟨hedited, h.once⟩
  · have hs' : Identified run s' := by
      refine hend _ _ Identified.passInvariant ⟨fun o' ho' => hedited o' (ho ▸ ho'), hedited o ho, ?_⟩
      exact fun _ _ _ _ hmem => absurd hmem List.not_mem_nil
    rw [heq]
    exact ⟨hs'.stored, h.once.effects io hs'.starts⟩

/-- **The workflow of an object is started once.** In passes over one object, whatever the answers to their calls and
whether these have taken effect, the frontend gets at most one more execution than it had, under the workflow ID of the
object. A run ID that is stored stays. -/
theorem workflow_starts_once {run : TemporalWorkflowRun} {f₀ : Frontend} {s s' : RunWorld × Frontend}
    {h h' : List RunReport} (hrun : frontendSystem.Run (fun _ _ _ => True) (⟨some run, ()⟩, f₀) s h)
    (hlater : frontendSystem.Run (fun _ _ _ => True) s s' h') :
    (∀ namespace_ workflowID, ∃ started, s.2 namespace_ workflowID = started ++ f₀ namespace_ workflowID ∧
      started.length ≤ 1 ∧ (started ≠ [] → namespace_ = run.spec.namespace_ ∧ workflowID = resolveWorkflowID run)) ∧
      ∀ o ∈ s.1.stored, o.status.runID ≠ "" → ∀ o' ∈ s'.1.stored, o'.status.runID = o.status.runID := by
  have hstartable : Startable run f₀ s := by
    refine hrun.invariant (I := fun s _ => Startable run f₀ s) ⟨?_, fun _ _ _ => rfl, .inl rfl⟩
      fun s _ e _ hs _ => hs.pass e.1 e.2
    rintro o ⟨⟩
    exact .refl run
  refine ⟨hstartable.once.started, fun o ho hid => ?_⟩
  refine hlater.invariant (I := fun s _ => ∀ o' ∈ s.1.stored, o'.status.runID = o.status.runID) ?_ ?_
  · intro o' ho'
    rw [Option.mem_unique ho' ho]
  · exact fun s _ e _ hs _ => pass_keeps_runID hid hs e.1

def sampleStart : RunWorld × Frontend :=
  (⟨some { sampleRun none .abandon with uid := "uid" }, ()⟩, fun _ _ => [⟨"earlier", "old"⟩])

/-- The status write of the first pass is lost; the frontend would call the next execution by another run ID. -/
def samplePasses : List (RunEnv × StartIO) :=
  [({ smoothEnv .running 0 with status := .failed ⟨.other, "timeout"⟩ }, {}),
    (smoothEnv .running 0, { runID := "another" })]

/-- The second pass makes the start of the first one again. -/
theorem workflow_starts_once_sample :
    let s := (frontendSystem.exec sampleStart [] samplePasses).1
    let s' := (frontendSystem.exec s [] [(smoothEnv .completed 0, {})]).1
    (∃ started, started.length ≤ 1 ∧ s.2 "default" "report" = started ++ [⟨"earlier", "old"⟩]) ∧
      ∃ o ∈ s.1.stored, o.status.runID = "run" ∧ ∀ o' ∈ s'.1.stored, o'.status.runID = o.status.runID := by
  intro s s'
  have hrun : frontendSystem.Run (fun _ _ _ => True) sampleStart s _ :=
    System.Run.exec .start ⟨trivial, trivial, trivial⟩
  have hlater : frontendSystem.Run (fun _ _ _ => True) s s' _ := System.Run.exec .start ⟨trivial, trivial⟩
  obtain ⟨honce, hkept⟩ := workflow_starts_once hrun hlater
  have hstored : ∃ o ∈ s.1.stored, o.status.runID = "run" := by decide +kernel
  obtain ⟨o, ho, hid⟩ := hstored
  obtain ⟨started, hstarted, hlength, -⟩ := honce "default" "report"
  refine ⟨⟨started, hlength, hstarted⟩, o, ho, hid, hkept o ho ?_⟩
  rw [hid]
  decide

example : (frontendSystem.exec sampleStart [] samplePasses).1.2 "default" "report" =
    [⟨"uid", "run"⟩, ⟨"earlier", "old"⟩] := by
  decide +kernel

end TemporalOperator.Satellite.WorkflowRun
