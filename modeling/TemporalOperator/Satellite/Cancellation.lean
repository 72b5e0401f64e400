import TemporalOperator.Satellite.RunSteps

/-!
# Cancelling the workflow of a deleted object

A deletion pass knows of a started workflow only through `status.runID`. The run ID is in memory after the start and is
stored by a later write of the same pass, so a write that is lost before the object is deleted leaves a workflow that
nobody cancels.

* `RunRecorded` : when a pass finds the object deleted, the run that was started has been stored;
* `KeepsRunID`, `run_stored` : a run ID that is stored stays;
* `cancellation_policy_honoured` : with it, the finalizer goes only after the workflow has ended or has been cancelled;
  `lost_run_not_cancelled` : without it, a workflow goes on although its object was to cancel it.
-/

namespace TemporalOperator.Satellite.WorkflowRun
open Lib Proc

/-! ## What is recorded -/

/-- Namespace, workflow ID and run ID of a successful start. -/
def startedRun : RunEffect → Option (String × String × String)
  | .call (.start namespace_ _ params (.ok id)) => some (namespace_, params.workflowID, id)
  | _ => none

/-- Some pass has started the workflow and was given the run ID `id`. -/
def Started (h : List RunReport) (namespace_ workflowID id : String) : Prop :=
  ∃ r ∈ h, ∃ e ∈ r.events, startedRun e = some (namespace_, workflowID, id)

def endedRun : RunEffect → Option String
  | .statusWritten st => if st.completionTime.isSome then some st.runID else none
  | _ => none

def EndRecorded (h : List RunReport) (id : String) : Prop := ∃ r ∈ h, ∃ e ∈ r.events, endedRun e = some id

def removesFinalizer : RunEffect → Bool
  | .objectWritten o => workflowRunFinalizer ∉ o.finalizers
  | _ => false

def RemovesFinalizer (r : RunReport) : Prop := ∃ e ∈ r.events, removesFinalizer e = true

def storedRun : RunEffect → Option String
  | .statusWritten st => some st.runID
  | _ => none

def RunStored (h : List RunReport) (id : String) : Prop := ∃ r ∈ h, ∃ e ∈ r.events, storedRun e = some id

/-- When a pass finds the object deleted, no status write with the run ID of a start has been lost for good. -/
def RunRecorded (w : RunWorld) (h : List RunReport) (env : RunEnv) : Prop :=
  ∀ o ∈ edits kind.admits env.beforeGet w.stored, env.getErr = none → o.deleting = true →
    ∀ r ∈ h, ∀ e ∈ r.events, ∀ start ∈ startedRun e, start.2.2 ≠ "" ∧ RunStored h start.2.2

instance (h : List RunReport) (namespace_ workflowID id : String) : Decidable (Started h namespace_ workflowID id) :=
  inferInstanceAs (Decidable (∃ r ∈ h, ∃ e ∈ r.events, _))

instance (h : List RunReport) (id : String) : Decidable (EndRecorded h id) :=
  inferInstanceAs (Decidable (∃ r ∈ h, ∃ e ∈ r.events, _))

instance (h : List RunReport) (id : String) : Decidable (RunStored h id) :=
  inferInstanceAs (Decidable (∃ r ∈ h, ∃ e ∈ r.events, _))

instance (r : RunReport) : Decidable (RemovesFinalizer r) := inferInstanceAs (Decidable (∃ e ∈ r.events, _))

instance (w : RunWorld) (h : List RunReport) (env : RunEnv) : Decidable (RunRecorded w h env) :=
  inferInstanceAs (Decidable (∀ o ∈ edits kind.admits env.beforeGet w.stored, _))

/-- The workflow that the object describes, which may not be edited. -/
structure SameWorkflow (run o : TemporalWorkflowRun) : Prop where
  name : o.name = run.name
  namespace_ : o.spec.namespace_ = run.spec.namespace_
  workflow : o.spec.workflow = run.spec.workflow

theorem SameWorkflow.refl (run : TemporalWorkflowRun) : SameWorkflow run run := ⟨rfl, rfl, rfl⟩

theorem SameWorkflow.congr {run o o' : TemporalWorkflowRun} (h : SameWorkflow run o) (hname : o'.name = o.name)
    (hspec : o'.spec = o.spec) : SameWorkflow run o' :=
  ⟨hname.trans h.name, hspec ▸ h.namespace_, hspec ▸ h.workflow⟩

theorem SameWorkflow.workflowID {run o : TemporalWorkflowRun} (h : SameWorkflow run o) :
    resolveWorkflowID o = resolveWorkflowID run := by
  unfold resolveWorkflowID
  rw [h.workflow, h.name]

theorem SameWorkflow.edited {run o o' : TemporalWorkflowRun} {e : Edit TemporalWorkflowRunSpec} (h : SameWorkflow run o)
    (he : e.apply kind.admits o = some o') : SameWorkflow run o' := by
  obtain rfl | ⟨spec, finalizers, generation, hadm, rfl⟩ | rfl := Edit.apply_cases he
  · exact h
  · have hkept : admits o.spec spec = true := hadm
    simp only [admits, Bool.and_eq_true, decide_eq_true_eq] at hkept
    exact ⟨h.name, hkept.1.2.trans h.namespace_, hkept.2.trans h.workflow⟩
  · exact h.congr rfl rfl

theorem workflowRunParams_workflowID {run : TemporalWorkflowRun} {params : StartWorkflowParams}
    (h : workflowRunParams run = .ok params) : params.workflowID = resolveWorkflowID run := by
  unfold workflowRunParams at h
  dsimp only at h
  cases hretry : retryParams run.spec.workflow.retryPolicy with
  | error e =>
    rw [hretry] at h
    cases h
  | ok retry =>
    rw [hretry] at h
    obtain rfl := Except.ok.inj h
    rfl

/-- The stored object is one of the workflow of `run`, and a completion time in it was written in `events`. -/
def Accounted (run : TemporalWorkflowRun) (events : List RunEffect) (o : TemporalWorkflowRun) : Prop :=
  SameWorkflow run o ∧ (o.status.completionTime ≠ none → Effect.statusWritten o.status ∈ events)

/-- Every start is one of the workflow of `run`. -/
def StartsOf (run : TemporalWorkflowRun) (events : List RunEffect) : Prop :=
  ∀ namespace_ requestID params answer, Effect.call (.start namespace_ requestID params answer) ∈ events →
    namespace_ = run.spec.namespace_ ∧ params.workflowID = resolveWorkflowID run

/-- The pass so far, after what earlier passes have done (`base`). -/
structure Tracked (run : TemporalWorkflowRun) (base : List RunEffect) (s : RunPass) : Prop where
  stored : ∀ o ∈ s.stored, Accounted run (s.events ++ base) o
  obj : SameWorkflow run s.obj
  starts : StartsOf run s.events

section Tracked

variable {run : TemporalWorkflowRun} {base : List RunEffect} {env : RunEnv}

theorem accounted_edits {events : List RunEffect} {stored : Option TemporalWorkflowRun}
    (h : ∀ o ∈ stored, Accounted run events o) (es : List (Edit TemporalWorkflowRunSpec)) :
    ∀ o ∈ edits kind.admits es stored, Accounted run events o := by
  refine edits_induction (I := Accounted run events) (fun o e o' ho he => ⟨ho.1.edited he, ?_⟩) es h
  rw [Edit.apply_status he]
  exact ho.2

theorem Accounted.cons {events : List RunEffect} {o : TemporalWorkflowRun} (h : Accounted run events o) (e : RunEffect) :
    Accounted run (e :: events) o :=
  ⟨h.1, fun ht => List.mem_cons_of_mem _ (h.2 ht)⟩

theorem StartsOf.cons {events : List RunEffect} (h : StartsOf run events) {e : RunEffect}
    (he : ∀ namespace_ requestID params answer, e = .call (.start namespace_ requestID params answer) →
      namespace_ = run.spec.namespace_ ∧ params.workflowID = resolveWorkflowID run) : StartsOf run (e :: events) := by
  intro namespace_ requestID params answer hmem
  rcases List.mem_cons.mp hmem with heq | hmem
  · exact he _ _ _ _ heq.symm
  · exact h _ _ _ _ hmem

theorem Tracked.edited {s : RunPass} (h : Tracked run base s) (es : List (Edit TemporalWorkflowRunSpec)) :
    Tracked run base { s with stored := edits kind.admits es s.stored } :=
  ⟨accounted_edits h.stored es, h.obj, h.starts⟩

theorem Tracked.wrote {s : RunPass} (h : Tracked run base s) {o : TemporalWorkflowRun} {event : RunEffect}
    (ho : Accounted run (event :: (s.events ++ base)) o) (hevent : ∀ c, event ≠ .call c) :
    Tracked run base { s with stored := o.orGone, events := event :: s.events } ∧
      Tracked run base { s with stored := o.orGone, events := event :: s.events, obj := o } := by
  have hstored : ∀ o' ∈ o.orGone, Accounted run (event :: s.events ++ base) o' := by
    intro o' ho'
    rw [Object.orGone_eq_some ho']
    exact ho
  have hstarts : StartsOf run (event :: s.events) := h.starts.cons fun _ _ _ _ heq => absurd heq (hevent _)
  exact ⟨⟨hstored, h.obj, hstarts⟩, ⟨hstored, ho.1, hstarts⟩⟩

theorem Tracked.passInvariant : PassInvariant env (Tracked run base) (Tracked run base) := by
  refine PassInvariant.of_steps ?_ ?_ ?_ ?_ ?_ ?_
  · exact fun s st _ hs => ⟨hs.stored, hs.obj.congr rfl rfl, hs.starts⟩
  · exact fun s fs hs => ⟨hs.stored, hs.obj.congr rfl rfl, hs.starts⟩
  · intro s c hissues hs
    refine ⟨fun o ho => (hs.stored o ho).cons _, hs.obj, hs.starts.cons ?_⟩
    rintro namespace_ requestID params answer heq
    cases heq
    obtain ⟨rfl, -, hparams, -⟩ := hissues
    exact ⟨hs.obj.namespace_, (workflowRunParams_workflowID hparams).trans hs.obj.workflowID⟩
  · have hwritten : ∀ s cur, Tracked run base s → cur ∈ edits kind.admits env.beforeUpdate s.stored →
        Accounted run (.objectWritten (s.obj.written cur) :: (s.events ++ base)) (s.obj.written cur) :=
      fun s cur hs hcur => ⟨hs.obj.congr rfl rfl, (((hs.edited env.beforeUpdate).stored cur hcur).cons _).2⟩
    exact triple_write (fun s _ hs => hs.edited _)
      (fun s cur _ hs hcur _ => (hs.wrote (hwritten s cur hs hcur) fun _ heq => by cases heq).1)
      fun s cur hs hcur _ => (hs.wrote (hwritten s cur hs hcur) fun _ heq => by cases heq).2
  · have hwritten : ∀ s cur, Tracked run base s → cur ∈ edits kind.admits env.beforeStatus s.stored →
        Accounted run (.statusWritten s.obj.status.persist :: (s.events ++ base))
          (Object.writtenStatus s.obj.status.persist cur) :=
      fun s cur hs hcur =>
        ⟨((hs.edited env.beforeStatus).stored cur hcur).1.congr rfl rfl, fun _ => List.mem_cons_self⟩
    exact keeps_ignoreNotFound <| triple_write (fun s _ hs => hs.edited _)
      (fun s cur _ hs hcur _ => (hs.wrote (hwritten s cur hs hcur) fun _ heq => by cases heq).1)
      fun s cur hs hcur _ => (hs.wrote (hwritten s cur hs hcur) fun _ heq => by cases heq).2
  · refine triple_deleteObject (fun s hs => hs.edited _) fun s o hs ho => ?_
    have hmarked := (hs.edited env.beforeDelete).edited [.delete]
    rw [ho, edits_delete] at hmarked
    exact ⟨fun o' ho' => (hmarked.stored o' ho').cons _, hs.obj, hs.starts.cons fun _ _ _ _ heq => by cases heq⟩

end Tracked

/-! ## The deletion pass -/

/-- The call was made, and succeeded or did not find the workflow running. -/
def Answered (call : Except Err Unit → RunCall) (events : List RunEffect) : Prop :=
  .call (call (.ok ())) ∈ events ∨ .call (call (.error errWorkflowNotFound)) ∈ events

instance (call : Except Err Unit → RunCall) (events : List RunEffect) : Decidable (Answered call events) :=
  inferInstanceAs (Decidable (_ ∨ _))

/-- The call that the object's policy asks for when the run `id` goes on. -/
def policyCall (run : TemporalWorkflowRun) (id : String) : Option (Except Err Unit → RunCall) :=
  match run.spec.cancellationPolicy with
  | .abandon => none
  | .cancel => some (.cancel run.spec.namespace_ (resolveWorkflowID run) id "TemporalWorkflowRun deleted")
  | .terminate => some (.terminate run.spec.namespace_ (resolveWorkflowID run) id "TemporalWorkflowRun deleted")

def NoWrite (s : RunPass) : Prop := ∀ o, Effect.objectWritten o ∉ s.events

section Deletion

variable {env : RunEnv} {call : Except Err Unit → RunCall}

theorem Answered.cons {events : List RunEffect} (h : Answered call events) (e : RunEffect) :
    Answered call (e :: events) := by
  rcases h with hmem | hmem
  · exact .inl (List.mem_cons_of_mem _ hmem)
  · exact .inr (List.mem_cons_of_mem _ hmem)

theorem closedAsNotFound_eq_notFound {a : Except RpcErr Unit} {text : String}
    (h : closedAsNotFound a = .error (.notFound text)) : closedAsNotFound a = .error errWorkflowNotFound := by
  cases a with
  | ok u => cases h
  | error e =>
    unfold closedAsNotFound at h ⊢
    dsimp only at h ⊢
    split at h
    · rw [if_pos ‹_›]
    · cases h

/-- The pass goes on from a cancellation only when it was answered. -/
theorem triple_closing {pre : String} {a : Except RpcErr Unit} :
    Triple NoWrite (ignoreWorkflowNotFound pre (issue call (closedAsNotFound a)))
      (fun _ s => Answered call s.events) fun _ => NoWrite := by
  have hissued : Triple NoWrite (issue call (closedAsNotFound a))
      (fun _ s => Answered call s.events)
      fun e s => NoWrite s ∧ closedAsNotFound a = .error e ∧ Effect.call (call (.error e)) ∈ s.events := by
    intro s hs
    have hmem : Effect.call (call (closedAsNotFound a)) ∈ Effect.call (call (closedAsNotFound a)) :: s.events :=
      List.mem_cons_self
    have hquiet : NoWrite { s with events := .call (call (closedAsNotFound a)) :: s.events } := by
      intro o ho
      rcases List.mem_cons.mp ho with heq | ho
      · cases heq
      · exact hs o ho
    unfold issue
    rw [exec_bind, exec_modify]
    dsimp only
    revert hmem hquiet
    cases closedAsNotFound a with
    | ok u => exact fun hmem _ => .inl hmem
    | error e => exact fun hmem hquiet => ⟨hquiet, rfl, hmem⟩
  refine triple_attempt_bind hissued (fun _ => triple_pure fun _ hs => hs) fun e => ?_
  cases e with
  | notFound text =>
    refine triple_pure fun s hs => ?_
    obtain ⟨-, heq, hmem⟩ := hs
    rw [← heq, closedAsNotFound_eq_notFound heq] at hmem
    exact .inr hmem
  | rpc e => exact triple_throw fun _ hs => hs.1
  | other e => exact triple_throw fun _ hs => hs.1

theorem keeps_answered_removeFinalizer : Keeps (fun s => Answered call s.events) (removeFinalizer env) := by
  refine keeps_dropFinalizer (fun _ _ hs => hs) ?_
  exact triple_write (fun _ _ hs => hs) (fun _ _ _ hs _ _ => hs.cons _) fun _ _ hs _ _ => hs.cons _

/-- A pass over a deleted object whose recorded run goes on writes the object only after the policy has been applied. -/
theorem deletion_answered (env : RunEnv) {o : TemporalWorkflowRun} (hdeleting : o.deleting = true)
    (hrunID : o.status.runID ≠ "")
    (hunfinished : o.status.completionTime = none) (hcall : policyCall o o.status.runID = some call)
    (htarget : resolveTarget env.target o.spec.clusterRef ≠ .error .notFound) :
    Triple (fun s => s.obj = o ∧ NoWrite s) (reconcileObject env) (fun _ s => NoWrite s ∨ Answered call s.events)
      fun _ s => NoWrite s ∨ Answered call s.events := by
  have hpolicy : Triple (fun s => s.obj = o ∧ NoWrite s) (applyCancellationPolicy env o)
      (fun _ s => Answered call s.events) fun _ s => NoWrite s ∨ Answered call s.events := by
    unfold applyCancellationPolicy
    rw [if_pos ⟨hrunID, hunfinished⟩]
    unfold policyCall at hcall
    cases hpolicy : o.spec.cancellationPolicy with
    | abandon =>
      rw [hpolicy] at hcall
      cases hcall
    | cancel =>
      rw [hpolicy] at hcall
      obtain rfl := Option.some.inj hcall
      exact triple_closing.conseq (fun _ hs => hs.2) (fun _ _ hs => hs) fun _ _ hs => .inl hs
    | terminate =>
      rw [hpolicy] at hcall
      obtain rfl := Option.some.inj hcall
      exact triple_closing.conseq (fun _ hs => hs.2) (fun _ _ hs => hs) fun _ _ hs => .inl hs
  have hbody : Triple (fun s => s.obj = o ∧ NoWrite s) (do applyCancellationPolicy env o; removeFinalizer env)
      (fun _ s => NoWrite s ∨ Answered call s.events) fun _ s => NoWrite s ∨ Answered call s.events :=
    triple_bind hpolicy fun _ =>
      keeps_answered_removeFinalizer.conseq (fun _ hs => hs) (fun _ _ hs => .inr hs) fun _ _ hs => .inr hs
  have hdelete : Triple (fun s => s.obj = o ∧ NoWrite s) (reconcileDelete env)
      (fun _ s => NoWrite s ∨ Answered call s.events) fun _ s => NoWrite s ∨ Answered call s.events := by
    refine triple_bind triple_get fun a => ?_
    dsimp only
    split
    · rintro s ⟨rfl, rfl, hs⟩
      exact hbody a ⟨rfl, hs⟩
    · exact triple_pure fun _ hs => .inl hs.2.2
  refine triple_bind triple_get fun a => ?_
  dsimp only
  split
  · -- the target is gone
    rename_i hgone
    rintro s ⟨rfl, rfl, hs⟩
    exact absurd hgone htarget
  · exact triple_throw fun _ hs => .inl hs.2.2
  · split
    · exact triple_throw fun _ hs => .inl hs.2.2
    · split
      · exact triple_bind (hdelete.pre fun _ hs => hs.2) fun _ => triple_pure fun _ hs => hs
      · rename_i hpresent
        rintro s ⟨rfl, rfl, hs⟩
        exact absurd hdeleting hpresent

end Deletion

/-! ## The run ID -/

/-- A pass over an object whose run ID is stored. -/
structure KeepsRunID (id : String) (s : RunPass) : Prop where
  stored : ∀ o ∈ s.stored, o.status.runID = id
  obj : s.obj.status.runID = id

theorem StatusStep.runID {s : RunPass} {st : TemporalWorkflowRunStatus} (h : StatusStep s st)
    (hrunID : s.obj.status.runID ≠ "") : st.runID = s.obj.status.runID := by
  cases h with
  | ready => rfl
  | finished => rfl
  | advance h =>
    cases h with
    | started _ hempty _ => exact absurd hempty hrunID
    | observed => rfl

section KeepsRunID

variable {id : String} {env : RunEnv}

theorem KeepsRunID.edited {s : RunPass} (h : KeepsRunID id s) (es : List (Edit TemporalWorkflowRunSpec)) :
    KeepsRunID id { s with stored := edits kind.admits es s.stored } :=
  ⟨edits_status (P := fun st : TemporalWorkflowRunStatus => st.runID = id) kind.admits es h.stored, h.obj⟩

theorem KeepsRunID.wrote {s : RunPass} (h : KeepsRunID id s) {o : TemporalWorkflowRun} (event : RunEffect)
    (ho : o.status.runID = id) :
    KeepsRunID id { s with stored := o.orGone, events := event :: s.events } ∧
      KeepsRunID id { s with stored := o.orGone, events := event :: s.events, obj := o } := by
  have hstored : ∀ o' ∈ o.orGone, o'.status.runID = id := by
    intro o' ho'
    rw [Object.orGone_eq_some ho']
    exact ho
  exact ⟨⟨hstored, h.obj⟩, ⟨hstored, ho⟩⟩

theorem KeepsRunID.passInvariant (hid : id ≠ "") : PassInvariant env (KeepsRunID id) (KeepsRunID id) := by
  refine PassInvariant.of_steps ?_ ?_ ?_ ?_ ?_ ?_
  · intro s st hstep hs
    have hrunID : s.obj.status.runID ≠ "" := by rw [hs.obj]; exact hid
    exact ⟨hs.stored, (hstep.runID hrunID).trans hs.obj⟩
  · exact fun s fs hs => ⟨hs.stored, hs.obj⟩
  · exact fun s c _ hs => ⟨hs.stored, hs.obj⟩
  · have hwritten : ∀ (s : RunPass) cur, KeepsRunID id s → cur ∈ edits kind.admits env.beforeUpdate s.stored →
        (s.obj.written cur).status.runID = id := fun s cur hs hcur => (hs.edited env.beforeUpdate).stored cur hcur
    exact triple_write (fun s _ hs => hs.edited _) (fun s cur _ hs hcur _ => (hs.wrote _ (hwritten s cur hs hcur)).1)
      fun s cur hs hcur _ => (hs.wrote _ (hwritten s cur hs hcur)).2
  · have hwritten : ∀ (s : RunPass) (cur : TemporalWorkflowRun), KeepsRunID id s →
        (Object.writtenStatus s.obj.status.persist cur).status.runID = id := fun s cur hs => hs.obj
    exact keeps_ignoreNotFound <| triple_write (fun s _ hs => hs.edited _)
      (fun s cur _ hs _ _ => (hs.wrote _ (hwritten s cur hs)).1) fun s cur hs _ _ => (hs.wrote _ (hwritten s cur hs)).2
  · refine triple_deleteObject (fun s hs => hs.edited _) fun s o hs ho => ?_
    have hmarked := (hs.edited env.beforeDelete).edited [.delete]
    rw [ho, edits_delete] at hmarked
    exact ⟨hmarked.stored, hs.obj⟩

end KeepsRunID

def KeepsStored (s : RunPass) : Prop :=
  ∀ st, Effect.statusWritten st ∈ s.events → st.runID ≠ "" → KeepsRunID st.runID s

theorem KeepsStored.cons {s : RunPass} {e : RunEffect} (h : KeepsStored s) (he : ∀ st, e ≠ .statusWritten st)
    {st : TemporalWorkflowRunStatus} (hst : Effect.statusWritten st ∈ e :: s.events) (hid : st.runID ≠ "") :
    KeepsRunID st.runID s := by
  rcases List.mem_cons.mp hst with heq | hst
  · exact absurd heq.symm (he st)
  · exact h st hst hid

theorem KeepsStored.passInvariant {env : RunEnv} : PassInvariant env KeepsStored KeepsStored := by
  refine PassInvariant.of_steps ?_ ?_ ?_ ?_ ?_ ?_
  · intro s st hstep hs st' hst' hid
    have hkept := hs st' hst' hid
    have hrunID : s.obj.status.runID ≠ "" := by rw [hkept.obj]; exact hid
    exact ⟨hkept.stored, (hstep.runID hrunID).trans hkept.obj⟩
  · intro s fs hs st hst hid
    exact ⟨(hs st hst hid).stored, (hs st hst hid).obj⟩
  · intro s c _ hs st hst hid
    have hkept := hs.cons (fun _ heq => by cases heq) hst hid
    exact ⟨hkept.stored, hkept.obj⟩
  · refine triple_write (fun s _ hs st hst hid => (hs st hst hid).edited _) (fun s cur _ hs hcur _ st hst hid => ?_)
      fun s cur hs hcur _ st hst hid => ?_
    · have hkept := hs.cons (fun _ heq => by cases heq) hst hid
      exact (hkept.wrote (o := s.obj.written cur) _ ((hkept.edited env.beforeUpdate).stored cur hcur)).1
    · have hkept := hs.cons (fun _ heq => by cases heq) hst hid
      exact (hkept.wrote (o := s.obj.written cur) _ ((hkept.edited env.beforeUpdate).stored cur hcur)).2
  · -- the status that is written is the one in memory
    have hwritten {s : RunPass} (hs : KeepsStored s) {st : TemporalWorkflowRunStatus}
        (hst : Effect.statusWritten st ∈ Effect.statusWritten s.obj.status.persist :: s.events) (hid : st.runID ≠ "") :
        s.obj.status.runID = st.runID := by
      rcases List.mem_cons.mp hst with heq | hst
      · rw [Effect.statusWritten.inj heq]
        rfl
      · exact (hs st hst hid).obj
    have hstored {s : RunPass} {cur : TemporalWorkflowRun} {id : String} (hid : s.obj.status.runID = id) :
        ∀ o ∈ (Object.writtenStatus s.obj.status.persist cur).orGone, o.status.runID = id := by
      intro o ho
      rw [Object.orGone_eq_some ho]
      exact hid
    exact keeps_ignoreNotFound <| triple_write (fun s _ hs st hst hid => (hs st hst hid).edited _)
      (fun s cur _ hs _ _ st hst hid => ⟨hstored (hwritten hs hst hid), hwritten hs hst hid⟩)
      fun s cur hs _ _ st hst hid => ⟨hstored (hwritten hs hst hid), hwritten hs hst hid⟩
  · refine triple_deleteObject (fun s hs st hst hid => (hs st hst hid).edited _) fun s o hs ho st hst hid => ?_
    have hkept := hs.cons (fun _ heq => by cases heq) hst hid
    have hmarked := (hkept.edited env.beforeDelete).edited [.delete]
    rw [ho, edits_delete] at hmarked
    exact ⟨hmarked.stored, hkept.obj⟩

theorem pass_keeps_runID {w : RunWorld} {id : String} (hid : id ≠ "") (h : ∀ o ∈ w.stored, o.status.runID = id)
    (env : RunEnv) : ∀ o ∈ (reconcilePass w env).1.stored, o.status.runID = id := by
  have hedited := edits_status (P := fun st : TemporalWorkflowRunStatus => st.runID = id) kind.admits env.beforeGet h
  rcases PassInvariant.reconcilePass_cases w env with heq | ⟨o, s, ho, hend, heq⟩
  · rw [heq]
    exact hedited
  · rw [heq]
    exact (hend _ _ (KeepsRunID.passInvariant hid) ⟨fun o' ho' => hedited o' (ho ▸ ho'), hedited o ho⟩).stored

/-- A run ID that a pass has stored is the one in the stored object from then on. -/
theorem run_stored {ok : RunWorld → List RunReport → RunEnv → Prop} {w₀ w : RunWorld} {h : List RunReport}
    (hrun : runSystem.Run ok w₀ w h) :
    ∀ id, id ≠ "" → RunStored h id → ∀ o ∈ w.stored, o.status.runID = id := by
  refine hrun.invariant (I := fun w h => ∀ id, id ≠ "" → RunStored h id → ∀ o ∈ w.stored, o.status.runID = id) ?_
    fun w h env _ hw _ id hid hstored => ?_
  · rintro id - ⟨r, hr, -⟩
    cases hr
  obtain ⟨r, hr, e, he, hrunID⟩ := hstored
  rcases List.mem_cons.mp hr with rfl | hr
  · show ∀ o ∈ (reconcilePass w env).1.stored, o.status.runID = id
    change e ∈ (reconcilePass w env).2.events at he
    cases e with
    | statusWritten st =>
      obtain rfl := Option.some.inj hrunID
      rcases PassInvariant.reconcilePass_cases w env with heq | ⟨o, s, ho, hend, heq⟩
      · rw [heq] at he
        cases he
      · rw [heq] at he ⊢
        exact (hend _ _ KeepsStored.passInvariant (fun _ hst => absurd hst List.not_mem_nil) st he hid).stored
    | objectWritten o => cases hrunID
    | objectDeleted => cases hrunID
    | call c => cases hrunID
  · exact pass_keeps_runID hid (hw id hid ⟨r, hr, e, he, hrunID⟩) env

/-! ## Runs -/

/-- What earlier passes have done accounts for the stored object, and they started no other workflow. -/
structure RunTracked (run : TemporalWorkflowRun) (w : RunWorld) (h : List RunReport) : Prop where
  stored : ∀ o ∈ w.stored, Accounted run (h.flatMap Report.events) o
  starts : ∀ r ∈ h, StartsOf run r.events

theorem run_tracked {ok : RunWorld → List RunReport → RunEnv → Prop} {run : TemporalWorkflowRun} {w : RunWorld}
    {h : List RunReport} (hnew : run.status.completionTime = none) (hrun : runSystem.Run ok ⟨some run, ()⟩ w h) :
    RunTracked run w h := by
  refine hrun.invariant (I := RunTracked run) ⟨?_, by simp⟩ fun w h env _ hw _ => ?_
  · rintro o ⟨⟩
    exact ⟨.refl run, fun ht => absurd hnew ht⟩
  show RunTracked run (reconcilePass w env).1 ((reconcilePass w env).2 :: h)
  have hedited := accounted_edits hw.stored env.beforeGet
  rcases PassInvariant.reconcilePass_cases w env with heq | ⟨o, s, ho, hend, heq⟩
  · rw [heq]
    refine ⟨hedited, fun r hr => ?_⟩
    rcases List.mem_cons.mp hr with rfl | hr
    · exact fun _ _ _ _ hmem => absurd hmem List.not_mem_nil
    · exact hw.starts r hr
  · have hs : Tracked run (h.flatMap Report.events) s := by
      refine hend _ _ Tracked.passInvariant ⟨fun o' ho' => hedited o' (ho ▸ ho'), (hedited o ho).1, ?_⟩
      exact fun _ _ _ _ hmem => absurd hmem List.not_mem_nil
    rw [heq]
    refine ⟨hs.stored, fun r hr => ?_⟩
    rcases List.mem_cons.mp hr with rfl | hr
    · exact hs.starts
    · exact hw.starts r hr

theorem RunTracked.startedRun {run : TemporalWorkflowRun} {w : RunWorld} {h : List RunReport} {r : RunReport}
    (ht : RunTracked run w h) (hr : r ∈ h) {e : RunEffect} (he : e ∈ r.events) {namespace_ workflowID id : String}
    (hstart : WorkflowRun.startedRun e = some (namespace_, workflowID, id)) :
    namespace_ = run.spec.namespace_ ∧ workflowID = resolveWorkflowID run := by
  unfold WorkflowRun.startedRun at hstart
  split at hstart
  · obtain ⟨rfl, rfl, rfl⟩ := hstart
    exact ht.starts r hr _ _ _ _ he
  · cases hstart

/-- **The cancellation policy is honoured.** Take a new object and any run in which, when a pass finds the object deleted,
the run ID of every start has been stored. When a pass takes the finalizer off while the target is there, then a
run that was started has ended, as an earlier pass has recorded, or has been cancelled or terminated as the policy
says. -/
theorem cancellation_policy_honoured {run o : TemporalWorkflowRun} {w : RunWorld} {h : List RunReport} {r : RunReport}
    {namespace_ workflowID id : String} (hnew : run.status = {})
    (hrun : runSystem.Run RunRecorded ⟨some run, ()⟩ w (r :: h)) (hstarted : Started h namespace_ workflowID id)
    (hread : r.read = some o) (hdeleted : o.deleting = true) (hremoved : RemovesFinalizer r)
    (htarget : resolveTarget r.env.target o.spec.clusterRef ≠ .error .notFound) :
    (o.spec.cancellationPolicy = .cancel →
      EndRecorded h id ∨ Answered (.cancel namespace_ workflowID id "TemporalWorkflowRun deleted") r.events) ∧
    (o.spec.cancellationPolicy = .terminate →
      EndRecorded h id ∨ Answered (.terminate namespace_ workflowID id "TemporalWorkflowRun deleted") r.events) := by
  obtain ⟨w', env, hrun', hrecorded, -, rfl⟩ := hrun.last
  have htracked := run_tracked (by rw [hnew]) hrun'
  -- the workflow that was started is that of the object
  obtain ⟨r', hr', start, hstart, hid⟩ := hstarted
  obtain ⟨hnamespace, hworkflowID⟩ := htracked.startedRun hr' hstart hid
  rcases pass_cases kind RunEnv.toKubeEnv reconcileObject w' env with heq | ⟨o₁, s, hget, ho, hs, heq⟩
  · have hnone : (reconcilePass w' env).2.read = none := congrArg (·.2.read) heq
    have hread' : (reconcilePass w' env).2.read = some o := hread
    rw [hnone] at hread'
    cases hread'
  have hreport : runSystem.step w' env = (⟨s.stored, s.remote⟩, ⟨env, some o₁, s.events⟩) := heq
  rw [hreport] at hread hremoved htarget ⊢
  obtain rfl := Option.some.inj hread
  obtain ⟨hne, hrecorded⟩ : id ≠ "" ∧ RunStored h id := hrecorded o₁ ho hget hdeleted r' hr' start hstart _ hid
  have hrunID : o₁.status.runID = id := edits_status (P := fun st : TemporalWorkflowRunStatus => st.runID = id)
    kind.admits env.beforeGet (run_stored hrun' id hne hrecorded) o₁ ho
  have hstored := accounted_edits htracked.stored env.beforeGet o₁ ho
  have hanswer : ∀ call, policyCall o₁ id = some call → EndRecorded h id ∨ Answered call s.events := by
    intro call hcall
    cases hcompletion : o₁.status.completionTime with
    | some t =>
      obtain ⟨r₁, hr₁, hst⟩ := List.mem_flatMap.mp (hstored.2 (by rw [hcompletion]; simp))
      refine .inl ⟨r₁, hr₁, _, hst, ?_⟩
      rw [endedRun, hcompletion, Option.isSome_some, if_pos rfl, hrunID]
    | none =>
      have hdeletion := deletion_answered env hdeleted (hrunID ▸ hne) hcompletion (hrunID ▸ hcall) htarget
      have hend := hdeletion.exec (s := { stored := some o₁, obj := o₁, remote := w'.remote })
        ⟨rfl, fun _ hmem => absurd hmem List.not_mem_nil⟩
      rw [← hs] at hend
      refine .inr (hend.resolve_left fun hnoWrite => ?_)
      obtain ⟨e, he, hwritten⟩ := hremoved
      cases e with
      | objectWritten o' => exact hnoWrite o' he
      | statusWritten st => cases hwritten
      | objectDeleted => cases hwritten
      | call c => cases hwritten
  rw [hnamespace, hworkflowID, ← hstored.1.namespace_, ← hstored.1.workflowID]
  refine ⟨fun hpolicy => hanswer _ ?_, fun hpolicy => hanswer _ ?_⟩
  · rw [policyCall, hpolicy]
  · rw [policyCall, hpolicy]

def isCancel : RunEffect → Bool
  | .call (.cancel ..) => true
  | _ => false

/-- The workflow is started and recorded; the object is deleted, and the next pass cancels the workflow. -/
theorem cancellation_policy_honoured_sample :
    let w₀ : RunWorld := ⟨some (sampleRun none .cancel), ()⟩
    let p₁ := reconcilePass w₀ (smoothEnv .running 0)
    let p₂ := reconcilePass p₁.1 { smoothEnv .running 0 with beforeGet := [.delete] }
    RemovesFinalizer p₂.2 ∧
      (EndRecorded [p₁.2] "run" ∨
        Answered (.cancel "default" "report" "run" "TemporalWorkflowRun deleted") p₂.2.events) := by
  intro w₀ p₁ p₂
  have hrun : runSystem.Run RunRecorded w₀ p₂.1 [p₂.2, p₁.2] :=
    .step { smoothEnv .running 0 with beforeGet := [.delete] } (.step (smoothEnv .running 0) .start (by decide +kernel))
      (by decide +kernel)
  have hremoved : RemovesFinalizer p₂.2 := by decide +kernel
  have hstarted : Started [p₁.2] "default" "report" "run" := by decide +kernel
  refine ⟨hremoved, (cancellation_policy_honoured (o := p₂.2.read.getD (sampleRun none .cancel)) rfl hrun hstarted
    (by decide +kernel) (by decide +kernel) hremoved (by decide +kernel)).1 (by decide +kernel)⟩

/-- The object is deleted between the start of the workflow and the write of the status. The write is refused, and the
next pass takes the finalizer off without cancelling the workflow, which it does not know of. -/
theorem lost_run_not_cancelled :
    let w₀ : RunWorld := ⟨some (sampleRun none .cancel), ()⟩
    let p₁ := reconcilePass w₀ { smoothEnv .running 0 with beforeStatus := [.delete] }
    let p₂ := reconcilePass p₁.1 (smoothEnv .running 0)
    runSystem.Run (fun _ _ _ => True) w₀ p₂.1 [p₂.2, p₁.2] ∧ Started [p₁.2] "default" "report" "run" ∧
      (∃ o ∈ p₂.2.read, o.deleting = true ∧ o.spec.cancellationPolicy = .cancel ∧
        resolveTarget p₂.2.env.target o.spec.clusterRef ≠ .error .notFound) ∧
      RemovesFinalizer p₂.2 ∧ ¬ EndRecorded [p₂.2, p₁.2] "run" ∧
      ∀ r ∈ [p₂.2, p₁.2], ∀ e ∈ r.events, ∀ namespace_ workflowID runID reason answer,
        e ≠ .call (.cancel namespace_ workflowID runID reason answer) := by
  intro w₀ p₁ p₂
  have hrun : runSystem.Run (fun _ _ _ => True) w₀ p₂.1 [p₂.2, p₁.2] :=
    .step (smoothEnv .running 0) (.step { smoothEnv .running 0 with beforeStatus := [.delete] } .start trivial) trivial
  refine ⟨hrun, by decide +kernel, by decide +kernel, by decide +kernel, by decide +kernel, ?_⟩
  have hcalls : ∀ r ∈ [p₂.2, p₁.2], ∀ e ∈ r.events, isCancel e = false := by decide +kernel
  rintro r hr e he namespace_ workflowID runID reason answer rfl
  cases hcalls r hr _ he

end TemporalOperator.Satellite.WorkflowRun
