import TemporalOperator.Api.WorkflowRun
import TemporalOperator.Satellite.Pass

/-!
# The common shape of the satellite controllers

The controllers for namespaces, search attributes and schedules have one `Reconcile`, up to the object they keep in
Temporal. A `Controller` is what they differ in; what follows is written once for the three.

* `reconcileObject`, `reconcilePresent`, `reconcileDelete`, `removeFinalizerAndForget` : the steps of `Reconcile`;
* `triple_reconcileObject_live`, `triple_reconcileObject_deleting` : a pass, from its steps.
-/

namespace TemporalOperator.Satellite
open Lib Proc

/-- What a controller does of its own, in one pass. -/
structure Controller (S T R C : Type) where
  kind : Kind S T
  clusterRef : S → ClusterReference
  allowDeletion : S → Bool
  /-- The status with a new `Ready` condition. -/
  readyStatus : Object S T → ConditionStatus → String → String → T
  /-- The requeue delay when the target is not found. -/
  notFoundRequeue : GoDuration
  /-- Bring Temporal to the spec; the result is what becomes of the status, and the requeue delay. -/
  ensureRegistered : Proc (Pass S T R C) Err ((Object S T → T) × GoDuration)
  /-- Delete the remote object; an error keeps the finalizer. -/
  remoteDelete : Object S T → Proc (Pass S T R C) Err Unit

variable {S T R C : Type} [DecidableEq S] (c : Controller S T R C) (env : KubeEnv S)

namespace Controller

/-- Write the status with a new `Ready` condition and end the pass. -/
def report (status : ConditionStatus) (reason message : String) (requeue : GoDuration) :
    Proc (Pass S T R C) Err GoDuration := do
  modify fun s => { s with obj := { s.obj with status := c.readyStatus s.obj status reason message } }
  statusUpdate c.kind env
  return requeue

/-- Take the finalizer off without touching Temporal. -/
def removeFinalizerAndForget : Proc (Pass S T R C) Err Unit := dropFinalizer c.kind env

def deleteAllowed (o : Object S T) : Proc (Pass S T R C) Err Unit :=
  if c.allowDeletion o.spec then c.remoteDelete o else return ()

def reconcileDelete : Proc (Pass S T R C) Err Unit := do
  let o := (← get).obj
  if c.kind.finalizer ∈ o.finalizers then do
    c.deleteAllowed o
    dropFinalizer c.kind env
  else return ()

/-- The object is read and not being deleted, and the client is there. -/
def reconcilePresent (target : ResolvedTarget) : Proc (Pass S T R C) Err GoDuration := do
  ensureFinalizer c.kind env
  if !target.ready then
    c.report env .false "ClusterNotReady" "waiting for the Temporal target to become ready" (15 * second)
  else
    match ← attempt c.ensureRegistered with
    | .error e =>
      if e.transient then
        c.report env .false "FrontendUnavailable" "waiting for the Temporal frontend to become available" (5 * second)
      else throw e
    | .ok (record, requeue) => do
      modify fun s => { s with obj := { s.obj with status := record s.obj } }
      statusUpdate c.kind env
      return requeue

/-- `Reconcile` after the object has been read. -/
def reconcileObject : Proc (Pass S T R C) Err GoDuration := do
  let o := (← get).obj
  match resolveTarget env.target (c.clusterRef o.spec) with
  | .error e =>
    if o.deleting then do
      c.removeFinalizerAndForget env
      return 0
    else
      match e with
      | .notFound =>
        c.report env .false "ClusterNotFound" "referenced Temporal target not found" c.notFoundRequeue
      | .other e => throw (.other e)
  | .ok target =>
    match env.clientErr with
    | some e =>
      if o.deleting then do
        c.removeFinalizerAndForget env
        return 0
      else throw (.other (e.wrap "building temporal client"))
    | none =>
      if o.deleting then do
        c.reconcileDelete env
        return 0
      else c.reconcilePresent env target

/-! ## Rules -/

variable {c env} {o : Object S T} {P B Q : Pass S T R C → Prop}

/-- A pass over an object that is not being deleted. `B` holds wherever it is given up, and `Q` at its end. -/
theorem triple_reconcileObject_live {A : (Object S T → T) × GoDuration → Pass S T R C → Prop}
    (hlive : o.deleting = false) (hPB : ∀ s, P s → B s) (hBQ : ∀ s, B s → Q s)
    (hfinalizer : Keeps P (ensureFinalizer c.kind env : Proc (Pass S T R C) Err Unit))
    (hensure : Triple P c.ensureRegistered A fun _ => B)
    (hreport : ∀ reason message requeue,
      Triple B (c.report env .false reason message requeue) (fun _ => Q) fun _ => Q)
    (hrecord : ∀ r, Triple (fun s => ∃ s₀, A r s₀ ∧ s = { s₀ with obj := { s₀.obj with status := r.1 s₀.obj } })
      (statusUpdate c.kind env) (fun _ => Q) fun _ => Q) :
    Triple (fun s => s.obj = o ∧ P s) (c.reconcileObject env) (fun _ => Q) fun _ => Q := by
  have hpresent (target : ResolvedTarget) : Triple P (c.reconcilePresent env target) (fun _ => Q) fun _ => Q := by
    refine triple_bind (hfinalizer.errors fun _ s hs => hBQ s (hPB s hs)) fun _ => ?_
    split
    · exact (hreport _ _ _).pre hPB
    · refine triple_attempt_bind hensure (fun r => ?_) fun e => ?_
      · refine triple_bind (triple_modify (Q := fun _ s => ∃ s₀, A r s₀ ∧
          s = { s₀ with obj := { s₀.obj with status := r.1 s₀.obj } }) fun s hs => ⟨s, hs, rfl⟩) fun _ => ?_
        exact triple_bind (hrecord r) fun _ => triple_pure fun _ hs => hs
      · dsimp only
        split
        · exact hreport _ _ _
        · exact triple_throw hBQ
  refine triple_bind triple_get fun a => ?_
  rintro s ⟨rfl, rfl, hs⟩
  have hnot : ¬ a.obj.deleting = true := by simp [hlive]
  dsimp only
  cases resolveTarget env.target (c.clusterRef a.obj.spec) with
  | error e =>
    dsimp only
    rw [if_neg hnot]
    cases e with
    | notFound => exact hreport _ _ _ a (hPB a hs)
    | other e => exact hBQ a (hPB a hs)
  | ok target =>
    dsimp only
    cases env.clientErr with
    | some e =>
      dsimp only
      rw [if_neg hnot]
      exact hBQ a (hPB a hs)
    | none =>
      dsimp only
      rw [if_neg hnot]
      exact hpresent target a hs

theorem triple_reconcileObject_deleting (hdeleting : o.deleting = true)
    (hdrop : Keeps P (dropFinalizer c.kind env : Proc (Pass S T R C) Err Unit)) (hdelete : Keeps P (c.remoteDelete o)) :
    Triple (fun s => s.obj = o ∧ P s) (c.reconcileObject env) (fun _ => P) fun _ => P := by
  have hforget : Keeps P (c.removeFinalizerAndForget env >>= fun _ => pure (0 : GoDuration)) :=
    keeps_bind hdrop fun _ => keeps_pure _
  have hdeletes : Triple (fun s => s.obj = o ∧ P s) (c.reconcileDelete env) (fun _ => P) fun _ => P := by
    refine triple_bind triple_get fun a => ?_
    rintro s ⟨rfl, rfl, hs⟩
    have hallowed : Keeps P (c.deleteAllowed a.obj) := by
      unfold deleteAllowed
      split
      · exact hdelete
      · exact keeps_pure ()
    by_cases hmem : c.kind.finalizer ∈ a.obj.finalizers
    · dsimp only
      rw [if_pos hmem]
      exact keeps_bind hallowed (fun _ => hdrop) a hs
    · dsimp only
      rw [if_neg hmem]
      exact hs
  refine triple_bind triple_get fun a => ?_
  rintro s ⟨rfl, rfl, hs⟩
  dsimp only
  cases resolveTarget env.target (c.clusterRef a.obj.spec) with
  | error e =>
    dsimp only
    rw [if_pos hdeleting]
    exact hforget a hs
  | ok target =>
    dsimp only
    cases env.clientErr with
    | some e =>
      dsimp only
      rw [if_pos hdeleting]
      exact hforget a hs
    | none =>
      dsimp only
      rw [if_pos hdeleting]
      exact triple_bind hdeletes (fun _ => triple_pure fun _ hs => hs) a ⟨rfl, hs⟩

end Controller

end TemporalOperator.Satellite
