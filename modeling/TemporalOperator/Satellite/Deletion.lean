import TemporalOperator.Satellite.Namespace
import TemporalOperator.Satellite.SearchAttribute
import TemporalOperator.Schedule.Reconcile

/-!
# Deleting satellite objects

Namespaces, search attributes and schedules with `allowDeletion` are to be deleted in Temporal before their objects go.
The controllers take the finalizer off whenever the target cannot be resolved, also when it could only not be read; and
the clients for namespaces and search attributes do not tell an object that is gone from a failure, so a deletion that
was half done is never finished.

* `Removes` : the pass has taken the finalizer off; `removes_dropFinalizer` : when it does;
* `deletion_permitted_iff`, `finalizer_removal_permitted_iff` : why it may; `unread_target_forgets_namespace`;
* `deletion_stuck`, `gone_remote_deletion_finishes_iff` : a remote object that is gone; `deleted_namespace_stuck`.
-/

namespace TemporalOperator.Satellite
open Lib Proc

variable {S T R C : Type}

/-! ## Taking the finalizer off -/

def Removes (k : Kind S T) (events : List (Effect S T C)) : Prop :=
  ∃ o, Effect.objectWritten o ∈ events ∧ k.finalizer ∉ o.finalizers

def Unwritten (events : List (Effect S T C)) : Prop := ∀ o, Effect.objectWritten o ∉ events

theorem Unwritten.not_removes {k : Kind S T} {events : List (Effect S T C)} (h : Unwritten events) :
    ¬ Removes k events := by
  rintro ⟨o, ho, -⟩
  exact h o ho

theorem Unwritten.call {events : List (Effect S T C)} (h : Unwritten events) (c : C) : Unwritten (.call c :: events) := by
  intro o ho
  rcases List.mem_cons.mp ho with heq | ho
  · cases heq
  · exact h o ho

section Drop

variable [DecidableEq S] {k : Kind S T} {env : KubeEnv S}

/-- The finalizer is taken off when it is there and the write is taken. -/
theorem removes_dropFinalizer {s : Pass S T R C} (hs : Unwritten s.events) :
    Removes k ((dropFinalizer k env).exec s).2.events ↔
      k.finalizer ∈ s.obj.finalizers ∧ Taken k env.beforeUpdate env.update s := by
  unfold dropFinalizer
  rw [exec_bind, exec_get]
  dsimp only
  by_cases hmem : k.finalizer ∈ s.obj.finalizers
  · rw [if_pos hmem, exec_bind, exec_modify]
    dsimp only
    -- the write of the object without the finalizer
    have hend := write_end (C := C) k env.beforeUpdate env.update Object.written .objectWritten
      { s with obj := { s.obj with finalizers := s.obj.finalizers.filter (· ≠ k.finalizer) } }
    unfold updateObject
    generalize Proc.exec _ _ = out at hend ⊢
    have hremoved : ∀ (cur : Object S T) (events : List (Effect S T C)), Removes k (.objectWritten
        (Object.written { s.obj with finalizers := s.obj.finalizers.filter (· ≠ k.finalizer) } cur) :: events) :=
      fun cur events => ⟨_, List.mem_cons_self, fun h => by simp [Object.written] at h⟩
    cases hend with
    | refused e hrefused => exact ⟨fun h => absurd h hs.not_removes, fun h => absurd h.2 hrefused⟩
    | unheard cur e houtcome hcur hversion =>
      exact ⟨fun _ => ⟨hmem, houtcome, cur, hcur, hversion⟩, fun _ => hremoved cur _⟩
    | done cur houtcome hcur hversion => exact ⟨fun _ => ⟨hmem, houtcome, cur, hcur, hversion⟩, fun _ => hremoved cur _⟩
  · rw [if_neg hmem]
    exact ⟨fun h => absurd h hs.not_removes, fun h => absurd h.1 hmem⟩

theorem dropFinalizer_calls (s : Pass S T R C) (c : C) :
    Effect.call c ∈ ((dropFinalizer k env).exec s).2.events ↔ Effect.call c ∈ s.events := by
  have hkeeps : Keeps (fun s' : Pass S T R C => Effect.call c ∈ s'.events ↔ Effect.call c ∈ s.events)
      (dropFinalizer k env) := by
    refine keeps_dropFinalizer (fun _ _ hs => hs)
      (triple_write (fun _ _ hs => hs) (fun _ _ _ hs _ _ => ?_) fun _ _ hs _ _ => ?_)
    · simpa using hs
    · simpa using hs
  exact hkeeps.exec Iff.rfl

end Drop

/-! ## Why a finalizer may be taken off -/

/-- The call succeeded, or found nothing to delete. -/
def Settles : Except Err Unit → Prop
  | .ok () => True
  | .error (.notFound _) => True
  | .error (.rpc e) => e.code = .notFound
  | .error (.other _) => False

/-- The remote object was deleted or is gone, or there is nothing to talk to. -/
def Permitted (env : KubeEnv S) (ref : ClusterReference) (call : Except Err Unit → C) (events : List (Effect S T C)) :
    Prop :=
  (∃ answer, Effect.call (call answer) ∈ events ∧ Settles answer) ∨ TargetUnreachable env.target env.clientErr ref

/-- Deleting the remote object with `call` writes no object, and ends well only when the call is answered well. -/
def DeletesBy (m : Proc (Pass S T R C) Err Unit) (call : Except Err Unit → C) : Prop :=
  Triple (fun s => Unwritten s.events) m
    (fun _ s => Unwritten s.events ∧ ∃ answer, Effect.call (call answer) ∈ s.events ∧ Settles answer)
    fun _ s => Unwritten s.events

section Permitted

variable [DecidableEq S] {c : Controller S T R C} {env : KubeEnv S} {o : Object S T} {remote : R}
  {call : Except Err Unit → C}

def deletion (c : Controller S T R C) (env : KubeEnv S) (o : Object S T) (remote : R) : Pass S T R C :=
  ((c.reconcileObject env).exec { stored := some o, obj := o, remote := remote }).2

/-- When the target cannot be resolved or no client can be built, the finalizer is taken off without a call. -/
theorem deletion_forgets (hdeleting : o.deleting = true)
    (htarget : (∃ e, resolveTarget env.target (c.clusterRef o.spec) = .error e) ∨ env.clientErr ≠ none) :
    deletion c env o remote = ((dropFinalizer c.kind env).exec { stored := some o, obj := o, remote := remote }).2 := by
  unfold deletion Controller.reconcileObject Controller.removeFinalizerAndForget
  rw [exec_bind, exec_get]
  dsimp only
  cases hresolve : resolveTarget env.target (c.clusterRef o.spec) with
  | error e =>
    dsimp only
    rw [if_pos hdeleting, exec_then_pure]
  | ok target =>
    have hclient : env.clientErr ≠ none := htarget.resolve_left fun ⟨e, he⟩ => by
      rw [hresolve] at he
      cases he
    obtain ⟨e, he⟩ := Option.ne_none_iff_exists'.mp hclient
    dsimp only
    rw [he]
    dsimp only
    rw [if_pos hdeleting, exec_then_pure]

theorem deletion_deletes (hdeleting : o.deleting = true)
    {target : ResolvedTarget} (htarget : resolveTarget env.target (c.clusterRef o.spec) = .ok target)
    (hclient : env.clientErr = none) :
    deletion c env o remote = ((c.reconcileDelete env).exec { stored := some o, obj := o, remote := remote }).2 := by
  unfold deletion Controller.reconcileObject
  rw [exec_bind, exec_get]
  dsimp only
  rw [htarget]
  dsimp only
  rw [hclient]
  dsimp only
  rw [if_pos hdeleting, exec_then_pure]

/-- With a target and a client, the finalizer is taken off only after the remote object. -/
theorem reconcileDelete_answered (env : KubeEnv S) (hallow : c.allowDeletion o.spec = true)
    (hdelete : DeletesBy (c.remoteDelete o) call) :
    Triple (fun s => s.obj = o ∧ Unwritten s.events) (c.reconcileDelete env)
      (fun _ s => Unwritten s.events ∨ ∃ answer, Effect.call (call answer) ∈ s.events ∧ Settles answer)
      fun _ s => Unwritten s.events ∨ ∃ answer, Effect.call (call answer) ∈ s.events ∧ Settles answer := by
  refine triple_bind triple_get fun a => ?_
  dsimp only
  split
  · rintro s ⟨rfl, rfl, hs⟩
    have hallowed : Triple (fun s => Unwritten s.events) (c.deleteAllowed a.obj)
        (fun _ s => Unwritten s.events ∧ ∃ answer, Effect.call (call answer) ∈ s.events ∧ Settles answer)
        fun _ s => Unwritten s.events ∨ ∃ answer, Effect.call (call answer) ∈ s.events ∧ Settles answer := by
      unfold Controller.deleteAllowed
      rw [if_pos hallow]
      exact hdelete.conseq (fun _ hs => hs) (fun _ _ hs => hs) fun _ _ hs => .inl hs
    refine triple_bind hallowed (fun _ => triple_of_exec fun s hs => ?_) a hs
    obtain ⟨-, answer, hmem, hsettles⟩ := hs
    exact .inr ⟨answer, (dropFinalizer_calls s _).mpr hmem, hsettles⟩
  · exact triple_pure fun _ hs => .inl hs.2.2

/-- The finalizer is taken off for a permitted reason, except when the target could not be read. -/
theorem deletion_permitted_iff (hdeleting : o.deleting = true) (hallow : c.allowDeletion o.spec = true)
    (hdelete : DeletesBy (c.remoteDelete o) call) :
    (Removes c.kind (deletion c env o remote).events →
      Permitted env (c.clusterRef o.spec) call (deletion c env o remote).events) ↔
    ¬ (TargetUnreadable env.target (c.clusterRef o.spec) ∧ c.kind.finalizer ∈ o.finalizers ∧
      Taken c.kind env.beforeUpdate env.update ({ stored := some o, obj := o, remote := remote } : Pass S T R C)) := by
  have hnew : Unwritten ([] : List (Effect S T C)) := fun _ hmem => absurd hmem List.not_mem_nil
  constructor
  · rintro hpermitted ⟨hunreadable, hdropped⟩
    obtain ⟨e, he⟩ := hunreadable.resolveTarget
    rw [deletion_forgets hdeleting (.inl ⟨_, he⟩)] at hpermitted
    rcases hpermitted ((removes_dropFinalizer hnew).mpr hdropped) with ⟨answer, hmem, -⟩ | hunreachable
    · rw [dropFinalizer_calls] at hmem
      exact absurd hmem List.not_mem_nil
    · exact hunreadable.not_unreachable _ hunreachable
  · intro hreadable hremoved
    by_cases htarget : (∃ e, resolveTarget env.target (c.clusterRef o.spec) = .error e) ∨ env.clientErr ≠ none
    · rw [deletion_forgets hdeleting htarget] at hremoved
      refine .inr ((unreachable_or_unreadable htarget).resolve_right fun hunreadable => ?_)
      exact hreadable ⟨hunreadable, (removes_dropFinalizer hnew).mp hremoved⟩
    · rw [not_or, not_not] at htarget
      obtain ⟨hfound, hclient⟩ := htarget
      cases hresolve : resolveTarget env.target (c.clusterRef o.spec) with
      | error e => exact absurd ⟨e, hresolve⟩ hfound
      | ok target =>
        rw [deletion_deletes hdeleting hresolve hclient] at hremoved ⊢
        have hend := (reconcileDelete_answered env hallow hdelete).exec
          (s := { stored := some o, obj := o, remote := remote }) ⟨rfl, hnew⟩
        exact .inl (hend.resolve_left fun hquiet => hquiet.not_removes hremoved)

end Permitted

/-! ## The three kinds -/

/-- A call writes nothing and leaves its answer. -/
theorem remoteCall_answered {outcome : Outcome RpcErr} {change : R → Except RpcErr R} {call : Except Err Unit → C} :
    Triple (fun s : Pass S T R C => Unwritten s.events) (remoteCall outcome change call)
      (fun _ s => Unwritten s.events ∧ Effect.call (call (.ok ())) ∈ s.events)
      fun e s => Unwritten s.events ∧ Effect.call (call (.error e)) ∈ s.events := by
  refine triple_remoteCall (fun s r hs _ => ?_) fun s e r hs _ => ?_
  · exact ⟨hs.call _, List.mem_cons_self⟩
  · exact ⟨hs.call _, List.mem_cons_self⟩

theorem Namespace.deletesBy (env : Namespace.NamespaceEnv) (ns : Namespace.TemporalNamespace) :
    DeletesBy (Namespace.remoteDelete env ns) (.delete ns.name) := by
  refine triple_attempt_bind remoteCall_answered
    (fun _ => triple_pure fun s hs => ⟨hs.1, .ok (), hs.2, trivial⟩) fun e => ?_
  cases e with
  | notFound text => exact triple_pure fun s hs => ⟨hs.1, .error (.notFound text), hs.2, trivial⟩
  | rpc e => exact triple_throw fun s hs => hs.1
  | other e => exact triple_throw fun s hs => hs.1

theorem SearchAttribute.deletesBy (env : SearchAttribute.AttributeEnv) (sa : SearchAttribute.TemporalSearchAttribute) :
    DeletesBy (SearchAttribute.remoteDelete env sa) (.remove sa.spec.namespace_ sa.spec.name) := by
  refine triple_mapError (remoteCall_answered.conseq (fun _ hs => hs) (fun _ s hs => ?_) fun _ _ hs => hs.1)
  exact ⟨hs.1, .ok (), hs.2, trivial⟩

/-- The client's error tells of the code, and the controller goes on from it. -/
theorem Schedule.deletesBy {H : Type} (env : Schedule.ScheduleEnv) (sched : TemporalSchedule H) :
    DeletesBy (Schedule.remoteDelete env sched)
      (.delete sched.spec.namespace_ (resolveScheduleID sched.name sched.spec)) := by
  have hdelete : Triple (fun s : Schedule.SchedulePass H => Unwritten s.events)
      (Schedule.deleteSchedule env sched.spec.namespace_ (resolveScheduleID sched.name sched.spec))
      (fun _ s => Unwritten s.events ∧ ∃ answer, Effect.call (.delete sched.spec.namespace_
        (resolveScheduleID sched.name sched.spec) answer) ∈ s.events ∧ Settles answer)
      fun e s => Unwritten s.events ∧ (∀ text, e = .notFound text → ∃ answer, Effect.call (.delete sched.spec.namespace_
        (resolveScheduleID sched.name sched.spec) answer) ∈ s.events ∧ Settles answer) := by
    refine triple_attempt_bind remoteCall_answered
      (fun _ => triple_pure fun s hs => ⟨hs.1, .ok (), hs.2, trivial⟩) fun e => triple_throw fun s hs => ⟨hs.1, ?_⟩
    intro text htext
    refine ⟨.error e, hs.2, ?_⟩
    cases e with
    | notFound text => trivial
    | rpc e =>
      by_contra hcode
      have hkept : Schedule.clientErr (.rpc e) = .rpc e := if_neg hcode
      rw [hkept] at htext
      cases htext
    | other e => cases htext
  refine triple_attempt_bind hdelete (fun _ => triple_pure fun _ hs => hs) fun e => ?_
  cases e with
  | notFound text => exact triple_pure fun s hs => ⟨hs.1, hs.2 text rfl⟩
  | rpc e => exact triple_throw fun s hs => hs.1
  | other e => exact triple_throw fun s hs => hs.1

/-- **With `allowDeletion`, the finalizer goes only after the remote object has gone or when there is nothing to talk
to, unless the target could not be read.** For a namespace, a search attribute and a schedule that a pass has read as
being deleted, whatever the answers to its calls and whatever users do meanwhile. -/
theorem finalizer_removal_permitted_iff {H : Type} [DecidableEq H] (hash : ScheduleParams → H) :
    (∀ (env : Namespace.NamespaceEnv) (ns : Namespace.TemporalNamespace) (remote : Option Namespace.NamespaceInfo),
      ns.deleting = true → ns.spec.allowDeletion = true →
        let events := (deletion (Namespace.controller env) env.toKubeEnv ns remote).events
        (Removes Namespace.kind events → Permitted env.toKubeEnv ns.spec.clusterRef (.delete ns.name) events) ↔
          ¬ (TargetUnreadable env.target ns.spec.clusterRef ∧ Namespace.namespaceFinalizer ∈ ns.finalizers ∧
            Taken Namespace.kind env.beforeUpdate env.update
              ({ stored := some ns, obj := ns, remote := remote } : Namespace.NamespacePass))) ∧
    (∀ (env : SearchAttribute.AttributeEnv) (sa : SearchAttribute.TemporalSearchAttribute)
        (remote : SearchAttribute.Attributes),
      sa.deleting = true → sa.spec.allowDeletion = true →
        let events := (deletion (SearchAttribute.controller env) env.toKubeEnv sa remote).events
        (Removes SearchAttribute.kind events →
          Permitted env.toKubeEnv sa.spec.clusterRef (.remove sa.spec.namespace_ sa.spec.name) events) ↔
          ¬ (TargetUnreadable env.target sa.spec.clusterRef ∧
            SearchAttribute.searchAttributeFinalizer ∈ sa.finalizers ∧
            Taken SearchAttribute.kind env.beforeUpdate env.update
              ({ stored := some sa, obj := sa, remote := remote } : SearchAttribute.AttributePass))) ∧
    ∀ (env : Schedule.ScheduleEnv) (sched : TemporalSchedule H) (remote : Option ProtoSchedule),
      sched.deleting = true → sched.spec.allowDeletion = true →
        let events := (deletion (Schedule.controller hash env) env.toKubeEnv sched remote).events
        (Removes (Schedule.kind (H := H)) events → Permitted env.toKubeEnv sched.spec.clusterRef
          (.delete sched.spec.namespace_ (resolveScheduleID sched.name sched.spec)) events) ↔
          ¬ (TargetUnreadable env.target sched.spec.clusterRef ∧ Schedule.scheduleFinalizer ∈ sched.finalizers ∧
            Taken Schedule.kind env.beforeUpdate env.update
              ({ stored := some sched, obj := sched, remote := remote } : Schedule.SchedulePass H)) := by
  refine ⟨?_, ?_, ?_⟩
  · intro env ns remote hdeleting hallow
    exact deletion_permitted_iff (c := Namespace.controller env) hdeleting hallow (Namespace.deletesBy env ns)
  · intro env sa remote hdeleting hallow
    exact deletion_permitted_iff (c := SearchAttribute.controller env) hdeleting hallow (SearchAttribute.deletesBy env sa)
  · intro env sched remote hdeleting hallow
    exact deletion_permitted_iff (c := Schedule.controller hash env) hdeleting hallow (Schedule.deletesBy env sched)

def sampleNamespace : Namespace.TemporalNamespace where
  name := "orders"
  deleting := true
  finalizers := [Namespace.namespaceFinalizer]
  spec := { clusterRef := { name := "dev", kind := "TemporalDevServer" }, allowDeletion := true }
  status := {}

def smoothTarget : TargetIO := { getDevServer := .ok {} }

theorem finalizer_removal_permitted_iff_sample :
    let env : Namespace.NamespaceEnv := { target := smoothTarget }
    let events := (deletion (Namespace.controller env) env.toKubeEnv sampleNamespace (some {})).events
    Removes Namespace.kind events ∧
      Permitted env.toKubeEnv sampleNamespace.spec.clusterRef (.delete "orders") events := by
  intro env events
  have hevents : events =
      [.objectWritten { sampleNamespace with finalizers := [], resourceVersion := 1 },
        .call (.delete "orders" (.ok ()))] := by
    decide +kernel
  have hremoves : Removes Namespace.kind events := by
    rw [hevents]
    exact ⟨_, List.mem_cons_self, List.not_mem_nil⟩
  refine ⟨hremoves, ((finalizer_removal_permitted_iff id).1 env sampleNamespace (some {}) rfl rfl).mpr ?_ hremoves⟩
  rintro ⟨⟨e, he, -⟩, -⟩
  cases he

/-- A read of the dev server that times out. The namespace stays in Temporal, and its object goes. -/
theorem unread_target_forgets_namespace :
    let env : Namespace.NamespaceEnv := { target := { getDevServer := .error ⟨.other, "etcdserver: request timed out"⟩ } }
    let out := deletion (Namespace.controller env) env.toKubeEnv sampleNamespace (some {})
    Removes Namespace.kind out.events ∧ out.stored = none ∧ out.remote = some {} ∧
      ¬ Permitted env.toKubeEnv sampleNamespace.spec.clusterRef (.delete "orders") out.events := by
  intro env out
  have hevents : out.events = [.objectWritten { sampleNamespace with finalizers := [], resourceVersion := 1 }] := by
    decide +kernel
  refine ⟨?_, by decide +kernel, by decide +kernel, ?_⟩
  · rw [hevents]
    exact ⟨_, List.mem_cons_self, List.not_mem_nil⟩
  · rintro (⟨answer, hmem, -⟩ | hunreachable)
    · rw [hevents] at hmem
      cases List.mem_singleton.mp hmem
    · have hunreadable : TargetUnreadable env.target sampleNamespace.spec.clusterRef :=
        ⟨⟨.other, "etcdserver: request timed out"⟩, rfl, by decide⟩
      exact hunreadable.not_unreachable _ hunreachable

/-! ## A remote object that is gone -/

def Unchanged (o : Object S T) (remote : R) (s : Pass S T R C) : Prop := s.stored = some o ∧ s.remote = remote

theorem remoteCall_refused {change : R → Except RpcErr R} (call : Except Err Unit → C) (o : Object S T) {remote : R}
    {e : RpcErr} (hchange : change remote = .error e) :
    Triple (Unchanged o remote) (remoteCall .done change call) (fun _ _ => False)
      fun e' s => e' = .rpc e ∧ Unchanged o remote s := by
  have hserve : serve .done change remote = (.error e, remote) := by rw [serve, hchange]
  refine triple_remoteCall (fun s r hs hr => ?_) fun s e' r hs hr => ?_
  · rw [hs.2, hserve] at hr
    cases hr
  · rw [hs.2, hserve] at hr
    cases hr
    exact ⟨rfl, hs.1, rfl⟩

/-- When the remote object cannot be deleted, a pass leaves everything as it was. -/
theorem deletion_stuck [DecidableEq S] {c : Controller S T R C} {env : KubeEnv S} {o : Object S T} {remote : R}
    (hdeleting : o.deleting = true) (hallow : c.allowDeletion o.spec = true)
    (htarget : ∃ target, resolveTarget env.target (c.clusterRef o.spec) = .ok target) (hclient : env.clientErr = none)
    (hfails : Triple (Unchanged o remote) (c.remoteDelete o) (fun _ _ => False) fun _ => Unchanged o remote) :
    Unchanged o remote (deletion c env o remote) := by
  obtain ⟨target, htarget⟩ := htarget
  have hdelete : Triple (fun s => s.obj = o ∧ Unchanged o remote s) (c.reconcileDelete env)
      (fun _ => Unchanged o remote) fun _ => Unchanged o remote := by
    refine triple_bind triple_get fun a => ?_
    dsimp only
    split
    · rintro s ⟨rfl, rfl, hs⟩
      unfold Controller.deleteAllowed
      rw [if_pos hallow]
      exact triple_bind hfails (fun _ _ hs => hs.elim) a hs
    · exact triple_pure fun _ hs => hs.2.2
  rw [deletion_deletes hdeleting htarget hclient]
  exact hdelete.exec ⟨rfl, rfl, rfl⟩

theorem Namespace.remoteDelete_gone {env : Namespace.NamespaceEnv} (hdelete : env.deleteNamespace = .done)
    (ns : Namespace.TemporalNamespace) :
    Triple (Unchanged ns none) (Namespace.remoteDelete env ns) (fun _ _ => False) fun _ => Unchanged ns none := by
  have hserver : Namespace.serverDelete none = .error ⟨.notFound, "namespace not found"⟩ := rfl
  have hcall := remoteCall_refused (Namespace.NamespaceCall.delete ns.name) ns hserver
  rw [← hdelete] at hcall
  refine triple_attempt_bind hcall (fun _ _ hs => hs.elim) fun e => ?_
  rintro s ⟨rfl, hs⟩
  exact hs

theorem SearchAttribute.remoteDelete_gone {env : SearchAttribute.AttributeEnv} (hremove : env.remove = .done)
    {sa : SearchAttribute.TemporalSearchAttribute} {remote : SearchAttribute.Attributes}
    (hgone : remote.lookup sa.spec.name = none) :
    Triple (Unchanged sa remote) (SearchAttribute.remoteDelete env sa) (fun _ _ => False)
      fun _ => Unchanged sa remote := by
  have hserver : SearchAttribute.serverRemove sa.spec.name remote = .error ⟨.notFound, "search attribute not found"⟩ := by
    unfold SearchAttribute.serverRemove
    rw [hgone]
    rfl
  have hcall := remoteCall_refused (SearchAttribute.AttributeCall.remove sa.spec.namespace_ sa.spec.name) sa hserver
  rw [← hremove] at hcall
  exact triple_mapError (hcall.conseq (fun _ hs => hs) (fun _ _ hs => hs) fun _ _ hs => hs.2)

theorem Unchanged.removed_iff {o : Object S T} {remote : R} {s : Pass S T R C} (h : Unchanged o remote s)
    (finalizer : String) : (∀ o' ∈ s.stored, finalizer ∉ o'.finalizers) ↔ finalizer ∉ o.finalizers := by
  rw [h.1]
  simp

/-- **A deletion whose remote object is gone is never finished: it ends without the finalizer only if it began
without.** The server answers `NotFound`; the target, the client and the API server do their part. -/
theorem gone_remote_deletion_finishes_iff (env : Namespace.NamespaceEnv) (ns : Namespace.TemporalNamespace)
    (env' : SearchAttribute.AttributeEnv) (sa : SearchAttribute.TemporalSearchAttribute)
    (remote : SearchAttribute.Attributes) :
    (ns.deleting = true → ns.spec.allowDeletion = true →
      (∃ target, resolveTarget env.target ns.spec.clusterRef = .ok target) → env.clientErr = none →
      env.deleteNamespace = .done →
      Taken Namespace.kind env.beforeUpdate env.update
        ({ stored := some ns, obj := ns, remote := none } : Namespace.NamespacePass) →
        ((∀ ns' ∈ (deletion (Namespace.controller env) env.toKubeEnv ns none).stored,
          Namespace.namespaceFinalizer ∉ ns'.finalizers) ↔ Namespace.namespaceFinalizer ∉ ns.finalizers)) ∧
    (sa.deleting = true → sa.spec.allowDeletion = true →
      (∃ target, resolveTarget env'.target sa.spec.clusterRef = .ok target) → env'.clientErr = none →
      env'.remove = .done → remote.lookup sa.spec.name = none →
      Taken SearchAttribute.kind env'.beforeUpdate env'.update
        ({ stored := some sa, obj := sa, remote := remote } : SearchAttribute.AttributePass) →
        ((∀ sa' ∈ (deletion (SearchAttribute.controller env') env'.toKubeEnv sa remote).stored,
          SearchAttribute.searchAttributeFinalizer ∉ sa'.finalizers) ↔
          SearchAttribute.searchAttributeFinalizer ∉ sa.finalizers)) := by
  constructor
  · intro hdeleting hallow htarget hclient hdelete _
    have hstuck := deletion_stuck (c := Namespace.controller env) hdeleting hallow htarget hclient
      (Namespace.remoteDelete_gone hdelete ns)
    exact hstuck.removed_iff _
  · intro hdeleting hallow htarget hclient hremove hgone _
    have hstuck := deletion_stuck (c := SearchAttribute.controller env') hdeleting hallow htarget hclient
      (SearchAttribute.remoteDelete_gone hremove hgone)
    exact hstuck.removed_iff _

def sampleAttribute : SearchAttribute.TemporalSearchAttribute where
  name := "region"
  deleting := true
  finalizers := [SearchAttribute.searchAttributeFinalizer]
  spec :=
    { clusterRef := { name := "dev", kind := "TemporalDevServer" }, namespace_ := "orders", name := "Region"
      type := .keyword, allowDeletion := true }
  status := {}

/-- Another finalizer still holds the objects. -/
theorem gone_remote_deletion_finishes_iff_sample :
    let env : Namespace.NamespaceEnv := { target := smoothTarget }
    let env' : SearchAttribute.AttributeEnv := { target := smoothTarget }
    let ns : Namespace.TemporalNamespace := { sampleNamespace with finalizers := ["example.com/audit"] }
    let sa : SearchAttribute.TemporalSearchAttribute := { sampleAttribute with finalizers := ["example.com/audit"] }
    (∀ ns' ∈ (deletion (Namespace.controller env) env.toKubeEnv ns none).stored,
      Namespace.namespaceFinalizer ∉ ns'.finalizers) ∧
    ∀ sa' ∈ (deletion (SearchAttribute.controller env') env'.toKubeEnv sa []).stored,
      SearchAttribute.searchAttributeFinalizer ∉ sa'.finalizers := by
  intro env env' ns sa
  obtain ⟨hns, hsa⟩ := gone_remote_deletion_finishes_iff env ns env' sa []
  constructor
  · refine (hns rfl rfl ⟨_, rfl⟩ rfl rfl ⟨fun e h => ?_, ns, rfl, rfl⟩).mpr (by decide)
    cases h
  · refine (hsa rfl rfl ⟨_, rfl⟩ rfl rfl rfl ⟨fun e h => ?_, sa, rfl, rfl⟩).mpr (by decide)
    cases h

/-- The namespace is deleted, but the write that takes the finalizer off fails. From then on every pass in which nothing
fails ends with the server's `NotFound`, and the object stays. -/
theorem deleted_namespace_stuck :
    let w : Namespace.NamespaceWorld := ⟨some sampleNamespace, some {}⟩
    let w₁ := (Namespace.reconcilePass w { target := smoothTarget, update := .failed ⟨.other, "timeout"⟩ }).1
    w₁.stored = some sampleNamespace ∧ w₁.remote = none ∧
      (Namespace.reconcilePass w₁ { target := smoothTarget }).1 = w₁ := by
  intro w w₁
  refine ⟨by decide +kernel, by decide +kernel, ?_⟩
  have hpass : (Namespace.reconcilePass w₁ { target := smoothTarget }).1.stored = w₁.stored ∧
      (Namespace.reconcilePass w₁ { target := smoothTarget }).1.remote = w₁.remote := by decide +kernel
  exact congrArg₂ World.mk hpass.1 hpass.2

end TemporalOperator.Satellite
