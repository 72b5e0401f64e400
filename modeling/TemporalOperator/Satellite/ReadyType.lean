import TemporalOperator.Satellite.SearchAttribute

/-!
# Ready search attributes

The controller takes a search attribute for registered as soon as one of its name is listed, and does not look at its
type; the server adds no second attribute of a name.

* `triple_reconcileObject_ready` : a pass that writes a ready status has it from `ensureRegistered`, for every controller
  of the common shape;
* `ready_attribute_has_type_iff` : when the type is the declared one; `ready_with_other_type`.
-/

namespace TemporalOperator.Satellite
open Lib Proc

/-! ## Where a ready status comes from -/

section Ready

variable {S T R C : Type} [DecidableEq S] {c : Controller S T R C} {env : KubeEnv S} {o : Object S T}
  {ready : T → Prop} {Good : R → Prop}

def NoStatus (s : Pass S T R C) : Prop := ∀ st, Effect.statusWritten st ∉ s.events

/-- A ready status has been written only with the server as it is to be. -/
def ReadyGood (ready : T → Prop) (Good : R → Prop) (s : Pass S T R C) : Prop :=
  ∀ st, Effect.statusWritten st ∈ s.events → ready st → Good s.remote

omit [DecidableEq S] in
theorem NoStatus.readyGood {s : Pass S T R C} (h : NoStatus s) : ReadyGood ready Good s :=
  fun st hst => absurd hst (h st)

/-- Nothing but the object's finalizers has changed. -/
def Untouched (o : Object S T) (remote : R) (s : Pass S T R C) : Prop :=
  s.obj.spec = o.spec ∧ s.remote = remote ∧ NoStatus s

omit [DecidableEq S] in
theorem NoStatus.objectWritten {s : Pass S T R C} (hs : NoStatus s) (o' : Object S T) (st : T) :
    Effect.statusWritten st ∉ .objectWritten o' :: s.events := by
  intro hst
  rcases List.mem_cons.mp hst with heq | hst
  · cases heq
  · exact hs st hst

omit [DecidableEq S] in
theorem NoStatus.call {s : Pass S T R C} (hs : NoStatus s) (call : C) (st : T) :
    Effect.statusWritten st ∉ .call call :: s.events := by
  intro hst
  rcases List.mem_cons.mp hst with heq | hst
  · cases heq
  · exact hs st hst

theorem keeps_noStatus_updateObject (k : Kind S T) :
    Keeps NoStatus (updateObject k env : Proc (Pass S T R C) Err Unit) :=
  triple_write (fun _ _ hs => hs) (fun _ _ _ hs _ _ => hs.objectWritten _) fun _ _ hs _ _ => hs.objectWritten _

theorem keeps_untouched_updateObject (k : Kind S T) (remote : R) :
    Keeps (Untouched o remote) (updateObject k env : Proc (Pass S T R C) Err Unit) := by
  refine triple_write (fun s e hs => hs) (fun s cur e hs _ _ => ?_) fun s cur hs _ _ => ?_
  · exact ⟨hs.1, hs.2.1, hs.2.2.objectWritten _⟩
  · exact ⟨hs.1, hs.2.1, hs.2.2.objectWritten _⟩

theorem triple_statusUpdate_ready (k : Kind S T) :
    Triple (fun s : Pass S T R C => NoStatus s ∧ (ready (k.persist s.obj.status) → Good s.remote)) (statusUpdate k env)
      (fun _ => ReadyGood ready Good) fun _ => ReadyGood ready Good := by
  have hwritten {s : Pass S T R C} (hs : NoStatus s ∧ (ready (k.persist s.obj.status) → Good s.remote))
      (st : T) (hst : Effect.statusWritten st ∈ Effect.statusWritten (k.persist s.obj.status) :: s.events)
      (hready : ready st) : Good s.remote := by
    rcases List.mem_cons.mp hst with heq | hst
    · obtain rfl := Effect.statusWritten.inj heq
      exact hs.2 hready
    · exact absurd hst (hs.1 st)
  have hwrite : Triple (fun s : Pass S T R C => NoStatus s ∧ (ready (k.persist s.obj.status) → Good s.remote))
      (updateStatusObject k env) (fun _ => ReadyGood ready Good) fun _ => ReadyGood ready Good := by
    refine triple_write (fun s e hs => ?_) (fun s cur e hs _ _ => hwritten hs) fun s cur hs _ _ => hwritten hs
    exact NoStatus.readyGood hs.1
  refine (triple_ignoreNotFound hwrite).conseq (fun _ hs => hs) ?_ fun _ _ hs => hs
  rintro _ s (hs | ⟨-, -, hs⟩) <;> exact hs

theorem triple_report_ready
    (hreport : ∀ o reason message, ¬ ready (c.kind.persist (c.readyStatus o .false reason message)))
    (reason message : String) (requeue : GoDuration) :
    Triple NoStatus (c.report env .false reason message requeue) (fun _ => ReadyGood ready Good)
      fun _ => ReadyGood ready Good := by
  refine triple_bind (triple_modify (Q := fun _ s => NoStatus s ∧ (ready (c.kind.persist s.obj.status) → Good s.remote))
    fun s hs => ⟨hs, fun h => absurd h (hreport _ _ _)⟩) fun _ => ?_
  exact triple_bind (triple_statusUpdate_ready c.kind) fun _ => triple_pure fun _ hs => hs

variable (hreport : ∀ o reason message, ¬ ready (c.kind.persist (c.readyStatus o .false reason message)))
include hreport

theorem triple_reconcilePresent_ready {remote : R} {target : ResolvedTarget}
    (hensure : Triple (Untouched o remote) c.ensureRegistered
      (fun r s => NoStatus s ∧ (ready (c.kind.persist (r.1 s.obj)) → Good s.remote)) fun _ => NoStatus) :
    Triple (Untouched o remote) (c.reconcilePresent env target) (fun _ => ReadyGood ready Good)
      fun _ => ReadyGood ready Good := by
  have hfinalizer : Triple (Untouched o remote) (ensureFinalizer c.kind env : Proc (Pass S T R C) Err Unit)
      (fun _ => Untouched o remote) fun _ => ReadyGood ready Good :=
    (keeps_ensureFinalizer (fun _ _ hs => hs) (keeps_untouched_updateObject c.kind remote)).conseq (fun _ hs => hs)
      (fun _ _ hs => hs) fun _ _ hs => hs.2.2.readyGood
  refine triple_bind hfinalizer fun _ => ?_
  split
  · exact (triple_report_ready hreport _ _ _).pre fun _ hs => hs.2.2
  · refine triple_attempt_bind hensure (fun r => ?_) fun e => ?_
    · refine triple_bind (triple_modify (Q := fun _ s => NoStatus s ∧
        (ready (c.kind.persist s.obj.status) → Good s.remote)) fun s hs => hs) fun _ => ?_
      exact triple_bind (triple_statusUpdate_ready c.kind) fun _ => triple_pure fun _ hs => hs
    · dsimp only
      split
      · exact triple_report_ready hreport _ _ _
      · exact triple_throw fun _ hs => hs.readyGood

/-- **A ready status comes from `ensureRegistered`**, also in passes that fail. -/
theorem triple_reconcileObject_ready {remote : R}
    (hensure : Triple (Untouched o remote) c.ensureRegistered
      (fun r s => NoStatus s ∧ (ready (c.kind.persist (r.1 s.obj)) → Good s.remote)) fun _ => NoStatus)
    (hdelete : ∀ o, Keeps NoStatus (c.remoteDelete o)) :
    Triple (Untouched o remote) (c.reconcileObject env) (fun _ => ReadyGood ready Good) fun _ => ReadyGood ready Good := by
  have hdrop : Triple NoStatus (dropFinalizer c.kind env : Proc (Pass S T R C) Err Unit)
      (fun _ => ReadyGood ready Good) fun _ => ReadyGood ready Good :=
    (keeps_dropFinalizer (fun _ _ hs => hs) (keeps_noStatus_updateObject c.kind)).conseq (fun _ hs => hs)
      (fun _ _ hs => hs.readyGood) fun _ _ hs => hs.readyGood
  have hforget : Triple NoStatus (c.removeFinalizerAndForget env >>= fun _ => pure (0 : GoDuration))
      (fun _ => ReadyGood ready Good) fun _ => ReadyGood ready Good :=
    triple_bind hdrop fun _ => triple_pure fun _ hs => hs
  have hdeletes : Triple NoStatus (c.reconcileDelete env) (fun _ => ReadyGood ready Good)
      fun _ => ReadyGood ready Good := by
    refine triple_bind triple_get fun a => Triple.pre (P := NoStatus) ?_ fun _ hs => hs.2
    dsimp only
    split
    · refine triple_bind (Q := fun _ => NoStatus) ?_ fun _ => hdrop
      unfold Controller.deleteAllowed
      split
      · exact (hdelete _).conseq (fun _ hs => hs) (fun _ _ hs => hs) fun _ _ hs => hs.readyGood
      · exact triple_pure fun _ hs => hs
    · exact triple_pure fun _ hs => NoStatus.readyGood hs
  have hstart : ∀ s : Pass S T R C, Untouched o remote s → NoStatus s := fun _ hs => hs.2.2
  refine triple_bind triple_get fun a => Triple.pre (P := Untouched o remote) ?_ fun _ hs => hs.2
  dsimp only
  cases resolveTarget env.target (c.clusterRef a.obj.spec) with
  | error e =>
    dsimp only
    split
    · exact hforget.pre hstart
    · cases e with
      | notFound => exact (triple_report_ready hreport _ _ _).pre hstart
      | other e => exact triple_throw fun _ hs => hs.2.2.readyGood
  | ok target =>
    dsimp only
    cases env.clientErr with
    | some e =>
      dsimp only
      split
      · exact hforget.pre hstart
      · exact triple_throw fun _ hs => hs.2.2.readyGood
    | none =>
      dsimp only
      split
      · exact triple_bind (hdeletes.pre hstart) fun _ => triple_pure fun _ hs => hs
      · exact triple_reconcilePresent_ready hreport hensure

end Ready

namespace SearchAttribute

/-! ## Search attributes -/

def ReadyRegistered (st : TemporalSearchAttributeStatus) : Prop :=
  st.registered = true ∧ isStatusConditionTrue .ready st.conditions = true

instance (st : TemporalSearchAttributeStatus) : Decidable (ReadyRegistered st) := inferInstanceAs (Decidable (_ ∧ _))

def NoOtherType (spec : TemporalSearchAttributeSpec) (remote : Attributes) : Prop :=
  ∀ t ∈ remote.lookup spec.name, t = spec.type

instance (spec : TemporalSearchAttributeSpec) (remote : Attributes) : Decidable (NoOtherType spec remote) :=
  inferInstanceAs (Decidable (∀ t ∈ remote.lookup spec.name, _))

/-- The type is the declared one exactly when there was no attribute of another type before. -/
def TypedIff (spec : TemporalSearchAttributeSpec) (before after : Attributes) : Prop :=
  after.lookup spec.name = some spec.type ↔ NoOtherType spec before

theorem readyStatus_false (sa : TemporalSearchAttribute) (reason message : String) :
    ¬ ReadyRegistered (kind.persist (readyStatus sa .false reason message)) := by
  rintro ⟨-, hready⟩
  have hfalse := isTrue_set_self
    (⟨ConditionType.ready, .false, reason, message, sa.generation⟩ : Condition ConditionType) sa.status.conditions
  cases hready.symm.trans hfalse

/-- The server is left as it is, and no status is written. -/
def Kept (remote : Attributes) (s : AttributePass) : Prop := s.remote = remote ∧ NoStatus s

theorem triple_list (env : AttributeEnv) (n : Nat) (namespace_ : String) (remote : Attributes) :
    Triple (Kept remote) (list env n namespace_) (fun attrs s => (∀ a ∈ attrs, a ∈ remote) ∧ Kept remote s)
      fun _ => Kept remote := by
  refine triple_bind triple_get fun a => ?_
  rintro s ⟨rfl, hs⟩
  cases henv : env.list n with
  | error e =>
    have hanswer : listAnswer env n a.remote = .error (.rpc e) := by rw [listAnswer, henv]
    rw [hanswer]
    exact ⟨hs.1, NoStatus.call hs.2 _⟩
  | ok hidden =>
    have hanswer : listAnswer env n a.remote = .ok (remote.filter (·.1 ∉ hidden)) := by rw [listAnswer, henv, hs.1]
    rw [hanswer]
    exact ⟨fun a ha => (List.mem_filter.mp ha).1, hs.1, NoStatus.call hs.2 _⟩

theorem triple_attributeVisible (env : AttributeEnv) (sa : TemporalSearchAttribute) (remote : Attributes) :
    Triple (Kept remote) (attributeVisible env sa) (fun _ => Kept remote) fun _ => NoStatus :=
  triple_attempt_bind (triple_list env 1 _ remote) (fun _ => triple_pure fun _ hs => hs.2)
    fun _ => triple_pure fun _ hs => hs

theorem typedIff_of_found {spec : TemporalSearchAttributeSpec} {attrs remote : Attributes}
    (hattrs : ∀ a ∈ attrs, a ∈ remote) (hfound : (attrs.lookup spec.name).isSome = true) : TypedIff spec remote remote := by
  have hthere : (remote.lookup spec.name).isSome = true := by
    obtain ⟨a, ha, hname⟩ := List.lookup_isSome_iff.mp hfound
    exact List.lookup_isSome_iff.mpr ⟨a, hattrs a ha, hname⟩
  obtain ⟨type, htype⟩ := Option.isSome_iff_exists.mp hthere
  simp [TypedIff, NoOtherType, htype]

theorem typedIff_of_added {spec : TemporalSearchAttributeSpec} {remote remote' : Attributes}
    (hadded : serverAdd spec.name spec.type remote = .ok remote') : TypedIff spec remote remote' := by
  unfold serverAdd at hadded
  split at hadded
  case isTrue => cases hadded
  case isFalse hnone =>
    rw [Bool.not_eq_true, Option.isSome_eq_false_iff, Option.isNone_iff_eq_none] at hnone
    obtain rfl := Except.ok.inj hadded
    simp [TypedIff, NoOtherType, hnone]

theorem triple_ensureRegistered_typed (env : AttributeEnv) (sa : TemporalSearchAttribute) (remote : Attributes) :
    Triple (Kept remote) (ensureRegistered env sa)
      (fun visible s => NoStatus s ∧ (visible = true → TypedIff sa.spec remote s.remote)) fun _ => NoStatus := by
  refine triple_bind (triple_mapError ((triple_list env 0 _ remote).conseq (fun _ hs => hs) (fun _ _ hs => hs)
    fun _ _ hs => hs.2)) fun attrs => ?_
  split
  case isTrue hfound =>
    refine triple_pure fun s hs => ⟨hs.2.2, fun _ => ?_⟩
    rw [hs.2.1]
    exact typedIff_of_found hs.1 hfound
  case isFalse =>
    have hadd : Triple (fun s => (∀ a ∈ attrs, a ∈ remote) ∧ Kept remote s) (add env sa)
        (fun _ s => NoStatus s ∧ TypedIff sa.spec remote s.remote) fun _ => NoStatus := by
      refine triple_remoteCall (fun s r hs hr => ⟨hs.2.2.call _, ?_⟩) fun s _ _ hs _ => hs.2.2.call _
      rw [hs.2.1] at hr
      exact typedIff_of_added (serve_eq_ok hr)
    refine triple_bind (triple_mapError hadd) fun _ s hs => ?_
    have hvisible : Triple (Kept s.remote) (attributeVisible env sa)
        (fun visible s' => NoStatus s' ∧ (visible = true → TypedIff sa.spec remote s'.remote)) fun _ => NoStatus :=
      (triple_attributeVisible env sa s.remote).conseq (fun _ hs => hs)
        (fun _ s' hs' => ⟨hs'.2, fun _ => hs'.1 ▸ hs.2⟩) fun _ _ hs => hs
    exact hvisible s ⟨rfl, hs.1⟩

theorem triple_controller_typed (env : AttributeEnv) (o : TemporalSearchAttribute) (remote : Attributes) :
    Triple (Untouched o remote) (controller env).ensureRegistered
      (fun r s => NoStatus s ∧ (ReadyRegistered (kind.persist (r.1 s.obj)) → TypedIff o.spec remote s.remote))
      fun _ => NoStatus := by
  refine triple_bind triple_get fun a => ?_
  rintro s ⟨rfl, hspec, hremote, hs⟩
  rw [← hspec]
  refine triple_bind (R := fun (r : (TemporalSearchAttribute → TemporalSearchAttributeStatus) × GoDuration) s' =>
    NoStatus s' ∧ (ReadyRegistered (kind.persist (r.1 s'.obj)) → TypedIff a.obj.spec remote s'.remote))
    (triple_ensureRegistered_typed env a.obj remote) (fun visible => ?_) a ⟨hremote, hs⟩
  cases visible with
  | true => exact triple_pure fun _ hs => ⟨hs.1, fun _ => hs.2 rfl⟩
  | false => exact triple_pure fun s hs => ⟨hs.1, fun hready => absurd hready (readyStatus_false s.obj _ _)⟩

theorem keeps_noStatus_remoteDelete (env : AttributeEnv) (o : TemporalSearchAttribute) :
    Keeps NoStatus ((controller env).remoteDelete o) :=
  triple_mapError (triple_remoteCall (fun _ _ hs _ => NoStatus.call hs _) fun _ _ _ hs _ => NoStatus.call hs _)

/-- **A ready search attribute has the declared type** after the pass that reports it, exactly when the server had no
attribute of the name with another type before. -/
theorem ready_attribute_has_type_iff {w : AttributeWorld} {env : AttributeEnv} {o : TemporalSearchAttribute}
    (hread : (reconcilePass w env).2.read = some o) {st : TemporalSearchAttributeStatus}
    (hwritten : Effect.statusWritten st ∈ (reconcilePass w env).2.events) (hready : ReadyRegistered st) :
    (reconcilePass w env).1.remote.lookup o.spec.name = some o.spec.type ↔ NoOtherType o.spec w.remote := by
  unfold reconcilePass at hread hwritten ⊢
  rcases pass_cases kind AttributeEnv.toKubeEnv (fun env => (controller env).reconcileObject env.toKubeEnv) w env with
    hpass | ⟨o', s, -, -, hs, hpass⟩
  · rw [hpass] at hread
    cases hread
  · rw [hpass] at hread hwritten ⊢
    obtain rfl := Option.some.inj hread
    have htriple : Triple (Untouched o' w.remote) ((controller env).reconcileObject env.toKubeEnv)
        (fun _ => ReadyGood ReadyRegistered (TypedIff o'.spec w.remote))
        fun _ => ReadyGood ReadyRegistered (TypedIff o'.spec w.remote) :=
      triple_reconcileObject_ready readyStatus_false (triple_controller_typed env o' w.remote)
        (keeps_noStatus_remoteDelete env)
    have hgood := htriple.exec (s := { stored := some o', obj := o', remote := w.remote })
      ⟨rfl, rfl, fun _ h => absurd h List.not_mem_nil⟩
    rw [← hs] at hgood
    exact hgood st hwritten hready

def customerID : TemporalSearchAttribute where
  name := "customer-id"
  spec :=
    { clusterRef := { name := "dev", kind := "TemporalDevServer" }, namespace_ := "orders", name := "CustomerID"
      type := .keyword }
  status := {}

def readyEnv : AttributeEnv where
  target := { getDevServer := .ok { conditions := [⟨.ready, .true, "Ready", "", 0⟩] } }

def readyAttribute : TemporalSearchAttributeStatus := registeredStatus readyEnv customerID

theorem ready_attribute_has_type_added :
    let w : AttributeWorld := ⟨some customerID, [("Region", .text)]⟩
    let r := reconcilePass w readyEnv
    Effect.statusWritten readyAttribute ∈ r.2.events ∧ ReadyRegistered readyAttribute ∧
      r.1.remote.lookup "CustomerID" = some .keyword := by
  intro w r
  have hread : r.2.read = some customerID := by decide +kernel
  have hwritten : Effect.statusWritten readyAttribute ∈ r.2.events := by decide +kernel
  have hready : ReadyRegistered readyAttribute := by decide
  have hnone : NoOtherType customerID.spec w.remote := by decide
  exact ⟨hwritten, hready, (ready_attribute_has_type_iff hread hwritten hready).mpr hnone⟩

/-- An attribute of the name is there with type Int: the pass changes nothing and reports it as ready. -/
theorem ready_with_other_type :
    let w : AttributeWorld := ⟨some customerID, [("CustomerID", .int)]⟩
    let r := reconcilePass w readyEnv
    Effect.statusWritten readyAttribute ∈ r.2.events ∧ ReadyRegistered readyAttribute ∧
      customerID.spec.type = .keyword ∧ r.1.remote.lookup "CustomerID" = some .int := by
  decide +kernel

end SearchAttribute

end TemporalOperator.Satellite
