import TemporalOperator.Lib.Runs
import TemporalOperator.Satellite.Pass

/-!
# Controllers that apply objects

`internal/controller/apply.go` and the status writes of the controllers for dev servers and cluster clients. Their passes
read an object, apply others that are built from it, and write the status at the end; a status write that meets another
version is given up without an error.

* `serverSideApply` : an object is applied, which may fail before or after it has taken effect;
* `Applied`, `Stopped` : how far a pass is; `StatusEnd`, `triple_updateStatusObject` : the status write at its end;
* `PassEnd` : how such a pass can end; `run_induction` : from this, what every run keeps.
-/

namespace TemporalOperator.Satellite
open Lib Proc

variable {S T R C O : Type}

/-- `serverSideApply`; `put` is what the API server makes of the objects it has. -/
def serverSideApply (put : R → O → R) (call : O → Except Err Unit → C) (outcome : Outcome GoErr) (obj : O) :
    Proc (Pass S T R C) Err Unit :=
  match outcome with
  | .failed e => issue (call obj) (.error (.other e))
  | .done => do
    modify fun s => { s with remote := put s.remote obj }
    issue (call obj) (.ok ())
  | .unheard e => do
    modify fun s => { s with remote := put s.remote obj }
    issue (call obj) (.error (lost e))

/-- A conflict is left to the next pass. -/
def ignoreConflict (m : Proc (Pass S T R C) Err Unit) : Proc (Pass S T R C) Err Unit := do
  match ← attempt m with
  | .ok () => return ()
  | .error (.other e) => if e.cause = .conflict then return () else throw (.other e)
  | .error e => throw e

section Ends

variable {P I : Pass S T R C → Prop} {m : Proc (Pass S T R C) Err Unit}

theorem end_ignoreNotFound (hm : Triple P m (fun _ => I) fun _ => I) :
    Triple P (ignoreNotFound m) (fun _ => I) fun _ => I := by
  refine (triple_ignoreNotFound hm).conseq (fun _ hs => hs) ?_ fun _ _ hs => hs
  rintro _ s (hs | ⟨-, -, hs⟩) <;> exact hs

theorem end_ignoreConflict (hm : Triple P m (fun _ => I) fun _ => I) :
    Triple P (ignoreConflict m) (fun _ => I) fun _ => I := by
  refine triple_attempt_bind hm (fun _ _ hs => hs) fun e => ?_
  cases e with
  | other e =>
    dsimp only
    split
    · exact triple_pure fun _ hs => hs
    · exact triple_throw fun _ hs => hs
  | notFound text => exact triple_throw fun _ hs => hs
  | rpc e => exact triple_throw fun _ hs => hs

end Ends

/-! ## What a pass has done so far -/

/-- The object `o` has been read and not been written; `applied` have been applied to `remote`, and heard of. -/
structure Applied (put : R → O → R) (call : O → Except Err Unit → C) (o : Object S T) (remote : R) (applied : List O)
    (s : Pass S T R C) : Prop where
  stored : s.stored = some o
  obj : s.obj = o
  remote : s.remote = applied.foldl put remote
  heard : ∀ obj ∈ applied, .call (call obj (.ok ())) ∈ s.events

/-- A pass that stopped: some first part of `all` has been applied. -/
structure Stopped (put : R → O → R) (o : Object S T) (remote : R) (all : List O) (s : Pass S T R C) : Prop where
  stored : s.stored = some o
  remote : ∃ applied, applied <+: all ∧ s.remote = applied.foldl put remote

section Rules

variable {put : R → O → R} {call : O → Except Err Unit → C} {o : Object S T} {remote : R} {applied all : List O}

theorem Applied.stopped {s : Pass S T R C} (h : Applied put call o remote applied s) (hall : applied <+: all) :
    Stopped put o remote all s := ⟨h.stored, applied, hall, h.remote⟩

theorem triple_serverSideApply (outcome : Outcome GoErr) {obj : O} (hall : applied ++ [obj] <+: all) :
    Triple (Applied put call o remote applied) (serverSideApply put call outcome obj)
      (fun _ => Applied put call o remote (applied ++ [obj])) fun _ => Stopped put o remote all := by
  have hput : ∀ s : Pass S T R C, Applied put call o remote applied s →
      put s.remote obj = (applied ++ [obj]).foldl put remote := fun s hs => by
    rw [List.foldl_append, hs.remote]
    rfl
  intro s hs
  cases outcome with
  | failed e => exact ⟨hs.stored, applied, (List.prefix_append _ _).trans hall, hs.remote⟩
  | done =>
    refine ⟨hs.stored, hs.obj, hput s hs, fun obj' hobj' => ?_⟩
    rcases List.mem_append.mp hobj' with h | h
    · exact List.mem_cons_of_mem _ (hs.heard obj' h)
    · rw [List.mem_singleton.mp h]
      exact List.mem_cons_self
  | unheard e => exact ⟨hs.stored, applied ++ [obj], hall, hput s hs⟩

variable [DecidableEq S] {k : Kind S T} {env : KubeEnv S}

/-- How the status write at the end of a pass leaves the stored object: without it, or with it over the object that was
read. What the pass has applied and met before is `P`. -/
inductive StatusEnd (k : Kind S T) (o : Object S T) (st : T) (P : R → List (Effect S T C) → Prop) (s : Pass S T R C) : Prop
  | refused (es : List (Edit S)) (hstored : s.stored = edits k.admits es (some o)) (hP : P s.remote s.events)
  | written (events : List (Effect S T C)) (hstored : s.stored = (Object.writtenStatus (k.persist st) o).orGone)
      (hevents : s.events = .statusWritten (k.persist st) :: events) (hP : P s.remote events)

theorem triple_updateStatusObject {st : T} {P : R → List (Effect S T C) → Prop} :
    Triple (fun s : Pass S T R C => s.stored = some o ∧ s.obj = { o with status := st } ∧ P s.remote s.events)
      (updateStatusObject k env) (fun _ => StatusEnd k o st P) fun _ => StatusEnd k o st P := by
  have hwritten : ∀ (s : Pass S T R C) (cur : Object S T),
      (s.stored = some o ∧ s.obj = { o with status := st } ∧ P s.remote s.events) →
      cur ∈ edits k.admits env.beforeStatus s.stored → cur.resourceVersion = s.obj.resourceVersion →
      (Object.writtenStatus (k.persist s.obj.status) cur) = Object.writtenStatus (k.persist st) o := by
    rintro s cur ⟨hstored, hobj, -⟩ hcur hversion
    rw [hstored] at hcur
    rw [hobj] at hversion ⊢
    rw [edits_unchanged _ hcur hversion]
  refine triple_write (fun s e hs => ?_) (fun s cur e hs hcur hversion => ?_) fun s cur hs hcur hversion => ?_
  · exact .refused env.beforeStatus (by rw [hs.1]) hs.2.2
  · have h := hwritten s cur hs hcur hversion
    exact .written s.events (by rw [h]) (by rw [h]; rfl) hs.2.2
  · have h := hwritten s cur hs hcur hversion
    exact .written s.events (by rw [h]) (by rw [h]; rfl) hs.2.2

end Rules

/-! ## Runs -/

section Runs

variable {Env : Type} [DecidableEq S]

/-- What a controller of this kind is to do with the object `o`, given what it meets: the objects to apply, in their
order, and the status to write after what has happened. -/
structure Plan (Env S T R C O : Type) where
  kind : Kind S T
  put : R → O → R
  built : Env → Object S T → List O
  StatusOf : Env → Object S T → List (Effect S T C) → T → Prop

/-- The ways a pass over `o` can end: no status is written, and some first part of the objects is applied; or the status
is written over what was read, and all objects are applied. -/
inductive PassEnd (plan : Plan Env S T R C O) (env : Env) (o : Object S T) (remote : R) (s : Pass S T R C) : Prop
  | kept (es : List (Edit S)) (hstored : s.stored = edits plan.kind.admits es (some o)) (applied : List O)
      (hbegin : applied <+: plan.built env o) (hremote : s.remote = applied.foldl plan.put remote)
  | written (status : T) (hstatus : plan.StatusOf env o s.events status)
      (hstored : s.stored = (Object.writtenStatus status o).orGone)
      (hremote : s.remote = (plan.built env o).foldl plan.put remote)

variable {plan : Plan Env S T R C O} {env : Env} {o : Object S T} {remote : R}

theorem Stopped.passEnd {s : Pass S T R C} (h : Stopped plan.put o remote (plan.built env o) s) :
    PassEnd plan env o remote s := by
  obtain ⟨applied, hbegin, hremote⟩ := h.remote
  exact .kept [] h.stored applied hbegin hremote

/-- A pass that has applied everything ends with the status write. -/
theorem StatusEnd.passEnd {s : Pass S T R C} {status : T} (hpersist : plan.kind.persist = id)
    (hmono : ∀ events e, plan.StatusOf env o events status → plan.StatusOf env o (e :: events) status)
    (h : StatusEnd plan.kind o status (fun r events => r = (plan.built env o).foldl plan.put remote ∧
      plan.StatusOf env o events status) s) : PassEnd plan env o remote s := by
  cases h with
  | refused es hstored hP => exact .kept es hstored _ List.prefix_rfl hP.1
  | written events hstored hevents hP =>
    rw [hpersist] at hstored
    refine .written status ?_ hstored hP.1
    rw [hevents]
    exact hmono _ _ hP.2

/-- The induction over runs: users edit the object at any time, and a pass over it ends as `PassEnd` says. -/
theorem run_induction {α : Type} {kube : Env → KubeEnv S} {m : Env → Proc (Pass S T R C) Err α}
    (hm : ∀ env o remote, Triple (fun s : Pass S T R C => s = { stored := some o, obj := o, remote := remote }) (m env)
      (fun _ => PassEnd plan env o remote) fun _ => PassEnd plan env o remote)
    {ok : World S T R → List (Report Env S T C) → Env → Prop} {w₀ w : World S T R} {h : List (Report Env S T C)}
    (hr : (⟨pass plan.kind kube m⟩ : System _ Env _).Run ok w₀ w h)
    {I : Option (Object S T) → R → List (Report Env S T C) → Prop} (start : I w₀.stored w₀.remote [])
    (older : ∀ stored remote h r, I stored remote h → I stored remote (r :: h))
    (edited : ∀ stored remote h es, I stored remote h → I (edits plan.kind.admits es stored) remote h)
    (kept : ∀ env o remote h applied, I (some o) remote h → applied <+: plan.built env o →
      I (some o) (applied.foldl plan.put remote) h)
    (written : ∀ env o remote h events status, I (some o) remote h → plan.StatusOf env o events status →
      I (Object.writtenStatus status o).orGone ((plan.built env o).foldl plan.put remote) (⟨env, some o, events⟩ :: h)) :
    I w.stored w.remote h := by
  refine hr.invariant (I := fun w h => I w.stored w.remote h) start fun w h env _ hinv _ => ?_
  change I (pass plan.kind kube m w env).1.stored (pass plan.kind kube m w env).1.remote
    ((pass plan.kind kube m w env).2 :: h)
  rcases pass_cases plan.kind kube m w env with hnone | ⟨o, s, -, ho, rfl, hpass⟩
  · rw [hnone]
    exact older _ _ _ _ (edited _ _ _ (kube env).beforeGet hinv)
  · rw [hpass]
    have hread : I (some o) w.remote h := ho ▸ edited _ _ _ (kube env).beforeGet hinv
    have hend : PassEnd plan env o w.remote ((m env).exec { stored := some o, obj := o, remote := w.remote }).2 :=
      (hm env o w.remote).exec rfl
    cases hend with
    | kept es hstored applied hbegin hremote =>
      dsimp only
      rw [hstored, hremote]
      exact older _ _ _ _ (edited _ _ _ es (kept env o _ _ applied hread hbegin))
    | written status hstatus hstored hremote =>
      dsimp only
      rw [hstored, hremote]
      exact written env o _ _ _ status hread hstatus

end Runs

end TemporalOperator.Satellite
