import TemporalOperator.Lib.ObjectStore
import TemporalOperator.Lib.Proc
import TemporalOperator.Target

/-!
# Passes over one object

The controllers of `internal/controller` for namespaces, search attributes and workflow runs all work on one object of
the API server and on something in Temporal. Users may edit or delete the object before a pass and during it, before
each of its writes; the calls in between do not look at the stored object. Any call may fail, before or after it has
taken effect.

* `Kind` : what distinguishes the objects of one controller; `Pass` : both servers, the object in memory, and what has
  been done so far, newest first;
* `issue`, `remoteCall` : calls to Temporal, recorded with their answers;
* `updateObject`, `statusUpdate`, `deleteObject`, `ensureFinalizer`, `dropFinalizer` : the steps that write;
* `pass` : users act and the controller works on what it has read; `pass_cases`;
* `WriteEnd`, `write_end` : the ways a write can end, from which the rules below are derived;
* `triple_write`, `triple_deleteObject`, `triple_remoteCall` : pre- and postconditions of the writes and the calls.
-/

namespace TemporalOperator.Satellite
open Lib Proc

/-! ## Errors -/

inductive Err
  /-- The error by which a Temporal client tells that something does not exist, such as `ErrWorkflowNotFound`. -/
  | notFound (text : String)
  | rpc (e : RpcErr)
  /-- Errors of Kubernetes calls, and plain ones. -/
  | other (e : GoErr)
  deriving DecidableEq, Repr

/-- `fmt.Errorf("pre: %w", e)`. -/
def Err.wrap (pre : String) : Err → Err
  | .notFound text => .notFound (pre ++ ": " ++ text)
  | .rpc e => .rpc (e.wrap pre)
  | .other e => .other (e.wrap pre)

/-- `isTransientClusterErr`: only errors of calls carry a gRPC code. -/
def Err.transient : Err → Bool
  | .notFound _ => false
  | .rpc e => isTransientClusterErr e
  | .other _ => false

/-! ## The servers -/

/-- Objects with spec `S` and status `T`: the finalizer of their controller, the edits the webhook admits, and the
status as it is read back. -/
structure Kind (S T : Type) where
  finalizer : String
  admits : S → S → Bool
  persist : T → T := id

/-- The answers of the API server in one pass, and what users do before the read and before each write. -/
structure KubeEnv (S : Type) where
  beforeGet : List (Edit S) := []
  getErr : Option GoErr := none
  target : TargetIO := {}
  clientErr : Option GoErr := none
  beforeUpdate : List (Edit S) := []
  update : Outcome GoErr := .done
  beforeStatus : List (Edit S) := []
  status : Outcome GoErr := .done
  beforeDelete : List (Edit S) := []
  delete : Outcome GoErr := .done
  now : GoTime := 0

/-- What a pass does: writes that take effect, and the calls `C` to Temporal. -/
inductive Effect (S T C : Type)
  | objectWritten (o : Object S T)
  | statusWritten (status : T)
  | objectDeleted
  | call (c : C)
  deriving DecidableEq, Repr

/-- `R` is the state of the Temporal server. -/
structure Pass (S T R C : Type) where
  stored : Option (Object S T)
  /-- The object in memory. -/
  obj : Object S T
  remote : R
  events : List (Effect S T C) := []

variable {S T R C : Type} [DecidableEq S]

/-! ## Calls to Temporal -/

omit [DecidableEq S] in
/-- A call that ends in `answer`. -/
def issue {α : Type} (call : Except Err α → C) (answer : Except Err α) : Proc (Pass S T R C) Err α := do
  modify fun s => { s with events := .call (call answer) :: s.events }
  Proc.ofExcept answer

/-- The server's answer to a call that is to make `change`, and the state it is left in. -/
def serve (outcome : Outcome RpcErr) (change : R → Except RpcErr R) (remote : R) : Except RpcErr Unit × R :=
  match outcome with
  | .failed e => (.error e, remote)
  | .done =>
    match change remote with
    | .ok remote' => (.ok (), remote')
    | .error e => (.error e, remote)
  | .unheard e =>
    match change remote with
    | .ok remote' => (.error e, remote')
    | .error e => (.error e, remote)

theorem serve_eq_ok {outcome : Outcome RpcErr} {change : R → Except RpcErr R} {remote r : R}
    (h : serve outcome change remote = (.ok (), r)) : change remote = .ok r := by
  unfold serve at h
  cases outcome with
  | failed e => cases h
  | done =>
    cases hchange : change remote with
    | error e =>
      rw [hchange] at h
      cases h
    | ok r' =>
      rw [hchange] at h
      exact congrArg (Except.ok ∘ Prod.snd) h
  | unheard e =>
    cases hchange : change remote with
    | error e' =>
      rw [hchange] at h
      cases h
    | ok r' =>
      rw [hchange] at h
      cases h

omit [DecidableEq S] in
/-- A call that is to change the state of the server. -/
def remoteCall (outcome : Outcome RpcErr) (change : R → Except RpcErr R) (call : Except Err Unit → C) :
    Proc (Pass S T R C) Err Unit := do
  let out := serve outcome change (← get).remote
  modify fun s => { s with remote := out.2 }
  issue call (out.1.mapError .rpc)

/-! ## Writing -/

def storeErr : StoreErr → GoErr
  | .notFound => ⟨.notFound, "not found"⟩
  | .conflict => ⟨.conflict, "the object has been modified; please apply your changes to the latest version"⟩

/-- The error of a call whose answer is lost; it is none of the API server. -/
def lost (e : GoErr) : Err := .other { e with cause := .other }

/-- A write over the stored object, which is taken over into memory; `new` gives what is stored then. -/
def write (k : Kind S T) (before : List (Edit S)) (outcome : Outcome GoErr)
    (new : Object S T → Object S T → Object S T) (event : Object S T → Effect S T C) : Proc (Pass S T R C) Err Unit := do
  modify fun s => { s with stored := edits k.admits before s.stored }
  match outcome with
  | .failed e => throw (.other e)
  | _ =>
    let s ← get
    match s.obj.checkVersion s.stored with
    | .error e => throw (.other (storeErr e))
    | .ok cur =>
      let o := new s.obj cur
      modify fun s => { s with stored := o.orGone, events := event o :: s.events }
      match outcome with
      | .unheard e => throw (lost e)
      | _ => modify fun s => { s with obj := o }

def updateObject (k : Kind S T) (env : KubeEnv S) : Proc (Pass S T R C) Err Unit :=
  write k env.beforeUpdate env.update Object.written .objectWritten

/-- `Status().Update` of the object in memory. -/
def updateStatusObject (k : Kind S T) (env : KubeEnv S) : Proc (Pass S T R C) Err Unit :=
  write k env.beforeStatus env.status (fun obj cur => Object.writtenStatus (k.persist obj.status) cur)
    fun o => .statusWritten o.status

/-- `client.IgnoreNotFound`. -/
def ignoreNotFound (m : Proc (Pass S T R C) Err Unit) : Proc (Pass S T R C) Err Unit := do
  match ← attempt m with
  | .ok () => return ()
  | .error (.other e) => if e.cause = .notFound then return () else throw (.other e)
  | .error e => throw e

def statusUpdate (k : Kind S T) (env : KubeEnv S) : Proc (Pass S T R C) Err Unit :=
  ignoreNotFound (updateStatusObject k env)

/-- `Delete` of the object, whichever version is stored. -/
def deleteObject (k : Kind S T) (env : KubeEnv S) : Proc (Pass S T R C) Err Unit := do
  modify fun s => { s with stored := edits k.admits env.beforeDelete s.stored }
  match env.delete with
  | .failed e => throw (.other e)
  | outcome =>
    match (← get).stored with
    | none => throw (.other (storeErr .notFound))
    | some o =>
      modify fun s => { s with stored := o.marked, events := .objectDeleted :: s.events }
      match outcome with
      | .unheard e => throw (lost e)
      | _ => return ()

/-! ## Finalizers -/

def ensureFinalizer (k : Kind S T) (env : KubeEnv S) : Proc (Pass S T R C) Err Unit := do
  if k.finalizer ∈ (← get).obj.finalizers then return ()
  else do
    modify fun s => { s with obj := { s.obj with finalizers := s.obj.finalizers ++ [k.finalizer] } }
    updateObject k env

def dropFinalizer (k : Kind S T) (env : KubeEnv S) : Proc (Pass S T R C) Err Unit := do
  if k.finalizer ∈ (← get).obj.finalizers then do
    modify fun s => { s with obj := { s.obj with finalizers := s.obj.finalizers.filter (· ≠ k.finalizer) } }
    updateObject k env
  else return ()

/-! ## Passes -/

/-- What a pass has met, read and done, its events newest first. -/
structure Report (Env S T C : Type) where
  env : Env
  read : Option (Object S T)
  events : List (Effect S T C) := []

/-- Both servers between two passes. -/
structure World (S T R : Type) where
  stored : Option (Object S T)
  remote : R

/-- A pass of the controller `m`: users act, then the object is read and `m` works on it. -/
def pass {Env α : Type} (k : Kind S T) (kube : Env → KubeEnv S) (m : Env → Proc (Pass S T R C) Err α) (w : World S T R)
    (env : Env) : World S T R × Report Env S T C :=
  let stored := edits k.admits (kube env).beforeGet w.stored
  match (kube env).getErr, stored with
  | none, some o =>
    let out := ((m env).exec { stored := stored, obj := o, remote := w.remote }).2
    (⟨out.stored, out.remote⟩, ⟨env, some o, out.events⟩)
  | _, _ => (⟨stored, w.remote⟩, ⟨env, none, []⟩)

/-- A pass does nothing, or `m` works on the object that is stored when it begins. -/
theorem pass_cases {Env α : Type} (k : Kind S T) (kube : Env → KubeEnv S) (m : Env → Proc (Pass S T R C) Err α)
    (w : World S T R) (env : Env) :
    pass k kube m w env = (⟨edits k.admits (kube env).beforeGet w.stored, w.remote⟩, ⟨env, none, []⟩) ∨
      ∃ o s, (kube env).getErr = none ∧ edits k.admits (kube env).beforeGet w.stored = some o ∧
        s = ((m env).exec { stored := some o, obj := o, remote := w.remote }).2 ∧
        pass k kube m w env = (⟨s.stored, s.remote⟩, ⟨env, some o, s.events⟩) := by
  unfold pass
  cases hget : (kube env).getErr with
  | some e => exact .inl rfl
  | none =>
    cases hstored : edits k.admits (kube env).beforeGet w.stored with
    | none => exact .inl rfl
    | some o => exact .inr ⟨o, _, rfl, rfl, rfl, rfl⟩

/-! ## How a write ends -/

/-- The write is taken: the call gets through, and the stored object is of the version in memory. -/
def Taken (k : Kind S T) (before : List (Edit S)) (outcome : Outcome GoErr) (s : Pass S T R C) : Prop :=
  (∀ e, outcome ≠ .failed e) ∧
    ∃ cur ∈ edits k.admits before s.stored, cur.resourceVersion = s.obj.resourceVersion

/-- The ways a write can end: refused; taken, while the caller is told that it failed; taken. -/
inductive WriteEnd (k : Kind S T) (before : List (Edit S)) (outcome : Outcome GoErr)
    (new : Object S T → Object S T → Object S T) (event : Object S T → Effect S T C) (s : Pass S T R C) :
    Except Err Unit × Pass S T R C → Prop
  | refused (e : GoErr) (hrefused : ¬ Taken k before outcome s) :
      WriteEnd k before outcome new event s (.error (.other e), { s with stored := edits k.admits before s.stored })
  | unheard (cur : Object S T) (e : GoErr) (houtcome : ∀ e, outcome ≠ .failed e)
      (hcur : cur ∈ edits k.admits before s.stored) (hversion : cur.resourceVersion = s.obj.resourceVersion) :
      WriteEnd k before outcome new event s
        (.error (lost e), { s with stored := (new s.obj cur).orGone, events := event (new s.obj cur) :: s.events })
  | done (cur : Object S T) (houtcome : ∀ e, outcome ≠ .failed e)
      (hcur : cur ∈ edits k.admits before s.stored) (hversion : cur.resourceVersion = s.obj.resourceVersion) :
      WriteEnd k before outcome new event s
        (.ok (),
          { s with
            stored := (new s.obj cur).orGone, events := event (new s.obj cur) :: s.events, obj := new s.obj cur })

theorem write_end (k : Kind S T) (before : List (Edit S)) (outcome : Outcome GoErr)
    (new : Object S T → Object S T → Object S T) (event : Object S T → Effect S T C) (s : Pass S T R C) :
    WriteEnd k before outcome new event s ((write k before outcome new event).exec s) := by
  have hrefused : ∀ {e}, s.obj.checkVersion (edits k.admits before s.stored) = .error e → ¬ Taken k before outcome s := by
    rintro e hc ⟨-, cur, hcur, hversion⟩
    exact Object.checkVersion_eq_error hc hcur hversion
  unfold write
  rw [exec_bind, exec_modify]
  cases outcome with
  | failed e => exact .refused e fun htaken => htaken.1 e rfl
  | done =>
    dsimp only
    rw [exec_bind, exec_get]
    dsimp only
    cases hc : s.obj.checkVersion (edits k.admits before s.stored) with
    | error e => exact .refused (storeErr e) (hrefused hc)
    | ok cur =>
      obtain ⟨hcur, hversion⟩ := Object.checkVersion_eq_ok hc
      exact .done cur nofun hcur hversion
  | unheard e =>
    dsimp only
    rw [exec_bind, exec_get]
    dsimp only
    cases hc : s.obj.checkVersion (edits k.admits before s.stored) with
    | error e => exact .refused (storeErr e) (hrefused hc)
    | ok cur =>
      obtain ⟨hcur, hversion⟩ := Object.checkVersion_eq_ok hc
      exact .unheard cur e nofun hcur hversion

section Rules

variable {k : Kind S T} {env : KubeEnv S} {P Q : Pass S T R C → Prop} {E : Err → Pass S T R C → Prop}

theorem triple_write {before : List (Edit S)} {outcome : Outcome GoErr} {new : Object S T → Object S T → Object S T}
    {event : Object S T → Effect S T C}
    (hrefused : ∀ s e, P s → E (.other e) { s with stored := edits k.admits before s.stored })
    (hunheard : ∀ s cur e, P s → cur ∈ edits k.admits before s.stored →
      cur.resourceVersion = s.obj.resourceVersion →
      E (lost e) { s with stored := (new s.obj cur).orGone, events := event (new s.obj cur) :: s.events })
    (hdone : ∀ s cur, P s → cur ∈ edits k.admits before s.stored →
      cur.resourceVersion = s.obj.resourceVersion →
      Q { s with
        stored := (new s.obj cur).orGone, events := event (new s.obj cur) :: s.events, obj := new s.obj cur }) :
    Triple P (write k before outcome new event) (fun _ => Q) E := by
  intro s hs
  have hend := write_end k before outcome new event s
  generalize (write k before outcome new event).exec s = out at hend ⊢
  cases hend with
  | refused e => exact hrefused s e hs
  | unheard cur e _ hcur hversion => exact hunheard s cur e hs hcur hversion
  | done cur _ hcur hversion => exact hdone s cur hs hcur hversion

omit [DecidableEq S] in
theorem triple_remoteCall {outcome : Outcome RpcErr} {change : R → Except RpcErr R} {call : Except Err Unit → C}
    (hok : ∀ s r, P s → serve outcome change s.remote = (.ok (), r) →
      Q { s with remote := r, events := .call (call (.ok ())) :: s.events })
    (herror : ∀ s e r, P s → serve outcome change s.remote = (.error e, r) →
      E (.rpc e) { s with remote := r, events := .call (call (.error (.rpc e))) :: s.events }) :
    Triple P (remoteCall outcome change call) (fun _ => Q) E := by
  refine triple_bind triple_get fun a => ?_
  rintro s ⟨rfl, hs⟩
  dsimp only
  rcases hserve : serve outcome change a.remote with ⟨e | ⟨⟩, r⟩
  · exact herror a e r hs hserve
  · exact hok a r hs hserve

omit [DecidableEq S] in
theorem triple_ignoreNotFound {m : Proc (Pass S T R C) Err Unit} (hm : Triple P m (fun _ => Q) E) :
    Triple P (ignoreNotFound m) (fun _ s => Q s ∨ ∃ e, e.cause = .notFound ∧ E (.other e) s) E := by
  refine triple_attempt_bind hm (fun _ _ hs => .inl hs) fun e => ?_
  cases e with
  | other e =>
    dsimp only
    split
    · exact triple_pure fun _ hs => .inr ⟨e, ‹_›, hs⟩
    · exact triple_throw fun _ hs => hs
  | notFound text => exact triple_throw fun _ hs => hs
  | rpc e => exact triple_throw fun _ hs => hs

omit [DecidableEq S] in
theorem keeps_ignoreNotFound {m : Proc (Pass S T R C) Err Unit} (hm : Keeps P m) : Keeps P (ignoreNotFound m) := by
  refine (triple_ignoreNotFound hm).conseq (fun _ hs => hs) ?_ fun _ _ hs => hs
  rintro _ s (hs | ⟨-, -, hs⟩) <;> exact hs

theorem triple_deleteObject
    (hrefused : ∀ s, P s → Q { s with stored := edits k.admits env.beforeDelete s.stored })
    (hdone : ∀ s o, P s → o ∈ edits k.admits env.beforeDelete s.stored →
      Q { s with stored := o.marked, events := .objectDeleted :: s.events }) :
    Triple P (deleteObject k env : Proc (Pass S T R C) Err Unit) (fun _ => Q) fun e s => Q s ∧ e.transient = false := by
  have hgone : ∀ s, P s → edits k.admits env.beforeDelete s.stored = none → Q { s with stored := none } := by
    intro s hs ho
    have h := hrefused s hs
    rw [ho] at h
    exact h
  unfold deleteObject
  refine triple_bind (triple_modify (Q := fun _ s => ∃ s₀, P s₀ ∧
    s = { s₀ with stored := edits k.admits env.beforeDelete s₀.stored }) fun s hs => ⟨s, hs, rfl⟩) fun _ => ?_
  cases env.delete with
  | failed e =>
    refine triple_throw ?_
    rintro s ⟨s₀, hs₀, rfl⟩
    exact ⟨hrefused s₀ hs₀, rfl⟩
  | done =>
    refine triple_bind triple_get fun a => ?_
    rintro s ⟨rfl, s₀, hs₀, rfl⟩
    dsimp only
    cases ho : edits k.admits env.beforeDelete s₀.stored with
    | none => exact ⟨hgone s₀ hs₀ ho, rfl⟩
    | some o => exact hdone s₀ o hs₀ ho
  | unheard e =>
    refine triple_bind triple_get fun a => ?_
    rintro s ⟨rfl, s₀, hs₀, rfl⟩
    dsimp only
    cases ho : edits k.admits env.beforeDelete s₀.stored with
    | none => exact ⟨hgone s₀ hs₀ ho, rfl⟩
    | some o => exact ⟨hdone s₀ o hs₀ ho, rfl⟩

theorem keeps_ensureFinalizer {I : Pass S T R C → Prop}
    (hobj : ∀ s fs, I s → I { s with obj := { s.obj with finalizers := fs } })
    (hupdate : Keeps I (updateObject k env : Proc (Pass S T R C) Err Unit)) : Keeps I (ensureFinalizer k env) := by
  refine triple_bind triple_get fun a => ?_
  split
  · exact triple_pure fun _ hs => hs.2
  · exact triple_bind (triple_modify fun s hs => hobj s _ hs.2) fun _ => hupdate

theorem keeps_dropFinalizer {I : Pass S T R C → Prop}
    (hobj : ∀ s fs, I s → I { s with obj := { s.obj with finalizers := fs } })
    (hupdate : Keeps I (updateObject k env : Proc (Pass S T R C) Err Unit)) : Keeps I (dropFinalizer k env) := by
  refine triple_bind triple_get fun a => ?_
  split
  · exact triple_bind (triple_modify fun s hs => hobj s _ hs.2) fun _ => hupdate
  · exact triple_pure fun _ hs => hs.2

end Rules

end TemporalOperator.Satellite
