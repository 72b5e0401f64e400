import TemporalOperator.DevServer.Resources
import TemporalOperator.Lib.Runs
import TemporalOperator.Satellite.Apply

/-!
# The dev server controller

`internal/controller/temporaldevserver_controller.go`. A pass applies the claim, the Service and the Deployment in this
order, looks at the Deployment and writes the status. Users may edit the object before each read and write, and every call
may fail before or after it has taken effect. No webhook looks at dev servers, and they have no finalizer.

* `reconcileObject` : `Reconcile` after the object has been read; `devServerSystem` : its runs;
* `plan`, `triple_reconcileObject` : how a pass can end, from which the run results are derived;
* `ClaimsPresent` : the objects a Deployment needs are there; `Truthful` : what the status says of the spec and of the
  applied objects.
-/

namespace TemporalOperator.Satellite.DevServers
open Lib Proc

/-! ## The API server -/

inductive DevServerObject
  | claim (c : PersistentVolumeClaim)
  | service (s : DevServerService)
  | deployment (d : DevServerDeployment)
  deriving DecidableEq

/-- The objects of a dev server, as they were last applied. -/
structure DevServerObjects where
  claim : Option PersistentVolumeClaim := none
  service : Option DevServerService := none
  deployment : Option DevServerDeployment := none
  deriving DecidableEq

def DevServerObjects.put (objs : DevServerObjects) : DevServerObject → DevServerObjects
  | .claim c => { objs with claim := some c }
  | .service s => { objs with service := some s }
  | .deployment d => { objs with deployment := some d }

inductive DevServerCall
  | apply (obj : DevServerObject) (answer : Except Err Unit)
  /-- `Get` of the Deployment; of the answer only `status.readyReplicas` is read. -/
  | getDeployment (answer : Except Err Int)
  deriving DecidableEq

/-- How the calls of one pass go. -/
structure DevServerEnv extends KubeEnv TemporalDevServerSpec where
  applyClaim : Outcome GoErr := .done
  applyService : Outcome GoErr := .done
  applyDeployment : Outcome GoErr := .done
  readyReplicas : Except GoErr Int := .ok 0

abbrev DevServerPass := Pass TemporalDevServerSpec TemporalDevServerStatus DevServerObjects DevServerCall

def kind : Kind TemporalDevServerSpec TemporalDevServerStatus where
  finalizer := ""
  admits _ _ := true

/-! ## Reconciling -/

def apply (outcome : Outcome GoErr) (obj : DevServerObject) : Proc DevServerPass Err Unit :=
  serverSideApply DevServerObjects.put DevServerCall.apply outcome obj

def deploymentReady (env : DevServerEnv) : Proc DevServerPass Err Bool := do
  match ← attempt (issue DevServerCall.getDeployment (env.readyReplicas.mapError .other)) with
  | .ok readyReplicas => return decide (1 ≤ readyReplicas)
  | .error (.other e) => if e.cause = .notFound then return false else throw (.other e)
  | .error e => throw e

/-- `setReady`. -/
def readyConditions (dev : TemporalDevServer) (status : ConditionStatus) (reason message : String) :
    List (Condition ConditionType) :=
  setStatusCondition { type := .ready, status, reason, message, observedGeneration := dev.generation } dev.status.conditions

def failedStatus (dev : TemporalDevServer) (message : String) : TemporalDevServerStatus :=
  { dev.status with
    observedGeneration := dev.generation
    phase := "Failed"
    conditions := readyConditions dev .false "VersionUnsupported" message }

section Matrix

variable (slice : SortSlice) (matrix : List VersionInfo) (ns : String)

def endpoints (dev : TemporalDevServer) : DevServerEndpoints where
  frontend := devServerEndpoint ns dev devServerFrontendPort
  ui := if dev.spec.uiEnabled then devServerEndpoint ns dev devServerUIPort else ""

def appliedStatus (dev : TemporalDevServer) (ready : Bool) : TemporalDevServerStatus :=
  { observedGeneration := dev.generation
    version := devServerServerVersion slice matrix dev.spec
    endpoints := endpoints ns dev
    phase := if ready then "Ready" else "Pending"
    conditions :=
      if ready then readyConditions dev .true "Available" "dev server is ready"
      else readyConditions dev .false "Reconciling" "waiting for the dev server pod to become ready" }

/-- The status is set in memory and written. -/
def statusUpdate (env : DevServerEnv) (status : TemporalDevServerStatus) : Proc DevServerPass Err Unit := do
  modify fun s => { s with obj := { s.obj with status := status } }
  ignoreNotFound (ignoreConflict (updateStatusObject kind env.toKubeEnv))

def applyClaim (env : DevServerEnv) (dev : TemporalDevServer) : Proc DevServerPass Err Unit :=
  match buildDevServerPVC ns dev with
  | some claim => apply env.applyClaim (.claim claim)
  | none => return ()

/-- `Reconcile` after the object has been read. -/
def reconcileObject (env : DevServerEnv) : Proc DevServerPass Err Unit := do
  let dev := (← get).obj
  match devServerImage slice matrix dev.spec with
  | .error message => statusUpdate env (failedStatus dev message)
  | .ok image =>
    applyClaim ns env dev
    apply env.applyService (.service (buildDevServerService ns dev))
    apply env.applyDeployment (.deployment (buildDevServerDeployment ns dev image))
    let ready ← deploymentReady env
    statusUpdate env (appliedStatus slice matrix ns dev ready)

abbrev DevServerWorld := World TemporalDevServerSpec TemporalDevServerStatus DevServerObjects

abbrev DevServerReport := Report DevServerEnv TemporalDevServerSpec TemporalDevServerStatus DevServerCall

/-- `Reconcile`. -/
def reconcilePass (w : DevServerWorld) (env : DevServerEnv) : DevServerWorld × DevServerReport :=
  pass kind DevServerEnv.toKubeEnv (reconcileObject slice matrix ns) w env

/-- The runs of the controller on one dev server. -/
def devServerSystem : System DevServerWorld DevServerEnv DevServerReport := ⟨reconcilePass slice matrix ns⟩

def created (name : String) (spec : TemporalDevServerSpec) : DevServerWorld where
  stored := some { name, spec, status := {} }
  remote := {}

/-! ## How a pass ends -/

def builtClaim (dev : TemporalDevServer) : List DevServerObject :=
  ((buildDevServerPVC ns dev).map DevServerObject.claim).toList

/-- The objects that a pass applies, in their order. -/
def builtObjects (dev : TemporalDevServer) : List DevServerObject :=
  match devServerImage slice matrix dev.spec with
  | .error _ => []
  | .ok image =>
    builtClaim ns dev ++ [.service (buildDevServerService ns dev)] ++
      [.deployment (buildDevServerDeployment ns dev image)]

variable {slice matrix} in
theorem builtObjects_of_ok {dev : TemporalDevServer} {image : String} (h : devServerImage slice matrix dev.spec = .ok image) :
    builtObjects slice matrix ns dev = builtClaim ns dev ++ [.service (buildDevServerService ns dev)] ++
      [.deployment (buildDevServerDeployment ns dev image)] := by
  rw [builtObjects, h]

/-- After the answers that `applied` is applied, the Deployment is read and has a ready pod. The events are listed from the
latest to the first. -/
def ReadyAfter (applied : List DevServerObject)
    (events : List (Effect TemporalDevServerSpec TemporalDevServerStatus DevServerCall)) : Prop :=
  ∃ n ≥ 1, ∃ later earlier, events = later ++ .call (.getDeployment (.ok n)) :: earlier ∧
    ∀ obj ∈ applied, .call (.apply obj (.ok ())) ∈ earlier

theorem ReadyAfter.mono {applied : List DevServerObject}
    {events : List (Effect TemporalDevServerSpec TemporalDevServerStatus DevServerCall)} (h : ReadyAfter applied events)
    (e : Effect TemporalDevServerSpec TemporalDevServerStatus DevServerCall) : ReadyAfter applied (e :: events) := by
  obtain ⟨n, hn, later, earlier, rfl, hearlier⟩ := h
  exact ⟨n, hn, e :: later, earlier, rfl, hearlier⟩

/-- The status that a pass over `dev` writes, given what it has met: the version is not supported; or everything is
applied, and the dev server is ready if the Deployment has a ready pod. -/
inductive StatusOf (dev : TemporalDevServer) (events : List (Effect TemporalDevServerSpec TemporalDevServerStatus DevServerCall)) :
    TemporalDevServerStatus → Prop
  | failed (message : String) (himage : devServerImage slice matrix dev.spec = .error message) :
      StatusOf dev events (failedStatus dev message)
  | applied (image : String) (ready : Bool) (himage : devServerImage slice matrix dev.spec = .ok image)
      (hready : ready = true → ReadyAfter (builtObjects slice matrix ns dev) events) :
      StatusOf dev events (appliedStatus slice matrix ns dev ready)

def plan : Plan DevServerEnv TemporalDevServerSpec TemporalDevServerStatus DevServerObjects DevServerCall DevServerObject where
  kind := kind
  put := DevServerObjects.put
  built _ := builtObjects slice matrix ns
  StatusOf _ := StatusOf slice matrix ns

variable {slice matrix ns}

theorem triple_statusUpdate {env : DevServerEnv} {dev : TemporalDevServer} {status : TemporalDevServerStatus}
    {P : DevServerObjects → List (Effect TemporalDevServerSpec TemporalDevServerStatus DevServerCall) → Prop} :
    Triple (fun s : DevServerPass => s.stored = some dev ∧ s.obj = dev ∧ P s.remote s.events) (statusUpdate env status)
      (fun _ => StatusEnd kind dev status P) fun _ => StatusEnd kind dev status P := by
  refine triple_bind (triple_modify (Q := fun _ s => s.stored = some dev ∧ s.obj = { dev with status := status } ∧
    P s.remote s.events) ?_) fun _ => end_ignoreNotFound (end_ignoreConflict triple_updateStatusObject)
  rintro s ⟨hstored, rfl, hP⟩
  exact ⟨hstored, rfl, hP⟩

variable {dev : TemporalDevServer} {remote : DevServerObjects}

/-- Everything in `applied` has been applied to the objects there were. -/
abbrev HasApplied (dev : TemporalDevServer) (remote : DevServerObjects) (applied : List DevServerObject)
    (s : DevServerPass) : Prop :=
  Applied DevServerObjects.put DevServerCall.apply dev remote applied s

theorem StatusOf.mono {events : List (Effect TemporalDevServerSpec TemporalDevServerStatus DevServerCall)}
    {status : TemporalDevServerStatus} (h : StatusOf slice matrix ns dev events status)
    (e : Effect TemporalDevServerSpec TemporalDevServerStatus DevServerCall) :
    StatusOf slice matrix ns dev (e :: events) status := by
  cases h with
  | failed message himage => exact .failed message himage
  | applied image ready himage hready => exact .applied image ready himage fun hr => (hready hr).mono e

theorem triple_statusUpdate_end {env : DevServerEnv} {status : TemporalDevServerStatus} :
    Triple (fun s : DevServerPass => s.stored = some dev ∧ s.obj = dev ∧
        s.remote = (builtObjects slice matrix ns dev).foldl DevServerObjects.put remote ∧
        StatusOf slice matrix ns dev s.events status)
      (statusUpdate env status) (fun _ => PassEnd (plan slice matrix ns) env dev remote)
      fun _ => PassEnd (plan slice matrix ns) env dev remote := by
  have hend : ∀ s, StatusEnd kind dev status (fun r events =>
      r = (builtObjects slice matrix ns dev).foldl DevServerObjects.put remote ∧
        StatusOf slice matrix ns dev events status) s → PassEnd (plan slice matrix ns) env dev remote s :=
    fun s h => StatusEnd.passEnd rfl (fun _ e h => StatusOf.mono h e) h
  exact triple_statusUpdate.conseq (fun _ hs => hs) (fun _ s h => hend s h) fun _ s h => hend s h

theorem triple_deploymentReady {env : DevServerEnv} {applied all : List DevServerObject} (hall : applied <+: all) :
    Triple (HasApplied dev remote applied) (deploymentReady env)
      (fun ready s => HasApplied dev remote applied s ∧
        (ready = true → ReadyAfter applied s.events))
      fun _ => Stopped DevServerObjects.put dev remote all := by
  have hissue : Triple (HasApplied dev remote applied)
      (issue DevServerCall.getDeployment (env.readyReplicas.mapError .other) : Proc DevServerPass Err Int)
      (fun n s => HasApplied dev remote applied s ∧ (1 ≤ n → ReadyAfter applied s.events))
      fun _ => HasApplied dev remote applied := by
    intro s hs
    have hcall : ∀ c : DevServerCall, HasApplied dev remote applied { s with events := .call c :: s.events } := fun c =>
      ⟨hs.stored, hs.obj, hs.remote, fun obj hobj => List.mem_cons_of_mem _ (hs.heard obj hobj)⟩
    cases h : env.readyReplicas with
    | error e => exact hcall _
    | ok n => exact ⟨hcall _, fun hn => ⟨n, hn, [], s.events, rfl, hs.heard⟩⟩
  refine triple_attempt_bind hissue (fun n => ?_) fun e => ?_
  · exact triple_pure fun s hs => ⟨hs.1, fun hready => hs.2 (of_decide_eq_true hready)⟩
  · cases e with
    | other e =>
      dsimp only
      split
      · exact triple_pure fun s hs => ⟨hs, nofun⟩
      · exact triple_throw fun s hs => hs.stopped hall
    | notFound text => exact triple_throw fun s hs => hs.stopped hall
    | rpc e => exact triple_throw fun s hs => hs.stopped hall

theorem triple_applyClaim {env : DevServerEnv} {all : List DevServerObject} (hall : builtClaim ns dev <+: all) :
    Triple (HasApplied dev remote []) (applyClaim ns env dev) (fun _ => HasApplied dev remote (builtClaim ns dev))
      fun _ => Stopped DevServerObjects.put dev remote all := by
  unfold applyClaim
  unfold builtClaim at hall ⊢
  cases hclaim : buildDevServerPVC ns dev with
  | none => exact triple_pure fun _ hs => hs
  | some claim =>
    rw [hclaim] at hall
    exact triple_serverSideApply env.applyClaim hall

/-- **How a pass can end**, whatever its calls answer. -/
theorem triple_reconcileObject (env : DevServerEnv) (dev : TemporalDevServer) (remote : DevServerObjects) :
    Triple (fun s : DevServerPass => s = { stored := some dev, obj := dev, remote := remote })
      (reconcileObject slice matrix ns env) (fun _ => PassEnd (plan slice matrix ns) env dev remote)
      fun _ => PassEnd (plan slice matrix ns) env dev remote := by
  refine triple_bind triple_get fun a => ?_
  rintro s ⟨rfl, rfl⟩
  dsimp only
  cases himage : devServerImage slice matrix dev.spec with
  | error message =>
    have hbuilt : builtObjects slice matrix ns dev = [] := by rw [builtObjects, himage]
    exact triple_statusUpdate_end _ ⟨rfl, rfl, by rw [hbuilt]; rfl, .failed message himage⟩
  | ok image =>
    have hbuilt := builtObjects_of_ok ns himage
    have hall := List.prefix_refl (builtObjects slice matrix ns dev)
    nth_rewrite 1 [hbuilt] at hall
    have hservice := (List.prefix_append _ _).trans hall
    have hclaim := (List.prefix_append _ _).trans hservice
    have hpass : Triple (HasApplied dev remote []) (do
        applyClaim ns env dev
        apply env.applyService (.service (buildDevServerService ns dev))
        apply env.applyDeployment (.deployment (buildDevServerDeployment ns dev image))
        let ready ← deploymentReady env
        statusUpdate env (appliedStatus slice matrix ns dev ready))
        (fun _ => PassEnd (plan slice matrix ns) env dev remote)
        fun _ => PassEnd (plan slice matrix ns) env dev remote := by
      refine triple_bind ((triple_applyClaim hclaim).errors fun _ _ h => Stopped.passEnd h) fun _ => ?_
      refine triple_bind ((triple_serverSideApply _ hservice).errors fun _ _ h => Stopped.passEnd h) fun _ => ?_
      refine triple_bind ((triple_serverSideApply _ hall).errors fun _ _ h => Stopped.passEnd h) fun _ => ?_
      refine triple_bind ((triple_deploymentReady hall).errors fun _ _ h => Stopped.passEnd h) fun ready => ?_
      refine triple_statusUpdate_end.pre ?_
      rintro s ⟨hs, hready⟩
      rw [← hbuilt] at hs hready
      exact ⟨hs.stored, hs.obj, hs.remote, .applied image ready himage hready⟩
    exact hpass _ ⟨rfl, rfl, rfl, fun _ h => absurd h List.not_mem_nil⟩

/-! ## What every run keeps -/

/-- The Deployment, if there is one, finds its Service and the claims that it mounts. -/
structure ClaimsPresent (name : String) (objs : DevServerObjects) : Prop where
  claim : ∀ c ∈ objs.claim, c.name = devServerPVCName name
  service : ∀ d ∈ objs.deployment, objs.service ≠ none
  mounted : ∀ d ∈ objs.deployment, ∀ claimName ∈ d.claims, ∃ c ∈ objs.claim, c.name = claimName

theorem ClaimsPresent.putClaim {name : String} {objs : DevServerObjects} (h : ClaimsPresent name objs) (ns : String)
    (hdev : dev.name = name) : ClaimsPresent name ((builtClaim ns dev).foldl DevServerObjects.put objs) := by
  unfold builtClaim
  cases hclaim : buildDevServerPVC ns dev with
  | none => exact h
  | some c =>
    have hname : c.name = devServerPVCName name := hdev ▸ buildDevServerPVC_name hclaim
    refine ⟨fun c' hc' => ?_, h.service, fun d hd claimName hn => ?_⟩
    · obtain rfl := Option.some.inj hc'
      exact hname
    · obtain ⟨c', hc', hn'⟩ := h.mounted d hd claimName hn
      exact ⟨c, rfl, hname.trans ((h.claim c' hc').symm.trans hn')⟩

/-- Objects are applied in an order in which nothing that is mounted or selected is missing, wherever a pass stops. -/
theorem ClaimsPresent.foldl_put {name : String} {objs : DevServerObjects} (h : ClaimsPresent name objs)
    (hdev : dev.name = name) {applied : List DevServerObject} (hbegin : applied <+: builtObjects slice matrix ns dev) :
    ClaimsPresent name (applied.foldl DevServerObjects.put objs) := by
  cases himage : devServerImage slice matrix dev.spec with
  | error message =>
    rw [builtObjects, himage] at hbegin
    rw [List.prefix_nil.mp hbegin]
    exact h
  | ok image =>
    rw [builtObjects_of_ok ns himage] at hbegin
    have hclaim := h.putClaim ns hdev
    rcases List.prefix_concat_iff.mp hbegin with rfl | hbegin
    · rw [List.foldl_append, List.foldl_append]
      refine ⟨hclaim.claim, fun d _ => nofun, fun d hd claimName hn => ?_⟩
      obtain rfl := Option.some.inj hd
      rw [claims_buildDevServerDeployment] at hn
      cases hp : dev.spec.persistent with
      | false => simp [hp] at hn
      | true =>
        obtain ⟨c, hc⟩ : ∃ c, buildDevServerPVC ns dev = some c := by
          cases hc : buildDevServerPVC ns dev with
          | none => cases (buildDevServerPVC_eq_none hc).symm.trans hp
          | some c => exact ⟨c, rfl⟩
        simp only [hp, if_true, List.mem_singleton] at hn
        exact ⟨c, by simp [builtClaim, hc, DevServerObjects.put], (buildDevServerPVC_name hc).trans hn.symm⟩
    · rcases List.prefix_concat_iff.mp hbegin with rfl | hbegin
      · rw [List.foldl_append]
        exact ⟨hclaim.claim, fun d _ => nofun, hclaim.mounted⟩
      · unfold builtClaim at hbegin hclaim
        cases hc : buildDevServerPVC ns dev with
        | none =>
          rw [hc] at hbegin
          rw [List.prefix_nil.mp hbegin]
          exact h
        | some c =>
          rw [hc] at hbegin hclaim
          rcases List.prefix_concat_iff.mp (show applied <+: [] ++ [DevServerObject.claim c] from hbegin) with rfl | hnil
          · exact hclaim
          · rw [List.prefix_nil.mp hnil]
            exact h

/-- A dev server that is created with ephemeral storage and then given a claim, while calls time out. -/
def switchedStorage : DevServerWorld × List DevServerReport :=
  (devServerSystem insertionSlice supportedVersions "orders").exec (created "dev" { image := "temporal:dev" }) []
    [{ readyReplicas := .ok 1 },
      { beforeGet := [.edit { image := "temporal:dev", storage := some { type := "Persistent" } } []]
        applyService := .failed ⟨.other, "etcdserver: request timed out"⟩ },
      { applyDeployment := .unheard ⟨.other, "context deadline exceeded"⟩ },
      { readyReplicas := .ok 1 }]

theorem switchedStorage_run : (devServerSystem insertionSlice supportedVersions "orders").Run (fun _ _ _ => True)
    (created "dev" { image := "temporal:dev" }) switchedStorage.1 switchedStorage.2 :=
  System.Run.exec .start ⟨trivial, trivial, trivial, trivial, trivial⟩

def switchedDevServer : TemporalDevServer where
  name := "dev"
  generation := 2
  resourceVersion := 3
  spec := { image := "temporal:dev", storage := some { type := "Persistent" } }
  status :=
    { phase := "Ready"
      observedGeneration := 2
      conditions := [⟨.ready, .true, "Available", "dev server is ready", 2⟩]
      endpoints := { frontend := "dev-devserver.orders.svc:7233", ui := "dev-devserver.orders.svc:8233" } }

theorem switchedStorage_stored : switchedDevServer ∈ switchedStorage.1.stored := by
  change switchedStorage.1.stored = some switchedDevServer
  decide +kernel

/-- **Nothing a pod needs is missing.** In every run of a dev server from its creation, with any edits and failures, the
Deployment mounts only a claim that has been applied, and its Service has been applied. -/
theorem devServer_claims_present {name : String} {spec : TemporalDevServerSpec} {w : DevServerWorld}
    {h : List DevServerReport}
    (hr : (devServerSystem slice matrix ns).Run (fun _ _ _ => True) (created name spec) w h) :
    ClaimsPresent name w.remote := by
  refine (run_induction triple_reconcileObject
    (I := fun stored remote _ => (∀ o ∈ stored, o.name = name) ∧ ClaimsPresent name remote)
    hr ?_ (fun _ _ _ _ hinv => hinv) ?_ ?_ ?_).2
  · exact ⟨fun o ho => by obtain rfl := Option.some.inj ho; rfl, nofun, nofun, nofun⟩
  · intro stored remote h es hinv
    refine ⟨fun o ho => ?_, hinv.2⟩
    cases stored with
    | none => exact hinv.1 o (edits_none kind.admits es ▸ ho)
    | some dev => exact (edits_edited es dev o ho).name.trans (hinv.1 dev rfl)
  · intro env dev remote h applied hinv hbegin
    exact ⟨hinv.1, hinv.2.foldl_put (hinv.1 dev rfl) hbegin⟩
  · intro env dev remote h events status hinv hstatus
    refine ⟨fun o ho => ?_, hinv.2.foldl_put (hinv.1 dev rfl) List.prefix_rfl⟩
    rw [Object.orGone_eq_some ho]
    exact hinv.1 dev rfl

theorem devServer_claims_present_switched :
    ClaimsPresent "dev" switchedStorage.1.remote ∧
      switchedStorage.1.remote.deployment.map DevServerDeployment.claims = some ["dev-devserver-data"] :=
  ⟨devServer_claims_present switchedStorage_run, by decide +kernel⟩

/-! ## What the status says -/

def DevServerObjects.Has (objs : DevServerObjects) : DevServerObject → Prop
  | .claim c => objs.claim = some c
  | .service s => objs.service = some s
  | .deployment d => objs.deployment = some d

theorem DevServerObjects.Has.put_eq {objs : DevServerObjects} {obj : DevServerObject} (h : objs.Has obj) :
    objs.put obj = objs := by
  cases obj <;> simp only [DevServerObjects.put, ← show _ = _ from h]

theorem foldl_put_eq {objs : DevServerObjects} {applied : List DevServerObject} (h : ∀ obj ∈ applied, objs.Has obj) :
    applied.foldl DevServerObjects.put objs = objs := by
  induction applied with
  | nil => rfl
  | cons obj applied ih =>
    rw [List.foldl_cons, (h obj List.mem_cons_self).put_eq]
    exact ih fun obj' hobj' => h obj' (List.mem_cons_of_mem _ hobj')

theorem has_builtObjects (dev : TemporalDevServer) (remote : DevServerObjects) :
    ∀ obj ∈ builtObjects slice matrix ns dev,
      ((builtObjects slice matrix ns dev).foldl DevServerObjects.put remote).Has obj := by
  cases himage : devServerImage slice matrix dev.spec with
  | error message =>
    rw [builtObjects, himage]
    exact fun _ h => absurd h List.not_mem_nil
  | ok image =>
    rw [builtObjects_of_ok ns himage]
    intro obj hobj
    rw [List.foldl_append, List.foldl_append]
    unfold builtClaim at hobj ⊢
    cases hclaim : buildDevServerPVC ns dev with
    | none =>
      simp only [hclaim, Option.map_none, Option.toList_none, List.nil_append, List.cons_append, List.mem_cons,
        List.not_mem_nil, or_false] at hobj
      rcases hobj with rfl | rfl <;> rfl
    | some c =>
      simp only [hclaim, Option.map_some, Option.toList_some, List.nil_append, List.cons_append, List.mem_cons,
        List.not_mem_nil, or_false] at hobj
      rcases hobj with rfl | rfl | rfl <;> rfl

/-- Of a dev server, the builders read the name and the spec. -/
theorem builtObjects_congr {dev dev' : TemporalDevServer} (hname : dev'.name = dev.name) (hspec : dev'.spec = dev.spec) :
    builtObjects slice matrix ns dev' = builtObjects slice matrix ns dev := by
  cases dev
  cases dev'
  subst hname hspec
  rfl

theorem endpoints_congr {dev dev' : TemporalDevServer} (hname : dev'.name = dev.name) (hspec : dev'.spec = dev.spec) :
    endpoints ns dev' = endpoints ns dev := by
  cases dev
  cases dev'
  subst hname hspec
  rfl

variable (slice matrix ns)

/-- The status was written for the spec of `o`, and the objects of this spec are applied. -/
structure Describes (o : TemporalDevServer) (remote : DevServerObjects) : Prop where
  image : ∃ image, devServerImage slice matrix o.spec = .ok image
  version : o.status.version = devServerServerVersion slice matrix o.spec
  endpoints : o.status.endpoints = endpoints ns o
  applied : ∀ obj ∈ builtObjects slice matrix ns o, remote.Has obj

/-- The pass `r` has applied everything for a dev server of generation `generation` and then found a ready pod. -/
def SawReady (generation : Nat) (o : TemporalDevServer) (r : DevServerReport) : Prop :=
  ∃ dev, r.read = some dev ∧ dev.generation = generation ∧ (o.generation = generation → dev.spec = o.spec) ∧
    ReadyAfter (builtObjects slice matrix ns dev) r.events

/-- What the status of a stored dev server says is so. -/
structure Truthful (o : TemporalDevServer) (remote : DevServerObjects) (h : List DevServerReport) : Prop where
  behind : o.status.observedGeneration ≤ o.generation
  ready_iff : isStatusConditionTrue .ready o.status.conditions = true ↔ o.status.phase = "Ready"
  describes : o.status.observedGeneration = o.generation → o.status.phase ≠ "Failed" → Describes slice matrix ns o remote
  seen : o.status.phase = "Ready" → ∃ r ∈ h, SawReady slice matrix ns o.status.observedGeneration o r

variable {slice matrix ns}

theorem isTrue_readyConditions (dev : TemporalDevServer) (status : ConditionStatus) (reason message : String) :
    isStatusConditionTrue .ready (readyConditions dev status reason message) = decide (status = .true) :=
  isTrue_set_self (⟨.ready, status, reason, message, dev.generation⟩ : Condition ConditionType) dev.status.conditions

/-- An object that users have edited has the same generation and the same spec, or it is ahead of its status. -/
theorem Truthful.edited {o o' : TemporalDevServer} {h : List DevServerReport}
    (ht : Truthful slice matrix ns o remote h) (he : Edited o o') : Truthful slice matrix ns o' remote h where
  behind := by
    rw [he.status]
    exact ht.behind.trans he.generation
  ready_iff := by
    rw [he.status]
    exact ht.ready_iff
  describes hgen hphase := by
    rw [he.status] at hgen hphase
    have hsame : o'.generation = o.generation := Nat.le_antisymm (hgen ▸ ht.behind) he.generation
    have hd := ht.describes (hgen.trans hsame) hphase
    have hspec := he.spec hsame
    exact
      { image := hspec ▸ hd.image
        version := by rw [he.status, hspec]; exact hd.version
        endpoints := by rw [he.status, endpoints_congr he.name hspec]; exact hd.endpoints
        applied := by rw [builtObjects_congr he.name hspec]; exact hd.applied }
  seen hphase := by
    rw [he.status] at hphase ⊢
    obtain ⟨r, hr, dev, hread, hgen, hspec, hrest⟩ := ht.seen hphase
    refine ⟨r, hr, dev, hread, hgen, fun heq => ?_, hrest⟩
    have hsame : o'.generation = o.generation := Nat.le_antisymm (heq ▸ ht.behind) he.generation
    exact (hspec (hsame.symm.trans heq)).trans (he.spec hsame).symm

theorem Truthful.kept {h : List DevServerReport} (ht : Truthful slice matrix ns dev remote h)
    {applied : List DevServerObject} (hbegin : applied <+: builtObjects slice matrix ns dev) :
    Truthful slice matrix ns dev (applied.foldl DevServerObjects.put remote) h where
  behind := ht.behind
  ready_iff := ht.ready_iff
  describes hgen hphase := by
    have hd := ht.describes hgen hphase
    rw [foldl_put_eq fun obj hobj => hd.applied obj (hbegin.subset hobj)]
    exact hd
  seen := ht.seen

theorem Truthful.written {status : TemporalDevServerStatus} {env : DevServerEnv} {h : List DevServerReport}
    {events : List (Effect TemporalDevServerSpec TemporalDevServerStatus DevServerCall)}
    (hstatus : StatusOf slice matrix ns dev events status) :
    Truthful slice matrix ns (Object.writtenStatus status dev)
      ((builtObjects slice matrix ns dev).foldl DevServerObjects.put remote) (⟨env, some dev, events⟩ :: h) := by
  cases hstatus with
  | failed message himage =>
    have hne : ("Failed" : String) ≠ "Ready" := by decide
    refine ⟨Nat.le_refl _, ?_, fun _ hphase => absurd rfl hphase, fun hphase => absurd hphase hne⟩
    change isStatusConditionTrue .ready (readyConditions dev .false _ _) = true ↔ "Failed" = "Ready"
    rw [isTrue_readyConditions]
    decide
  | applied image ready himage hready =>
    refine ⟨Nat.le_refl _, ?_, fun _ _ => ⟨⟨image, himage⟩, rfl, rfl, has_builtObjects dev remote⟩, fun hphase => ?_⟩
    · cases ready with
      | true =>
        change isStatusConditionTrue .ready (readyConditions dev .true _ _) = true ↔ "Ready" = "Ready"
        rw [isTrue_readyConditions]
        decide
      | false =>
        change isStatusConditionTrue .ready (readyConditions dev .false _ _) = true ↔ "Pending" = "Ready"
        rw [isTrue_readyConditions]
        decide
    · cases ready with
      | true => exact ⟨_, List.mem_cons_self, dev, rfl, rfl, fun _ => rfl, hready rfl⟩
      | false =>
        have hne : ("Pending" : String) ≠ "Ready" := by decide
        exact absurd hphase hne

/-- **Every status of every run is truthful.** -/
theorem truthful_run {name : String} {spec : TemporalDevServerSpec} {w : DevServerWorld} {h : List DevServerReport}
    (hr : (devServerSystem slice matrix ns).Run (fun _ _ _ => True) (created name spec) w h) :
    ∀ o ∈ w.stored, Truthful slice matrix ns o w.remote h := by
  refine run_induction triple_reconcileObject (I := fun stored remote h => ∀ o ∈ stored, Truthful slice matrix ns o remote h) hr
    ?_ ?_ ?_ ?_ ?_
  · intro o ho
    obtain rfl := Option.some.inj ho
    have hphase : ("" : String) ≠ "Ready" := by decide
    exact ⟨Nat.zero_le _, ⟨nofun, fun h => absurd h hphase⟩, fun hgen => absurd hgen Nat.zero_ne_one,
      fun h => absurd h hphase⟩
  · intro stored remote h r hinv o ho
    have ht := hinv o ho
    refine ⟨ht.behind, ht.ready_iff, ht.describes, fun hphase => ?_⟩
    obtain ⟨r', hr', hsaw⟩ := ht.seen hphase
    exact ⟨r', List.mem_cons_of_mem _ hr', hsaw⟩
  · intro stored remote h es hinv o ho
    cases stored with
    | none => exact absurd (edits_none kind.admits es ▸ ho) nofun
    | some dev => exact (hinv dev rfl).edited (edits_edited es dev o ho)
  · intro env dev remote h applied hinv hbegin o ho
    obtain rfl := Option.some.inj ho
    exact (hinv dev rfl).kept hbegin
  · intro env dev remote h events status hinv hstatus o ho
    rw [Object.orGone_eq_some ho]
    exact Truthful.written hstatus

/-- **A current status leads to the dev server.** In every run, once the status is that of the present generation and not
failed, the address that `resolveTarget` gives is that of a port of the applied Service, which is wired to the applied
Deployment; the target counts as ready when the phase is `Ready`. -/
theorem devServer_reachable {name : String} {spec : TemporalDevServerSpec} {w : DevServerWorld} {h : List DevServerReport}
    (hr : (devServerSystem slice matrix ns).Run (fun _ _ _ => True) (created name spec) w h) {o : TemporalDevServer}
    (ho : o ∈ w.stored) (hcurrent : o.status.observedGeneration = o.generation) (hphase : o.status.phase ≠ "Failed")
    {io : TargetIO} (hget : io.getDevServer = .ok (o.target ns)) {ref : ClusterReference}
    (href : ref.kind = "TemporalDevServer") :
    ∃ target svc dep settings, resolveTarget io ref = .ok target ∧ w.remote.service = some svc ∧
      w.remote.deployment = some dep ∧ DevServerWired o.spec svc dep settings ∧
      target.address = o.status.endpoints.frontend ∧
      (∃ p ∈ svc.ports, p.name = "grpc" ∧
        target.address = svc.name ++ "." ++ svc.namespace_ ++ ".svc:" ++ toString p.port) ∧
      (target.ready = true ↔ o.status.phase = "Ready") := by
  have ht := truthful_run hr o ho
  have hd := ht.describes hcurrent hphase
  obtain ⟨image, himage⟩ := hd.image
  have happlied := hd.applied
  rw [builtObjects_of_ok ns himage] at happlied
  have hservice : w.remote.service = some (buildDevServerService ns o) := happlied (.service _) (by simp)
  have hdeployment : w.remote.deployment = some (buildDevServerDeployment ns o image) := happlied (.deployment _) (by simp)
  have haddress := devServerFrontendEndpoint_target ns o
  have hresolve : resolveTarget io ref = .ok
      { address := devServerFrontendEndpoint (o.target ns)
        ready := isStatusConditionTrue .ready o.status.conditions
        workflowRunPolicy := effectiveWorkflowRunPolicy true o.spec.workflowRunPolicy } := by
    have hkind : ¬ (ref.kind = "" ∨ ref.kind = "TemporalCluster") := by
      rw [href]
      decide
    rw [resolveTarget, if_neg hkind, if_pos href, hget]
    rfl
  refine ⟨_, _, _, devServerSettings o.spec, hresolve, hservice, hdeployment, devServerWired_built ns o image, ?_,
    ⟨samePort "grpc" devServerFrontendPort, ?_, rfl, haddress⟩, ht.ready_iff⟩
  · rw [hd.endpoints]
    exact haddress
  · exact mem_devServerPorts.mpr (.inl rfl)

theorem devServer_reachable_switched :
    ∃ target svc dep settings,
      resolveTarget { getDevServer := .ok (switchedDevServer.target "orders") }
        { name := "dev", kind := "TemporalDevServer" } = .ok target ∧
      switchedStorage.1.remote.service = some svc ∧ switchedStorage.1.remote.deployment = some dep ∧
      DevServerWired switchedDevServer.spec svc dep settings ∧
      target.address = switchedDevServer.status.endpoints.frontend ∧
      (∃ p ∈ svc.ports, p.name = "grpc" ∧
        target.address = svc.name ++ "." ++ svc.namespace_ ++ ".svc:" ++ toString p.port) ∧
      (target.ready = true ↔ switchedDevServer.status.phase = "Ready") :=
  devServer_reachable switchedStorage_run switchedStorage_stored rfl (by decide) rfl rfl

end Matrix

end TemporalOperator.Satellite.DevServers
