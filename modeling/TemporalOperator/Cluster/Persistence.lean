import TemporalOperator.Cluster.JobBuilder

/-!
# Reconciling persistence

`internal/controller/temporalcluster_persistence.go`: probe the stores, then bring each schema to the minimum of
`spec.version` with Jobs (SQL, Cassandra) or inline (Elasticsearch).
-/

namespace TemporalOperator
open Lib Persistence

/-! ## Conditions -/

def setReachable (c : Cluster) (st : ClusterStatus) (reachable : Bool) (message : String) : ClusterStatus :=
  { st with persistence := { st.persistence with reachable := reachable } }.setCondition
    { type := .persistenceReachable
      status := if reachable then .true else .false
      reason := if reachable then "Reachable" else "PersistenceUnreachable"
      message := message
      observedGeneration := c.generation }

def setInspecting (c : Cluster) (st : ClusterStatus) (message : String) : ClusterStatus :=
  { st with persistence := { st.persistence with reachable := false } }.setCondition
    { type := .persistenceReachable
      status := .false
      reason := "Inspecting"
      message := message
      observedGeneration := c.generation }

def setSchemaReady (c : Cluster) (st : ClusterStatus) (ready : Bool) (reason message : String) : ClusterStatus :=
  st.setCondition
    { type := .schemaReady
      status := if ready then .true else .false
      reason := reason
      message := message
      observedGeneration := c.generation }

@[simp] theorem progress_setReachable (c : Cluster) (st : ClusterStatus) (b : Bool) (m : String) :
    (setReachable c st b m).progress = st.progress := rfl

@[simp] theorem progress_setInspecting (c : Cluster) (st : ClusterStatus) (m : String) :
    (setInspecting c st m).progress = st.progress := rfl

@[simp] theorem progress_setSchemaReady (c : Cluster) (st : ClusterStatus) (b : Bool) (r m : String) :
    (setSchemaReady c st b r m).progress = st.progress := rfl

@[simp] theorem holds_setReachable (c : Cluster) (st : ClusterStatus) (b : Bool) (m : String) (t : ConditionType) :
    (setReachable c st b m).holds t = if t = .persistenceReachable then b else st.holds t := by
  rw [setReachable, holds_setCondition]
  cases b <;> rfl

@[simp] theorem holds_setInspecting (c : Cluster) (st : ClusterStatus) (m : String) (t : ConditionType) :
    (setInspecting c st m).holds t = if t = .persistenceReachable then false else st.holds t := by
  rw [setInspecting, holds_setCondition]
  rfl

@[simp] theorem holds_setSchemaReady (c : Cluster) (st : ClusterStatus) (b : Bool) (r m : String) (t : ConditionType) :
    (setSchemaReady c st b r m).holds t = if t = .schemaReady then b else st.holds t := by
  rw [setSchemaReady, holds_setCondition]
  cases b <;> rfl

/-- `status.persistence.schemaVersions[store] = version`. -/
def setSchemaVersion (st : ClusterStatus) (store : SchemaStore) (version : String) : ClusterStatus :=
  let others := st.persistence.schemaVersions.filter (·.1 ≠ store)
  { st with persistence := { st.persistence with schemaVersions := (store, version) :: others } }

/-! ## Schema Jobs -/

inductive JobPhase
  | pending
  | running
  | succeeded
  | failed
  deriving DecidableEq, Repr

def classifyJob (job : Job) : JobPhase :=
  match job.conditions.findSome? fun c =>
    if c.2 then
      match c.1 with
      | .complete => some JobPhase.succeeded
      | .failed => some JobPhase.failed
      | .other => none
    else none with
  | some p => p
  | none => if job.active > 0 then .running else .pending

def storeSpec (spec : ClusterSpec) : SchemaStore → DatastoreSpec
  | .default => spec.persistence.defaultStore
  | .visibility => spec.persistence.visibilityStore

/-- The override the controller passes to `BuildSchemaJob`. -/
def schemaJobOverride (spec : ClusterSpec) : Option PodTemplateOverride :=
  if azureWorkloadIdentityEnabled spec then none else spec.persistence.schemaJob.bind id

/-- The credential that `buildSchemaTargets` has resolved. -/
def targetCredential (env : PassEnv) (c : Cluster) (store : SchemaStore) : ResolvedCredential :=
  (resolveStore c.namespace_ (env.store store).secret (storeSpec c.spec store)).toOption.getD {}

def schemaJobParams (env : PassEnv) (c : Cluster) (store : SchemaStore) (action : SchemaAction) : SchemaJobParams where
  cluster := c
  sqlSpec := (storeSpec c.spec store).sql
  cassandraSpec := (storeSpec c.spec store).cassandra
  store := store
  action := action
  schemaVersionDir := postgresSchemaDir
  passwordCommand :=
    if azureWorkloadIdentityEnabled c.spec then azurePasswordCommand
    else (targetCredential env c store).passwordCommand.text
  podTemplate := schemaJobOverride c.spec

/-- The Job `ensureSchemaJob` creates for a built one. -/
def wiredSchemaJob (c : Cluster) (job : Job) : Job :=
  match c.spec.persistence.azureWorkloadIdentity with
  | some wi => { job with template := applyAzureSchemaWorkloadIdentity c wi job.template schemaContainerName }
  | none => job

def createSchemaJob (env : PassEnv) (c : Cluster) (store : SchemaStore) (action : SchemaAction) : Pass JobPhase :=
  match buildSchemaJob env (schemaJobParams env c store action) with
  | .error h => .fail h.goErr
  | .ok job =>
    match (env.schemaJob store action).createErr with
    | some e => if e.cause = .alreadyExists then pure .pending else .fail e
    | none => do
      Act.emit (.jobCreated store action (wiredSchemaJob c job))
      return .pending

/-- The Job runs another version's image: delete it, the next pass creates a new one. -/
def replaceSchemaJob (env : PassEnv) (store : SchemaStore) (action : SchemaAction) : Pass JobPhase := do
  Act.emit (.jobDeleted store action)
  match (env.schemaJob store action).deleteErr with
  | some e => if e.cause = .notFound then pure .pending else .fail e
  | none => pure .pending

def ensureSchemaJob (env : PassEnv) (c : Cluster) (store : SchemaStore) (action : SchemaAction) : Pass JobPhase := do
  Act.emit (.schemaJob store action)
  match (env.schemaJob store action).get with
  | .error e => if e.cause = .notFound then createSchemaJob env c store action else .fail e
  | .ok job =>
    if job.deleting then pure .pending
    else if !jobRunsImage job (adminToolsImage c.spec.version) then replaceSchemaJob env store action
    else pure (classifyJob job)

def deleteInspectorJob (env : PassEnv) (store : SchemaStore) : Pass Unit :=
  match (env.staleInspector store).getErr with
  | some e => if e.cause = .notFound then pure () else .fail e
  | none => do
    Act.emit (.inspectorDeleted store)
    match (env.staleInspector store).deleteErr with
    | some e => if e.cause = .notFound then pure () else .fail e
    | none => pure ()

/-! ## One store -/

structure SchemaTarget where
  store : SchemaStore
  backend : Backend

structure StoreResult where
  done : Bool := false
  failed : Bool := false
  message : String := ""
  deriving DecidableEq, Repr

def minSchemaFor (info : VersionInfo) (kind : BackendKind) (store : SchemaStore) : String :=
  match kind with
  | .cassandra => info.minSchemaCassandra
  | .elasticsearch => info.minSchemaES
  | .sql => if store = .visibility then info.minSchemaSQLVisibility else info.minSchemaSQL

def reconcileUpdateJob (env : PassEnv) (c : Cluster) (store : SchemaStore) : Pass StoreResult := do
  match ← ensureSchemaJob env c store .update with
  | .failed => return { failed := true, message := store.text ++ " update-schema job failed" }
  | .succeeded =>
    deleteInspectorJob env store
    return {}
  | _ => return {}

def reconcileJobSchema (env : PassEnv) (c : Cluster) (store : SchemaStore) (current : String) : Pass StoreResult :=
  if current = "" then do
    match ← ensureSchemaJob env c store .setup with
    | .failed => return { failed := true, message := store.text ++ " setup-schema job failed" }
    | .succeeded => reconcileUpdateJob env c store
    | _ => return {}
  else reconcileUpdateJob env c store

def recheckInline (t : SchemaTarget) (minSchema : String) (st : ClusterStatus) :
    Pass (ClusterStatus × Except GoErr StoreResult) := do
  match ← Act.attempt (t.backend.schemaVersion 1) with
  | .error e => return (st, .error e)
  | .ok current =>
    Act.emit (.schemaRead t.store t.backend.kind current minSchema)
    return (setSchemaVersion st t.store current, .ok { done := schemaSatisfies current minSchema })

/-- `reconcileStoreSchema`: the status it leaves, and its result or error. -/
def reconcileStoreSchema (env : PassEnv) (c : Cluster) (t : SchemaTarget) (minSchema : String) (st : ClusterStatus) :
    Pass (ClusterStatus × Except GoErr StoreResult) := do
  match ← Act.attempt (t.backend.schemaVersion 0) with
  | .error e => return (st, .error (e.wrap ("inspecting " ++ t.store.text ++ " schema")))
  | .ok current =>
    Act.emit (.schemaRead t.store t.backend.kind current minSchema)
    let st := setSchemaVersion st t.store current
    if schemaSatisfies current minSchema then return (st, .ok { done := true })
    else
      match ← Act.attempt t.backend.ensureSchema with
      | .error e => return (st, .error (e.wrap ("applying " ++ t.store.text ++ " schema")))
      | .ok true => recheckInline t minSchema st
      | .ok false =>
        let res ← Act.attempt (reconcileJobSchema env c t.store current)
        return (st, res)

/-! ## Both stores -/

def ensureAzureServiceAccount (env : PassEnv) (c : Cluster) : Pass Unit :=
  match c.spec.persistence.azureWorkloadIdentity with
  | none => pure ()
  | some wi =>
    match env.azureErr with
    | some e => if e.cause = .alreadyExists then pure () else .fail e
    | none => Act.emit (.serviceAccountCreated (azureServiceAccountName c) wi.clientID)

def buildSchemaTargets (env : PassEnv) (c : Cluster) : Except GoErr (List SchemaTarget) := do
  let build (store : SchemaStore) : Except GoErr SchemaTarget := do
    let backend ← newBackend (azureWorkloadIdentityEnabled c.spec) c.namespace_ store (storeSpec c.spec store)
      (env.store store)
    return ⟨store, backend⟩
  let defTarget ← build .default
  let visTarget ← build .visibility
  return [defTarget, visTarget]

/-- Probe the targets in order; `some st` when one does not answer, with the status to leave. -/
def probeTargets (c : Cluster) (st : ClusterStatus) : List SchemaTarget → Pass (Option ClusterStatus)
  | [] => pure none
  | t :: ts => do
    match ← Act.attempt t.backend.probe with
    | .ok () => probeTargets c st ts
    | .error e =>
      if e.cause = .inspecting then
        return some (setInspecting c st (t.store.text ++ " store: inspection in progress"))
      else return some (setReachable c st false (t.store.text ++ " store: " ++ e.text))

/-- `ctrl.Result`, with nanoseconds. -/
structure Result where
  requeue : Bool := false
  requeueAfter : Int := 0
  deriving DecidableEq, Repr

def persistenceRequeueAfter : Int := 30000000000

/-- `ctrl.Result{RequeueAfter: persistenceRequeueAfter}`. -/
def Result.poll : Result := { requeueAfter := persistenceRequeueAfter }

/-- The loop over the stores, with whether one is still migrating. -/
def reconcileStoresResult (env : PassEnv) (c : Cluster) (info : VersionInfo) :
    ClusterStatus → Bool → List SchemaTarget → Pass (ClusterStatus × Result)
  | st, true, [] => pure (setSchemaReady c st false "SchemaMigrating" "schema migration in progress", .poll)
  | st, false, [] => pure (setSchemaReady c st true "SchemaReady" "all schemas are at the required version", {})
  | st, migrating, t :: ts => do
    let (st, res) ← reconcileStoreSchema env c t (minSchemaFor info t.backend.kind t.store) st
    match res with
    | .error e => if e.cause = .inspecting then reconcileStoresResult env c info st true ts else .fail e
    | .ok r =>
      if r.failed then return (setSchemaReady c st false "SchemaMigrationFailed" r.message, {})
      else reconcileStoresResult env c info st (migrating || !r.done) ts

def reconcilePersistenceResult (env : PassEnv) (c : Cluster) (st : ClusterStatus) : Pass (ClusterStatus × Result) := do
  ensureAzureServiceAccount env c
  match buildSchemaTargets env c with
  | .error e => return (setReachable c st false e.text, .poll)
  | .ok targets =>
    match ← probeTargets c st targets with
    | some st => return (st, .poll)
    | none =>
      let st := setReachable c st true "datastore is reachable"
      match lookupVersion supportedVersions c.spec.version with
      | .error e => Act.fail (goErr e)
      | .ok info => reconcileStoresResult env c info st false targets

/-! Most of what follows is about the status alone. -/

def reconcileStores (env : PassEnv) (c : Cluster) (info : VersionInfo) (st : ClusterStatus) (migrating : Bool)
    (ts : List SchemaTarget) : Pass ClusterStatus :=
  Prod.fst <$> reconcileStoresResult env c info st migrating ts

def reconcilePersistence (env : PassEnv) (c : Cluster) (st : ClusterStatus) : Pass ClusterStatus :=
  Prod.fst <$> reconcilePersistenceResult env c st

section
variable (env : PassEnv) (c : Cluster) (st : ClusterStatus)

theorem reconcileStores_cons (info : VersionInfo) (migrating : Bool) (t : SchemaTarget) (ts : List SchemaTarget) :
    reconcileStores env c info st migrating (t :: ts) =
      (reconcileStoreSchema env c t (minSchemaFor info t.backend.kind t.store) st >>= fun out =>
        match out.2 with
        | .error e => if e.cause = .inspecting then reconcileStores env c info out.1 true ts else .fail e
        | .ok r =>
          if r.failed then pure (setSchemaReady c out.1 false "SchemaMigrationFailed" r.message)
          else reconcileStores env c info out.1 (migrating || !r.done) ts) := by
  rw [reconcileStores, reconcileStoresResult, map_bind]
  congr 1
  funext out
  obtain ⟨st', res⟩ := out
  cases res with
  | error e => dsimp only; split <;> rfl
  | ok r => dsimp only; split <;> rfl

theorem reconcilePersistence_eq :
    reconcilePersistence env c st =
      (ensureAzureServiceAccount env c >>= fun _ =>
        match buildSchemaTargets env c with
        | .error e => pure (setReachable c st false e.text)
        | .ok targets => probeTargets c st targets >>= fun probed =>
          match probed with
          | some st => pure st
          | none =>
            match lookupVersion supportedVersions c.spec.version with
            | .error e => .fail (goErr e)
            | .ok info =>
              reconcileStores env c info (setReachable c st true "datastore is reachable") false targets) := by
  rw [reconcilePersistence, reconcilePersistenceResult, map_bind]
  congr 1
  funext _
  cases buildSchemaTargets env c with
  | error e => rfl
  | ok targets =>
    dsimp only
    rw [map_bind]
    congr 1
    funext probed
    cases probed with
    | some st' => rfl
    | none =>
      dsimp only
      cases lookupVersion supportedVersions c.spec.version with
      | error e => rfl
      | ok info => rfl

end

/-! ## What a store was found at -/

/-- The event reads a version from `store` that meets the minimum of `info`. -/
def Event.readsEnough (info : VersionInfo) (store : SchemaStore) : Event → Bool
  | .schemaRead store' kind current minSchema =>
    store' = store && minSchema = minSchemaFor info kind store && schemaSatisfies current minSchema
  | _ => false

def ReadEnough (info : VersionInfo) (store : SchemaStore) (log : List Event) : Prop :=
  ∃ e ∈ log, e.readsEnough info store = true

instance (info : VersionInfo) (store : SchemaStore) (log : List Event) : Decidable (ReadEnough info store log) :=
  inferInstanceAs (Decidable (∃ e ∈ log, _))

def SchemaFound (version : String) (log : List Event) : Prop :=
  ∃ info, lookupVersion supportedVersions version = .ok info ∧ ∀ store, ReadEnough info store log

instance (version : String) (log : List Event) : Decidable (SchemaFound version log) :=
  match h : lookupVersion supportedVersions version with
  | .ok info =>
    decidable_of_iff (ReadEnough info .default log ∧ ReadEnough info .visibility log)
      ⟨fun hr => ⟨info, h, fun store => by cases store; exacts [hr.1, hr.2]⟩, fun ⟨info', h', hr⟩ => by
        obtain rfl := Except.ok.inj (h.symm.trans h')
        exact ⟨hr .default, hr .visibility⟩⟩
  | .error e => .isFalse fun ⟨info, h', _⟩ => by cases h.symm.trans h'

theorem ReadEnough.mono {info : VersionInfo} {store : SchemaStore} {log log' : List Event}
    (h : ReadEnough info store log) (hsub : ∀ e ∈ log, e ∈ log') : ReadEnough info store log' := by
  obtain ⟨e, he, hread⟩ := h
  exact ⟨e, hsub e he, hread⟩

theorem SchemaFound.mono {version : String} {log log' : List Event} (h : SchemaFound version log)
    (hsub : ∀ e ∈ log, e ∈ log') : SchemaFound version log' := by
  obtain ⟨info, hinfo, hread⟩ := h
  exact ⟨info, hinfo, fun store => (hread store).mono hsub⟩

/-- What the schema step of one store leaves: version, record and conditions as they were, and a store that is done
was read at its minimum. -/
structure StoreStep (t : SchemaTarget) (minSchema : String) (st : ClusterStatus) (log : List Event)
    (out : ClusterStatus × Except GoErr StoreResult) : Prop where
  progress : out.1.progress = st.progress
  conditions : out.1.conditions = st.conditions
  done : ∀ r, out.2 = .ok r → r.done = true → ∃ current,
    Event.schemaRead t.store t.backend.kind current minSchema ∈ log ∧ schemaSatisfies current minSchema = true

theorem StoreStep.of_not_done {t : SchemaTarget} {minSchema : String} {st st' : ClusterStatus} {log : List Event}
    {res : Except GoErr StoreResult} (hp : st'.progress = st.progress) (hc : st'.conditions = st.conditions)
    (h : ∀ r, res = .ok r → r.done = false) : StoreStep t minSchema st log (st', res) := by
  refine ⟨hp, hc, fun r hr hdone => ?_⟩
  rw [h r hr] at hdone
  cases hdone

theorem reconcileUpdateJob_not_done {env : PassEnv} {c : Cluster} {store : SchemaStore} {r : StoreResult}
    (h : (reconcileUpdateJob env c store).res = .ok r) : r.done = false := by
  rw [reconcileUpdateJob, Act.res_bind_eq_ok] at h
  obtain ⟨phase, -, h⟩ := h
  cases phase <;> simp only [Act.res_bind_eq_ok, Act.res_pure, Except.ok.injEq] at h
  case succeeded => obtain ⟨-, -, rfl⟩ := h; rfl
  all_goals exact h ▸ rfl

theorem reconcileJobSchema_not_done {env : PassEnv} {c : Cluster} {store : SchemaStore} {current : String}
    {r : StoreResult} (h : (reconcileJobSchema env c store current).res = .ok r) : r.done = false := by
  unfold reconcileJobSchema at h
  split at h
  · rw [Act.res_bind_eq_ok] at h
    obtain ⟨phase, -, h⟩ := h
    cases phase
    case succeeded => exact reconcileUpdateJob_not_done h
    all_goals exact Except.ok.inj h ▸ rfl
  · exact reconcileUpdateJob_not_done h

theorem recheckInline_step {t : SchemaTarget} {minSchema : String} {st : ClusterStatus}
    {out : ClusterStatus × Except GoErr StoreResult} (h : (recheckInline t minSchema st).res = .ok out) :
    StoreStep t minSchema st (recheckInline t minSchema st).log out := by
  unfold recheckInline at h ⊢
  rw [Act.bind_of_ok (Act.res_attempt _)] at h ⊢
  cases hv : (t.backend.schemaVersion 1).res with
  | error e =>
    simp only [hv, Act.res_pure, Except.ok.injEq] at h
    subst h
    exact .of_not_done rfl rfl fun r hr => by cases hr
  | ok current =>
    simp only [hv, Act.res_bind_eq_ok, Act.res_emit, Act.res_pure, Except.ok.injEq] at h
    obtain ⟨-, -, rfl⟩ := h
    refine ⟨rfl, rfl, fun r hr hdone => ⟨current, by simp, ?_⟩⟩
    obtain rfl := Except.ok.inj hr
    exact hdone

theorem reconcileStoreSchema_step {env : PassEnv} {c : Cluster} {t : SchemaTarget} {minSchema : String}
    {st : ClusterStatus} {out : ClusterStatus × Except GoErr StoreResult}
    (h : (reconcileStoreSchema env c t minSchema st).res = .ok out) :
    StoreStep t minSchema st (reconcileStoreSchema env c t minSchema st).log out := by
  unfold reconcileStoreSchema at h ⊢
  rw [Act.bind_of_ok (Act.res_attempt _)] at h ⊢
  cases hv : (t.backend.schemaVersion 0).res with
  | error e =>
    simp only [hv, Act.res_pure, Except.ok.injEq] at h
    subst h
    exact .of_not_done rfl rfl fun r hr => by cases hr
  | ok current =>
    simp only [hv] at h ⊢
    rw [Act.bind_of_ok (Act.res_emit _)] at h ⊢
    by_cases hsat : schemaSatisfies current minSchema = true
    · rw [if_pos hsat] at h
      obtain rfl := Except.ok.inj h
      exact ⟨rfl, rfl, fun r _ _ => ⟨current, by simp, hsat⟩⟩
    · rw [if_neg hsat] at h ⊢
      rw [Act.bind_of_ok (Act.res_attempt _)] at h ⊢
      cases he : t.backend.ensureSchema.res with
      | error e =>
        simp only [he, Act.res_pure, Except.ok.injEq] at h
        subst h
        exact .of_not_done rfl rfl fun r hr => by cases hr
      | ok inline =>
        cases inline with
        | true =>
          simp only [he] at h ⊢
          obtain ⟨hp, hc, hdone⟩ := recheckInline_step h
          refine ⟨hp, hc, fun r hr hd => ?_⟩
          obtain ⟨cur, hmem, hs⟩ := hdone r hr hd
          exact ⟨cur, by simp [hmem], hs⟩
        | false =>
          simp only [he, Act.res_bind_eq_ok, Act.res_attempt, Act.res_pure, Except.ok.injEq] at h
          obtain ⟨res, hres, rfl⟩ := h
          exact .of_not_done rfl rfl fun r hr => reconcileJobSchema_not_done (hres.trans hr)

/-! ## What a pass over both stores leaves -/

structure StoresStep (info : VersionInfo) (st : ClusterStatus) (migrating : Bool) (ts : List SchemaTarget)
    (log : List Event) (st' : ClusterStatus) : Prop where
  progress : st'.progress = st.progress
  reachable : st'.holds .persistenceReachable = st.holds .persistenceReachable
  ready : st'.holds .schemaReady = true → migrating = false ∧ ∀ t ∈ ts, ReadEnough info t.store log

theorem StoresStep.of_setSchemaReady (c : Cluster) (info : VersionInfo) (st : ClusterStatus) (migrating : Bool)
    (ts : List SchemaTarget) (log : List Event) (reason message : String) :
    StoresStep info st migrating ts log (setSchemaReady c st false reason message) := by
  refine ⟨rfl, by simp, fun h => ?_⟩
  simp at h

theorem reconcileStores_step {env : PassEnv} {c : Cluster} {info : VersionInfo} {st st' : ClusterStatus}
    {migrating : Bool} {ts : List SchemaTarget} (h : (reconcileStores env c info st migrating ts).res = .ok st') :
    StoresStep info st migrating ts (reconcileStores env c info st migrating ts).log st' := by
  -- `migrating` is never reset, so `SchemaReady` at the end means that no store on the way was migrating
  induction ts generalizing st migrating with
  | nil =>
    cases migrating
    · obtain rfl := Except.ok.inj h
      exact ⟨rfl, by simp, fun _ => ⟨rfl, by simp⟩⟩
    · obtain rfl := Except.ok.inj h
      exact .of_setSchemaReady ..
  | cons t ts ih =>
    rw [reconcileStores_cons, Act.res_bind_eq_ok] at h
    obtain ⟨⟨st₁, res⟩, hstep, h⟩ := h
    have hs := reconcileStoreSchema_step hstep
    have hreach := holds_of_conditions hs.conditions .persistenceReachable
    rw [reconcileStores_cons, Act.bind_of_ok hstep]
    cases res with
    | error e =>
      simp only at h ⊢
      -- a store whose inspector has no answer yet counts as migrating, and the loop goes on
      by_cases hc : e.cause = .inspecting
      · rw [if_pos hc] at h ⊢
        have hrest := ih h
        refine ⟨hrest.progress.trans hs.progress, hrest.reachable.trans hreach, fun hr => ?_⟩
        cases (hrest.ready hr).1
      · rw [if_neg hc] at h
        cases h
    | ok r =>
      simp only at h ⊢
      by_cases hf : r.failed = true
      · -- a failed Job ends the loop before the other stores are looked at
        rw [if_pos hf] at h
        obtain rfl := Except.ok.inj h
        have hset := StoresStep.of_setSchemaReady c info st₁ migrating (t :: ts)
          ((reconcileStoreSchema env c t (minSchemaFor info t.backend.kind t.store) st).log ++ [])
          "SchemaMigrationFailed" r.message
        rw [if_pos hf]
        exact ⟨hset.progress.trans hs.progress, hset.reachable.trans hreach, hset.ready⟩
      · rw [if_neg hf] at h ⊢
        have hrest := ih h
        refine ⟨hrest.progress.trans hs.progress, hrest.reachable.trans hreach, fun hr => ?_⟩
        obtain ⟨hm, hread⟩ := hrest.ready hr
        rw [Bool.or_eq_false_iff, Bool.not_eq_false'] at hm
        refine ⟨hm.1, fun t' ht' => ?_⟩
        rcases List.mem_cons.mp ht' with rfl | ht'
        · obtain ⟨current, hmem, hsat⟩ := hs.done r rfl hm.2
          exact ⟨_, List.mem_append_left _ hmem, by simp [Event.readsEnough, hsat]⟩
        · exact (hread t' ht').mono fun e he => List.mem_append_right _ he

/-- A store that does not answer leaves `PersistenceReachable` false and `SchemaReady` as it was. -/
theorem probeTargets_some {c : Cluster} {st st' : ClusterStatus} {ts : List SchemaTarget}
    (h : (probeTargets c st ts).res = .ok (some st')) :
    st'.progress = st.progress ∧ st'.holds .persistenceReachable = false ∧
      st'.holds .schemaReady = st.holds .schemaReady := by
  induction ts with
  | nil => cases h
  | cons t ts ih =>
    rw [probeTargets, Act.bind_of_ok (Act.res_attempt _)] at h
    cases hp : t.backend.probe.res with
    | ok u =>
      rw [hp] at h
      exact ih h
    | error e =>
      simp only [hp] at h
      split at h
      · obtain rfl := Option.some.inj (Except.ok.inj h)
        simp
      · obtain rfl := Option.some.inj (Except.ok.inj h)
        simp

theorem emits_probeTargets (c : Cluster) (st : ClusterStatus) (ts : List SchemaTarget) :
    (probeTargets c st ts).Emits (·.stage = .inspect) := by
  induction ts with
  | nil => exact Act.emits_pure _
  | cons t ts ih =>
    refine Act.emits_bind (Act.emits_attempt t.backend.probe_inspects) fun r => ?_
    cases r with
    | ok u => exact ih
    | error e =>
      simp only
      split <;> exact Act.emits_pure _

theorem buildSchemaTargets_eq_ok {env : PassEnv} {c : Cluster} {ts : List SchemaTarget}
    (h : buildSchemaTargets env c = .ok ts) :
    ts.map SchemaTarget.store = [.default, .visibility] ∧ ∀ t ∈ ts,
      newBackend (azureWorkloadIdentityEnabled c.spec) c.namespace_ t.store (storeSpec c.spec t.store)
        (env.store t.store) = .ok t.backend := by
  unfold buildSchemaTargets at h
  cases hd : newBackend (azureWorkloadIdentityEnabled c.spec) c.namespace_ .default (storeSpec c.spec .default)
    (env.store .default) with
  | error e => simp [hd, bind, Except.bind] at h
  | ok d =>
    cases hv : newBackend (azureWorkloadIdentityEnabled c.spec) c.namespace_ .visibility (storeSpec c.spec .visibility)
      (env.store .visibility) with
    | error e => simp [hd, hv, bind, Except.bind, pure, Except.pure] at h
    | ok v =>
      simp only [hd, hv, bind, Except.bind, pure, Except.pure, Except.ok.injEq] at h
      subst h
      refine ⟨rfl, fun t ht => ?_⟩
      rcases List.mem_pair.mp ht with rfl | rfl
      · exact hd
      · exact hv

/-- What `reconcilePersistence` leaves: a reachable datastore makes `SchemaReady` fresh, an unreachable one keeps it. -/
structure PersistenceStep (c : Cluster) (st : ClusterStatus) (log : List Event) (st' : ClusterStatus) : Prop where
  progress : st'.progress = st.progress
  fresh : st'.holds .persistenceReachable = true → st'.holds .schemaReady = true → SchemaFound c.spec.version log
  stale : st'.holds .persistenceReachable = false →
    st'.holds .schemaReady = st.holds .schemaReady ∧ ∀ e ∈ log, e.stage = .inspect

theorem emits_ensureAzureServiceAccount (env : PassEnv) (c : Cluster) :
    (ensureAzureServiceAccount env c).Emits (·.stage = .inspect) := by
  unfold ensureAzureServiceAccount
  split
  · exact Act.emits_pure _
  · split
    · split
      · exact Act.emits_pure _
      · exact Act.emits_fail _
    · exact Act.emits_emit rfl

theorem reconcilePersistence_step {env : PassEnv} {c : Cluster} {st st' : ClusterStatus}
    (h : (reconcilePersistence env c st).res = .ok st') :
    PersistenceStep c st (reconcilePersistence env c st).log st' := by
  rw [reconcilePersistence_eq, Act.res_bind_eq_ok] at h
  obtain ⟨_, haz, h⟩ := h
  rw [reconcilePersistence_eq, Act.bind_of_ok haz]
  have hazure := emits_ensureAzureServiceAccount env c
  cases ht : buildSchemaTargets env c with
  | error e =>
    simp only [ht] at h ⊢
    obtain rfl := Except.ok.inj h
    exact ⟨rfl, by simp, fun _ => ⟨by simp, by rwa [Act.log_pure, List.append_nil]⟩⟩
  | ok targets =>
    simp only [ht, Act.res_bind_eq_ok] at h ⊢
    obtain ⟨probed, hp, h⟩ := h
    rw [Act.bind_of_ok hp]
    have hprobe := emits_probeTargets c st targets
    cases probed with
    | some st₁ =>
      obtain rfl := Except.ok.inj h
      obtain ⟨hprog, hreach, hready⟩ := probeTargets_some hp
      refine ⟨hprog, fun hr => ?_, fun _ => ⟨hready, ?_⟩⟩
      · rw [hreach] at hr
        cases hr
      · intro e he
        rw [Act.log_pure, List.append_nil, List.mem_append] at he
        exact he.elim (hazure e) (hprobe e)
    | none =>
      simp only at h ⊢
      cases hi : lookupVersion supportedVersions c.spec.version with
      | error e =>
        simp only [hi] at h
        cases h
      | ok info =>
        simp only [hi] at h ⊢
        have hs := reconcileStores_step h
        have hreach : st'.holds .persistenceReachable = true := hs.reachable.trans (by simp)
        refine ⟨hs.progress, fun _ hr => ⟨info, hi, fun store => ?_⟩, fun hr => ?_⟩
        · have hmem : store ∈ targets.map SchemaTarget.store := by
            rw [(buildSchemaTargets_eq_ok ht).1]
            cases store <;> simp
          obtain ⟨t, ht, rfl⟩ := List.mem_map.mp hmem
          exact ((hs.ready hr).2 t ht).mono fun e he => List.mem_append_right _ (List.mem_append_right _ he)
        · rw [hreach] at hr
          cases hr

/-! ## Which events come from here -/

def Event.OfPersistence (e : Event) : Prop := e.stage = .inspect ∨ e.stage = .migrate

theorem mem_log_createSchemaJob {env : PassEnv} {c : Cluster} {store : SchemaStore} {action : SchemaAction} {e : Event}
    (h : e ∈ (createSchemaJob env c store action).log) :
    ∃ built, buildSchemaJob env (schemaJobParams env c store action) = .ok built ∧
      e = .jobCreated store action (wiredSchemaJob c built) := by
  unfold createSchemaJob at h
  split at h
  · cases h
  · rename_i built hbuilt
    split at h
    · split at h <;> cases h
    · exact ⟨built, hbuilt, List.mem_singleton.mp h⟩

theorem mem_log_replaceSchemaJob {env : PassEnv} {store : SchemaStore} {action : SchemaAction} {e : Event}
    (h : e ∈ (replaceSchemaJob env store action).log) : e = .jobDeleted store action := by
  rw [replaceSchemaJob, Act.mem_log_bind] at h
  rcases h with h | ⟨_, -, h⟩
  · exact List.mem_singleton.mp h
  · split at h
    · split at h <;> cases h
    · cases h

/-- What `ensureSchemaJob` does: it asks for the Job, creates it when there is none, and deletes one of another
image. -/
theorem mem_log_ensureSchemaJob {env : PassEnv} {c : Cluster} {store : SchemaStore} {action : SchemaAction} {e : Event}
    (h : e ∈ (ensureSchemaJob env c store action).log) :
    e = .schemaJob store action ∨
      (∃ err built, (env.schemaJob store action).get = .error err ∧ err.cause = .notFound ∧
        buildSchemaJob env (schemaJobParams env c store action) = .ok built ∧
        e = .jobCreated store action (wiredSchemaJob c built)) ∨
      e = .jobDeleted store action := by
  rw [ensureSchemaJob, Act.mem_log_bind] at h
  rcases h with h | ⟨_, -, h⟩
  · exact .inl (List.mem_singleton.mp h)
  cases hg : (env.schemaJob store action).get with
  | error err =>
    simp only [hg] at h
    split at h
    · rename_i hc
      obtain ⟨built, hbuilt, rfl⟩ := mem_log_createSchemaJob h
      exact .inr (.inl ⟨err, built, rfl, hc, hbuilt, rfl⟩)
    · cases h
  | ok job =>
    simp only [hg] at h
    split at h
    · cases h
    · split at h
      · exact .inr (.inr (mem_log_replaceSchemaJob h))
      · cases h

theorem ensureSchemaJob_of_job {env : PassEnv} {c : Cluster} {store : SchemaStore} {action : SchemaAction} {job : Job}
    (hget : (env.schemaJob store action).get = .ok job) :
    (Event.jobDeleted store action ∈ (ensureSchemaJob env c store action).log ↔
      job.deleting = false ∧ jobRunsImage job (adminToolsImage c.spec.version) = false) ∧
    (job.deleting = false → jobRunsImage job (adminToolsImage c.spec.version) = true →
      (ensureSchemaJob env c store action).res = .ok (classifyJob job)) := by
  cases hd : job.deleting with
  | true => simp [ensureSchemaJob, hget, hd]
  | false =>
    cases hi : jobRunsImage job (adminToolsImage c.spec.version) with
    | true => simp [ensureSchemaJob, hget, hd, hi]
    | false => simp [ensureSchemaJob, replaceSchemaJob, hget, hd, hi]

theorem createSchemaJob_pending {env : PassEnv} {c : Cluster} {store : SchemaStore} {action : SchemaAction} :
    (createSchemaJob env c store action).Returns (· = .pending) := by
  unfold createSchemaJob
  split
  · exact Act.returns_fail _
  · split
    · split
      · exact Act.returns_pure rfl
      · exact Act.returns_fail _
    · exact Act.returns_bind (Act.returns_any _) fun _ _ => Act.returns_pure rfl

theorem replaceSchemaJob_pending {env : PassEnv} {store : SchemaStore} {action : SchemaAction} :
    (replaceSchemaJob env store action).Returns (· = .pending) := by
  refine Act.returns_bind (Act.returns_any _) fun _ _ => ?_
  split
  · split
    · exact Act.returns_pure rfl
    · exact Act.returns_fail _
  · exact Act.returns_pure rfl

/-- A phase other than `pending` is read off a Job that is there to stay and runs the wanted image. -/
theorem ensureSchemaJob_classified {env : PassEnv} {c : Cluster} {store : SchemaStore} {action : SchemaAction}
    {phase : JobPhase} (h : (ensureSchemaJob env c store action).res = .ok phase) (hphase : phase ≠ .pending) :
    ∃ job, (env.schemaJob store action).get = .ok job ∧ job.deleting = false ∧
      jobRunsImage job (adminToolsImage c.spec.version) = true ∧ classifyJob job = phase := by
  rw [ensureSchemaJob, Act.res_bind_eq_ok] at h
  obtain ⟨_, -, h⟩ := h
  cases hget : (env.schemaJob store action).get with
  | error err =>
    simp only [hget] at h
    split at h
    · exact absurd (createSchemaJob_pending _ h) hphase
    · cases h
  | ok job =>
    simp only [hget] at h
    split at h
    · exact absurd (Except.ok.inj h).symm hphase
    · rename_i hdeleting
      split at h
      · exact absurd (replaceSchemaJob_pending _ h) hphase
      · rename_i himage
        exact ⟨job, rfl, by simpa using hdeleting, by simpa using himage, Except.ok.inj h⟩

theorem emits_ensureSchemaJob (env : PassEnv) (c : Cluster) (store : SchemaStore) (action : SchemaAction) :
    (ensureSchemaJob env c store action).Emits (·.stage = .migrate) := by
  intro e he
  obtain rfl | ⟨_, _, -, -, -, rfl⟩ | rfl := mem_log_ensureSchemaJob he
  all_goals rfl

theorem emits_deleteInspectorJob (env : PassEnv) (store : SchemaStore) :
    (deleteInspectorJob env store).Emits (·.stage = .inspect) := by
  unfold deleteInspectorJob
  split
  · split
    · exact Act.emits_pure _
    · exact Act.emits_fail _
  · refine Act.emits_bind (Act.emits_emit rfl) fun _ => ?_
    split
    · split
      · exact Act.emits_pure _
      · exact Act.emits_fail _
    · exact Act.emits_pure _

theorem mem_log_reconcileUpdateJob {env : PassEnv} {c : Cluster} {store : SchemaStore} {e : Event}
    (h : e ∈ (reconcileUpdateJob env c store).log) :
    e ∈ (ensureSchemaJob env c store .update).log ∨ e.stage = .inspect := by
  rw [reconcileUpdateJob, Act.mem_log_bind] at h
  rcases h with h | ⟨phase, -, h⟩
  · exact .inl h
  cases phase
  case succeeded =>
    rw [Act.mem_log_bind] at h
    rcases h with h | ⟨_, -, h⟩
    · exact .inr (emits_deleteInspectorJob env store e h)
    · cases h
  all_goals cases h

theorem emits_reconcileUpdateJob (env : PassEnv) (c : Cluster) (store : SchemaStore) :
    (reconcileUpdateJob env c store).Emits Event.OfPersistence := by
  intro e he
  rcases mem_log_reconcileUpdateJob he with h | h
  · exact .inr (emits_ensureSchemaJob env c store .update e h)
  · exact .inl h

theorem emits_reconcileJobSchema (env : PassEnv) (c : Cluster) (store : SchemaStore) (current : String) :
    (reconcileJobSchema env c store current).Emits Event.OfPersistence := by
  unfold reconcileJobSchema
  split
  · refine Act.emits_bind ((emits_ensureSchemaJob env c store .setup).mono fun _ => .inr) fun phase => ?_
    cases phase
    case succeeded => exact emits_reconcileUpdateJob env c store
    all_goals exact Act.emits_pure _
  · exact emits_reconcileUpdateJob env c store

theorem emits_recheckInline (t : SchemaTarget) (minSchema : String) (st : ClusterStatus) :
    (recheckInline t minSchema st).Emits (·.stage = .inspect) := by
  refine Act.emits_bind (Act.emits_attempt (t.backend.schemaVersion_inspects 1)) fun r => ?_
  cases r with
  | error e => exact Act.emits_pure _
  | ok current => exact Act.emits_bind (Act.emits_emit rfl) fun _ => Act.emits_pure _

theorem emits_reconcileStoreSchema (env : PassEnv) (c : Cluster) (t : SchemaTarget) (minSchema : String)
    (st : ClusterStatus) : (reconcileStoreSchema env c t minSchema st).Emits Event.OfPersistence := by
  refine Act.emits_bind ((Act.emits_attempt (t.backend.schemaVersion_inspects 0)).mono fun _ => .inl) fun r => ?_
  cases r with
  | error e => exact Act.emits_pure _
  | ok current =>
    refine Act.emits_bind (Act.emits_emit (.inl rfl)) fun _ => ?_
    split
    · exact Act.emits_pure _
    · refine Act.emits_bind ((Act.emits_attempt t.backend.ensureSchema_migrates).mono fun _ => .inr) fun r => ?_
      split
      · exact Act.emits_pure _
      · exact (emits_recheckInline t minSchema _).mono fun _ => .inl
      · exact Act.emits_bind (Act.emits_attempt (emits_reconcileJobSchema env c t.store current)) fun _ =>
          Act.emits_pure _

theorem emits_reconcileStores (env : PassEnv) (c : Cluster) (info : VersionInfo) (st : ClusterStatus)
    (migrating : Bool) (ts : List SchemaTarget) :
    (reconcileStores env c info st migrating ts).Emits Event.OfPersistence := by
  induction ts generalizing st migrating with
  | nil => cases migrating <;> exact Act.emits_pure _
  | cons t ts ih =>
    rw [reconcileStores_cons]
    refine Act.emits_bind (emits_reconcileStoreSchema env c t _ st) fun out => ?_
    obtain ⟨st₁, res⟩ := out
    cases res with
    | error e =>
      simp only
      split
      · exact ih st₁ true
      · exact Act.emits_fail _
    | ok r =>
      simp only
      split
      · exact Act.emits_pure _
      · exact ih st₁ _

theorem emits_reconcilePersistence (env : PassEnv) (c : Cluster) (st : ClusterStatus) :
    (reconcilePersistence env c st).Emits Event.OfPersistence := by
  rw [reconcilePersistence_eq]
  refine Act.emits_bind ((emits_ensureAzureServiceAccount env c).mono fun _ => .inl) fun _ => ?_
  split
  · exact Act.emits_pure _
  · refine Act.emits_bind ((emits_probeTargets c st _).mono fun _ => .inl) fun probed => ?_
    cases probed with
    | some st₁ => exact Act.emits_pure _
    | none =>
      simp only
      split
      · exact Act.emits_fail _
      · exact emits_reconcileStores env c _ _ _ _

end TemporalOperator
