import TemporalOperator.Cluster.SwitchOff
import TemporalOperator.Lib.Result
import TemporalOperator.Satellite.Watch

/-!
# What a cluster waits for

The `ctrl.Result` of `Reconcile` of the cluster controller, and its `SetupWithManager`. A pass asks to be repeated while
it polls the datastores; for everything else it relies on the watches on the objects that the cluster owns.

* `Blocked` : what a pass has read that keeps the cluster from being ready; `not_ready_blocked` : a pass that is neither
  ready nor repeated has read such a thing;
* `clusterWatcher` : the watches; `resting_cluster_blocked` : a cluster at rest has something that it waits for.
-/

namespace TemporalOperator
open Lib Persistence

theorem Result.poll_ne : Result.poll.requeueAfter ≠ 0 := by decide

/-! ## What a pass has read -/

/-- Something that a pass has read keeps the cluster from being ready: a schema Job that failed, a service without a ready
replica, or a certificate that is not ready. -/
inductive Blocked (env : PassEnv) (c : Cluster) : Prop
  | schemaJob (store : SchemaStore) (action : SchemaAction) (job : Job) (hget : (env.schemaJob store action).get = .ok job)
      (hfailed : classifyJob job = .failed)
  | deployment (s : Service) (henabled : Enabled c.spec s) (dep : Deployment) (hget : env.rollup s = .ok dep)
      (hready : dep.readyReplicas < 1)
  | certificate (name : CertificateName) (hmtls : mTLSEnabled c.spec = true)
      (hstatus : certificateStatus env name ≠ (true, false))

section
variable {env : PassEnv} {c : Cluster}

theorem ensureSchemaJob_failed {store : SchemaStore} {action : SchemaAction}
    (h : (ensureSchemaJob env c store action).res = .ok .failed) : Blocked env c := by
  obtain ⟨job, hget, -, -, hfailed⟩ := ensureSchemaJob_classified h (by decide)
  exact .schemaJob store action job hget hfailed

theorem reconcileUpdateJob_failed {store : SchemaStore} :
    (reconcileUpdateJob env c store).Returns fun r => r.failed = true → Blocked env c := by
  intro r h hfailed
  rw [reconcileUpdateJob, Act.res_bind_eq_ok] at h
  obtain ⟨phase, hphase, h⟩ := h
  cases phase with
  | failed => exact ensureSchemaJob_failed hphase
  | succeeded =>
    obtain ⟨_, -, h⟩ := (Act.res_bind_eq_ok ..).mp h
    obtain rfl := Except.ok.inj h
    cases hfailed
  | pending =>
    obtain rfl := Except.ok.inj h
    cases hfailed
  | running =>
    obtain rfl := Except.ok.inj h
    cases hfailed

theorem reconcileJobSchema_failed {store : SchemaStore} {current : String} :
    (reconcileJobSchema env c store current).Returns fun r => r.failed = true → Blocked env c := by
  unfold reconcileJobSchema
  split
  · intro r h hfailed
    obtain ⟨phase, hphase, h⟩ := (Act.res_bind_eq_ok ..).mp h
    cases phase with
    | failed => exact ensureSchemaJob_failed hphase
    | succeeded => exact reconcileUpdateJob_failed r h hfailed
    | pending =>
      obtain rfl := Except.ok.inj h
      cases hfailed
    | running =>
      obtain rfl := Except.ok.inj h
      cases hfailed
  · exact reconcileUpdateJob_failed

theorem reconcileStoreSchema_failed {t : SchemaTarget} {minSchema : String} {st : ClusterStatus} :
    (reconcileStoreSchema env c t minSchema st).Returns fun out =>
      ∀ r, out.2 = .ok r → r.failed = true → Blocked env c := by
  unfold reconcileStoreSchema
  refine Act.returns_bind (Act.returns_any _) fun version _ => ?_
  cases version with
  | error e => exact Act.returns_pure (fun r hr => by cases hr)
  | ok current =>
    refine Act.returns_bind (Act.returns_any _) fun _ _ => ?_
    dsimp only
    split
    · refine Act.returns_pure fun r hr hfailed => ?_
      obtain rfl := Except.ok.inj hr
      cases hfailed
    · refine Act.returns_bind (Act.returns_any _) fun inline _ => ?_
      cases inline with
      | error e => exact Act.returns_pure (fun r hr => by cases hr)
      | ok inline =>
        cases inline with
        | true =>
          refine Act.returns_bind (Act.returns_any _) fun again _ => ?_
          cases again with
          | error e => exact Act.returns_pure (fun r hr => by cases hr)
          | ok current' =>
            refine Act.returns_bind (Act.returns_any _) fun _ _ => Act.returns_pure fun r hr hfailed => ?_
            obtain rfl := Except.ok.inj hr
            cases hfailed
        | false =>
          intro out hout r hr hfailed
          obtain ⟨res, hres, hout⟩ := (Act.res_bind_eq_ok ..).mp hout
          obtain rfl := Except.ok.inj hout
          obtain rfl := Except.ok.inj hres
          exact reconcileJobSchema_failed r hr hfailed

/-- The loop over the stores is not repeated only if the schema is ready, or a schema Job has failed. -/
theorem reconcileStoresResult_rest {info : VersionInfo} {ts : List SchemaTarget} {st : ClusterStatus} {migrating : Bool} :
    (reconcileStoresResult env c info st migrating ts).Returns fun out =>
      out.2.requeueAfter = 0 → out.1.holds .schemaReady = true ∨ Blocked env c := by
  induction ts generalizing st migrating with
  | nil =>
    cases migrating with
    | true => exact Act.returns_pure fun h => absurd h Result.poll_ne
    | false => exact Act.returns_pure fun _ => .inl (by simp)
  | cons t ts ih =>
    rw [reconcileStoresResult]
    refine Act.returns_bind reconcileStoreSchema_failed fun out hout => ?_
    obtain ⟨st', res⟩ := out
    cases res with
    | error e =>
      dsimp only
      split
      · exact ih
      · exact Act.returns_fail _
    | ok r =>
      dsimp only
      split
      · exact Act.returns_pure fun _ => .inr (hout r rfl ‹_›)
      · exact ih

theorem reconcilePersistenceResult_rest {st st' : ClusterStatus} {result : Result}
    (h : (reconcilePersistenceResult env c st).res = .ok (st', result)) (hrest : result.requeueAfter = 0) :
    st'.holds .persistenceReachable = true ∧ (st'.holds .schemaReady = true ∨ Blocked env c) := by
  obtain ⟨_, -, h⟩ := (Act.res_bind_eq_ok ..).mp h
  cases htargets : buildSchemaTargets env c with
  | error e =>
    rw [htargets] at h
    obtain ⟨rfl, rfl⟩ := Prod.mk.inj (Except.ok.inj h)
    exact absurd hrest Result.poll_ne
  | ok targets =>
    rw [htargets] at h
    obtain ⟨probed, -, h⟩ := (Act.res_bind_eq_ok ..).mp h
    cases probed with
    | some st₁ =>
      obtain ⟨rfl, rfl⟩ := Prod.mk.inj (Except.ok.inj h)
      exact absurd hrest Result.poll_ne
    | none =>
      cases hinfo : lookupVersion supportedVersions c.spec.version with
      | error e =>
        simp only [hinfo] at h
        cases h
      | ok info =>
        simp only [hinfo] at h
        refine ⟨?_, reconcileStoresResult_rest _ h hrest⟩
        have hstores : (reconcileStores env c info (setReachable c st true "datastore is reachable") false targets).res =
            .ok st' := by
          rw [reconcileStores, Act.res_map_eq_ok]
          exact ⟨_, h, rfl⟩
        rw [(reconcileStores_step hstores).reachable, holds_setReachable, if_pos rfl]

theorem reconcileMTLS_blocked {st st' : ClusterStatus} (h : (reconcileMTLS env c st).res = .ok st')
    (hmtls : mTLSEnabled c.spec = true) : st'.holds .mtlsReady = true ∨ Blocked env c := by
  by_cases hall : ∀ name, certificateStatus env name = (true, false)
  · left
    rw [reconcileMTLS, hmtls, Bool.not_true, if_neg Bool.false_ne_true, Act.res_bind_eq_ok] at h
    obtain ⟨_, -, h⟩ := h
    simp only [hall] at h
    obtain rfl := Except.ok.inj h
    rw [setMTLSReady, holds_setCondition, if_pos rfl]
    rfl
  · obtain ⟨name, hname⟩ := Classical.not_forall.mp hall
    exact .inr (.certificate name hmtls hname)

theorem rollupLoop_blocked {svcs : List ServiceInfo} (hsvcs : svcs ⊆ enabledServices c.spec) {st : ClusterStatus} :
    (rollupLoop env c st true svcs).Returns fun out => out.2 = true ∨ Blocked env c := by
  induction svcs generalizing st with
  | nil => exact Act.returns_pure (.inl rfl)
  | cons svc svcs ih =>
    obtain ⟨hsvc, hrest⟩ := List.cons_subset.mp hsvcs
    rw [rollupLoop]
    cases hget : env.rollup svc.name with
    | error e => exact Act.returns_fail e
    | ok dep =>
      dsimp only
      by_cases hready : dep.readyReplicas < 1
      · intro out _
        exact .inr (.deployment svc.name (List.mem_map_of_mem hsvc) dep hget hready)
      · simp only [hready, decide_false, Bool.not_false, Bool.and_true]
        exact Act.returns_bind (Act.returns_any _) fun _ _ => ih hrest

theorem reconcileServices_blocked {st st' : ClusterStatus} {versions : List (Service × String)}
    (h : (reconcileServices env c st versions).res = .ok st') (hready : st.holds .schemaReady = true) :
    st'.holds .available = true ∨ Blocked env c := by
  rw [reconcileServices, hready, Bool.not_true, if_neg Bool.false_ne_true] at h
  simp only [Act.res_bind_eq_ok, rollupServiceStatus] at h
  obtain ⟨_, -, _, -, _, -, ⟨st₁, allReady⟩, hloop, h⟩ := h
  obtain rfl := Except.ok.inj h
  rw [holds_setAvailable, if_pos rfl]
  exact rollupLoop_blocked (List.Subset.refl _) _ hloop

theorem storeStatus_eq_ok {st st' : ClusterStatus} {result result' : Result}
    (h : (storeStatus env st result).res = .ok (some st', result')) : st = st' ∧ result = result' := by
  unfold storeStatus at h
  cases hstatus : env.statusErr with
  | some e =>
    simp only [hstatus] at h
    split at h <;> cases h
  | none =>
    simp only [hstatus] at h
    obtain ⟨hst, hresult⟩ := Prod.mk.inj (Except.ok.inj h)
    exact ⟨Option.some.inj hst, hresult⟩

/-- The stages of a pass that has stored a status, with the result that `reconcilePersistence` gave. -/
theorem reconcileResult_stages {st' : ClusterStatus} {result : Result}
    (h : (reconcileResult env c).res = .ok (some st', result)) :
    ∃ st₁ st₂ served, (reconcilePersistenceResult env c c.status).res = .ok (st₁, result) ∧
      (reconcileMTLS env c st₁).res = .ok st₂ ∧ Stages env c st₂ served st' := by
  unfold reconcileResult at h
  cases hget : env.getErr with
  | some e =>
    simp only [hget] at h
    split at h <;> cases h
  | none =>
    simp only [hget, Act.res_bind_eq_ok] at h
    obtain ⟨⟨st₁, result'⟩, hp, st₂, hm, ⟨out, versions⟩, hu, served, hs, _, hui, _, -, st₄, hc, h⟩ := h
    obtain ⟨hst, rfl⟩ := storeStatus_eq_ok h
    rw [reconcileUpgrade_res] at hu
    obtain ⟨rfl, rfl⟩ := Prod.mk.inj (Except.ok.inj hu)
    have hgot : getCluster env = .ok () := by rw [getCluster, hget]
    have hreached : (reconcilePersistence env c c.status).res = .ok st₁ := (Act.res_map_eq_ok ..).mpr ⟨_, hp, rfl⟩
    exact ⟨st₁, st₂, served, hp, hm, ⟨hgot, st₁, hreached, hm⟩, hs, hui, st₄, hc, hst⟩

/-- A pass that stores a status which is not ready, and does not ask to be repeated, has read something that keeps the
cluster from being ready. -/
theorem not_ready_blocked {st' : ClusterStatus} {result : Result} (h : (reconcileResult env c).res = .ok (some st', result))
    (hrest : result.requeueAfter = 0) (hready : st'.holds .ready = false) : Blocked env c := by
  obtain ⟨st₁, st₂, served, hp, hm, -, hs, -, st₄, hc, rfl⟩ := reconcileResult_stages h
  have hmtls := reconcileMTLS_res hm
  have hservices := reconcileServices_step hs
  obtain ⟨hreachable, hschema | hblocked⟩ := reconcilePersistenceResult_rest hp hrest
  case inr => exact hblocked
  -- what the stages before the services have found is what `computeReadyAndPhase` looks at
  have hkept : ∀ t, t ≠ .mtlsReady → t ≠ .available → served.holds t = st₁.holds t := by
    intro t ht ht'
    rw [hservices.holds t ht', holds_upgradeOutcome, hmtls.2 t ht]
  have hout : (upgradeOutcome env c.spec st₂).holds .schemaReady = true := by
    rw [holds_upgradeOutcome, hmtls.2 _ (by decide), hschema]
  rcases reconcileServices_blocked hs hout with havailable | hblocked
  case inr => exact hblocked
  rw [computeReadyAndPhase, Act.res_bind_eq_ok] at hc
  obtain ⟨_, -, hc⟩ := hc
  obtain rfl := Except.ok.inj hc
  have hnot : clusterReady c served = false := by
    cases hclusterReady : clusterReady c served with
    | false => rfl
    | true =>
      have hholds : (withReady c served).holds .ready = true := by
        rw [withReady, holds_setCondition, if_pos rfl, hclusterReady]
        rfl
      exact absurd (hholds.symm.trans hready) Bool.noConfusion
  rw [clusterReady, hkept _ (by decide) (by decide), hreachable, hkept _ (by decide) (by decide), hschema, havailable,
    Bool.and_self, Bool.and_self, Bool.true_and, Bool.or_eq_false_iff] at hnot
  have hon : mTLSEnabled c.spec = true := by simpa using hnot.1
  refine (reconcileMTLS_blocked hm hon).resolve_left fun hmtlsReady => ?_
  rw [hservices.holds _ (by decide), holds_upgradeOutcome, hmtlsReady] at hnot
  cases hnot.2

end

/-! ## Watches -/

inductive OwnedKey
  | deployment (s : Service)
  | schemaJob (store : SchemaStore) (action : SchemaAction)
  | certificate (name : CertificateName)
  deriving DecidableEq, Repr

inductive Owned
  | deployment (d : Deployment)
  | job (job : Job)
  | certificate (conditions : List (ConditionStatus × String))
  deriving DecidableEq

def ownedKeys (c : Cluster) : List OwnedKey :=
  (enabledServices c.spec).map (fun svc => .deployment svc.name) ++
    (if mTLSEnabled c.spec then [.certificate .internode, .certificate .frontend] else []) ++
    [.schemaJob .default .setup, .schemaJob .default .update, .schemaJob .visibility .setup,
      .schemaJob .visibility .update]

/-- `SetupWithManager`: every change of an owned object queues its owner. -/
def clusterWatcher : Watcher Satellite.NamespacedName Cluster (Satellite.NamespacedName × OwnedKey) Owned where
  reads d c := (ownedKeys c).map fun k => (d, k)
  fires _ _ _ := true
  requests k _ := [k.1]

theorem clusterWatcher_sound : clusterWatcher.Sound (fun _ _ => True) (fun _ _ => true) id where
  refl _ := trivial
  created _ _ := rfl
  quiet _ _ _ _ _ hfires := absurd hfires.symm Bool.false_ne_true
  mapped k cached d c _ hk := by
    obtain ⟨k', -, rfl⟩ := List.mem_map.mp hk
    exact List.mem_singleton_self d

/-- The owned object keeps the cluster from being ready: a Job that is there and has failed, a Deployment without a ready
replica, a Certificate that is missing or not ready. -/
def blocks : OwnedKey → Option Owned → Bool
  | .deployment _, some (.deployment d) => d.readyReplicas < 1
  | .schemaJob .., some (.job job) => classifyJob job = .failed
  | .certificate _, some (.certificate conditions) =>
    certificateStatus { certificate := fun _ => .ok conditions } .internode ≠ (true, false)
  | .certificate _, none => true
  | _, _ => false

/-- The pass has read the owned objects as `objects` has them. -/
structure ReadsOwned (env : PassEnv) (c : Cluster) (objects : OwnedKey → Option Owned) : Prop where
  deployment : ∀ s, Enabled c.spec s → ∀ d, env.rollup s = .ok d → objects (.deployment s) = some (.deployment d)
  schemaJob : ∀ store action job, (env.schemaJob store action).get = .ok job →
    objects (.schemaJob store action) = some (.job job)
  /-- A Certificate that is cached is read. -/
  certificate : ∀ name o, objects (.certificate name) = some o →
    ∃ conditions, o = .certificate conditions ∧ env.certificate name = .ok conditions

/-- What has kept the cluster from being ready is an owned object, as it was read. -/
theorem Blocked.owned {env : PassEnv} {c : Cluster} (h : Blocked env c) {objects : OwnedKey → Option Owned}
    (hreads : ReadsOwned env c objects) : ∃ k ∈ ownedKeys c, blocks k (objects k) = true := by
  cases h with
  | schemaJob store action job hget hfailed =>
    refine ⟨.schemaJob store action, ?_, ?_⟩
    · refine List.mem_append_right _ ?_
      cases store <;> cases action <;> simp
    · rw [hreads.schemaJob store action job hget]
      exact decide_eq_true hfailed
  | deployment s henabled dep hget hready =>
    refine ⟨.deployment s, ?_, ?_⟩
    · obtain ⟨svc, hsvc, rfl⟩ := List.mem_map.mp henabled
      exact List.mem_append_left _ (List.mem_append_left _ (List.mem_map.mpr ⟨svc, hsvc, rfl⟩))
    · rw [hreads.deployment s henabled dep hget]
      exact decide_eq_true hready
  | certificate name hmtls hstatus =>
    refine ⟨.certificate name, ?_, ?_⟩
    · refine List.mem_append_left _ (List.mem_append_right _ ?_)
      rw [if_pos hmtls]
      cases name <;> simp
    · cases ho : objects (.certificate name) with
      | none => rfl
      | some o =>
        obtain ⟨conditions, rfl, hget⟩ := hreads.certificate name o ho
        rw [certificateStatus, hget] at hstatus
        exact decide_eq_true hstatus

/-- **A cluster at rest waits for something that it owns.** In every interleaving of writes, caches, notices and passes: let
nothing be under way for a cluster, with the caches of what it is and owns caught up and told, and let the pass that read
what the cluster has seen last have stored a status that is not ready without asking to be repeated. Then that pass has
read the cluster as it is now, and at this moment a service is without a ready replica, a certificate of mTLS is missing or
not ready, or a schema Job is there that has failed. -/
theorem resting_cluster_blocked
    {s : WatchState Satellite.NamespacedName Cluster (Satellite.NamespacedName × OwnedKey) Owned}
    {h : List (WatchEvent Satellite.NamespacedName Cluster (Satellite.NamespacedName × OwnedKey) Owned)}
    (hr : clusterWatcher.system.Run (fun s _ => Watcher.Orderly (fun _ _ => True) (fun _ _ => true) s) {} s h)
    {d : Satellite.NamespacedName} (hsettled : Watcher.Settled s d) {c : Cluster} (hstored : s.ownStore d = some c)
    (hcached : s.ownCache.lookup d = s.ownStore d)
    (hsynced : ∀ k ∈ ownedKeys c, s.cache (d, k) = s.store (d, k) ∧ ¬ clusterWatcher.Announced s (d, k))
    {env : PassEnv} (hreads : ReadsOwned env c fun k => s.seen d (d, k)) {st' : ClusterStatus} {result : Result}
    (hpass : (reconcileResult env c).res = .ok (some st', result)) (hrest : result.requeueAfter = 0)
    (hready : st'.holds .ready = false) :
    s.seenOwn d = some c ∧ ∃ k ∈ ownedKeys c, blocks k (s.store (d, k)) = true := by
  have hcovered := Watcher.system_covered clusterWatcher_sound hr d
  obtain ⟨hown, hcurrent⟩ := hsettled.fresh hcovered (hcached.trans hstored)
  refine ⟨hown, ?_⟩
  obtain ⟨k, hk, hseen⟩ := (not_ready_blocked hpass hrest hready).owned hreads
  refine ⟨k, hk, ?_⟩
  obtain ⟨hcache, hquiet⟩ := hsynced k hk
  have hread : (d, k) ∈ clusterWatcher.reads d c := List.mem_map.mpr ⟨k, hk, rfl⟩
  -- deletions are told as well, so that what was seen is all there is
  have hview := (hcurrent (d, k) hread (.inr fun _ => rfl)).resolve_left hquiet
  rw [Option.map_id_fun, id_eq, id_eq, hcache] at hview
  rw [← hview]
  exact hseen

/-! ### A cluster whose services are starting -/

def startingName : Satellite.NamespacedName := ⟨"", "temporal"⟩

def startingDeployment : Deployment := { deployedAt "1.31.0" with readyReplicas := 0 }

def finishedJob : Job := { conditions := [(.complete, .true)] }

def startingReads : PassEnv :=
  { steadyEnv newestSchema "1.31.0" with
    rollup := fun _ => .ok startingDeployment
    schemaJob := fun _ _ => { get := .ok finishedJob } }

/-- The cluster with the status that a pass over it stores. -/
def startingCluster : Cluster :=
  let c := sampleCluster "1.31.0"
  { c with status := ((reconcile startingReads c).res.toOption).getD {} }

def startingObjects : List (OwnedKey × Owned) :=
  [Service.frontend, .history, .matching, .worker].map (fun s => (.deployment s, .deployment startingDeployment)) ++
    [(SchemaStore.default, SchemaAction.setup), (.default, .update), (.visibility, .setup), (.visibility, .update)].map
      fun job => (.schemaJob job.1 job.2, .job finishedJob)

def startingPass : List (WatchEvent Satellite.NamespacedName Cluster (Satellite.NamespacedName × OwnedKey) Owned) :=
  [.take startingName, .get startingName] ++ List.replicate 8 (.read startingName) ++ [.finish startingName false]

/-- The cluster and what it owns appear, a pass reads them and stores its status, which brings on a second one. -/
def startingEvents : List (WatchEvent Satellite.NamespacedName Cluster (Satellite.NamespacedName × OwnedKey) Owned) :=
  let appears (o : OwnedKey × Owned) :
      List (WatchEvent Satellite.NamespacedName Cluster (Satellite.NamespacedName × OwnedKey) Owned) :=
    [.write (startingName, o.1) (some o.2), .sync (startingName, o.1),
      .deliver (.other (startingName, o.1) none (some o.2)) false]
  [.writeOwn startingName (some (sampleCluster "1.31.0")), .syncOwn startingName, .deliver (.own startingName) false] ++
    startingObjects.flatMap appears ++ startingPass ++
    [.writeOwn startingName (some startingCluster), .syncOwn startingName, .deliver (.own startingName) false] ++
    startingPass

def startingState : WatchState Satellite.NamespacedName Cluster (Satellite.NamespacedName × OwnedKey) Owned :=
  (clusterWatcher.system.exec {} [] startingEvents).1

theorem startingState_run :
    clusterWatcher.system.Run (fun s _ => Watcher.Orderly (fun _ _ => True) (fun _ _ => true) s) {} startingState
      (clusterWatcher.system.exec {} [] startingEvents).2 :=
  System.Run.exec .start (by decide +kernel)

theorem starting_stores : (reconcileResult startingReads startingCluster).res = .ok (some startingCluster.status, {}) := by
  decide +kernel

theorem resting_cluster_blocked_starting :
    startingState.seenOwn startingName = some startingCluster ∧
      ∃ k ∈ ownedKeys startingCluster, blocks k (startingState.store (startingName, k)) = true := by
  have hstate : startingState.queued startingName = false ∧ startingState.work startingName = .idle ∧
      startingState.notices = [] ∧ startingState.ownStore startingName = some startingCluster ∧
      startingState.ownCache.lookup startingName = startingState.ownStore startingName ∧
      (∀ k ∈ ownedKeys startingCluster,
        startingState.cache (startingName, k) = startingState.store (startingName, k)) ∧
      (∀ svc ∈ enabledServices startingCluster.spec,
        startingState.seen startingName (startingName, .deployment svc.name) = some (.deployment startingDeployment)) ∧
      (∀ store ∈ [SchemaStore.default, .visibility], ∀ action ∈ [SchemaAction.setup, .update],
        startingState.seen startingName (startingName, .schemaJob store action) = some (.job finishedJob)) ∧
      ∀ name ∈ [CertificateName.internode, .frontend],
        startingState.seen startingName (startingName, .certificate name) = none := by
    decide +kernel
  obtain ⟨hqueued, hwork, hnotices, hstored, hcached, hsynced, hseen, hjobs, hcerts⟩ := hstate
  have hreads : ReadsOwned startingReads startingCluster fun k => startingState.seen startingName (startingName, k) := by
    refine ⟨fun s hs d hd => ?_, fun store action job hget => ?_, fun name o ho => ?_⟩
    · obtain ⟨svc, hsvc, rfl⟩ := List.mem_map.mp hs
      obtain rfl := Except.ok.inj hd
      exact hseen svc hsvc
    · obtain rfl := Except.ok.inj hget
      exact hjobs store (by cases store <;> simp) action (by cases action <;> simp)
    · have hnone := hcerts name (by cases name <;> simp)
      cases hnone.symm.trans ho
  have hsettled : Watcher.Settled startingState startingName := ⟨hqueued, hwork, by simp [hnotices]⟩
  refine resting_cluster_blocked startingState_run hsettled hstored hcached (fun k hk => ⟨hsynced k hk, ?_⟩) hreads
    starting_stores rfl (by decide +kernel)
  rintro ⟨old, new, hmem, -⟩
  rw [hnotices] at hmem
  cases hmem

end TemporalOperator
