import TemporalOperator.Cluster.Migration
import TemporalOperator.Cluster.Runs

/-!
# When a store is set up

The setup Job stamps version 0.0. It is asked for when the version of a store reads as the empty text, and each backend
has its own way to come to that.

* `SetupFounded` : what the backend of a store was answered when it read the empty version;
* `setup_founded` : every setup Job is asked for on those grounds;
* `setup_on_populated_store` : for Cassandra a failed query is such a ground, also when the store is populated.
-/

namespace TemporalOperator
open Lib

namespace Persistence

/-- No version is recorded, or the query failed with an error that says the table is not there. -/
def SqlQuery.Unrecorded (q : SqlQuery) : Prop :=
  q.openErr = none ∧ (q.fault = none ∧ q.store.version? = none ∨ ∃ e ∈ q.fault, isUndefinedTable e = true)

/-- No version is recorded, or the session or the query failed. -/
def CassandraQuery.Unrecorded (q : CassandraQuery) : Prop :=
  q.sessionErr ≠ none ∨ q.fault ≠ none ∨ q.store.version? = none

theorem currentSchemaVersion_eq_empty {q : SqlQuery} (h : currentSchemaVersion q = .ok "") : q.Unrecorded := by
  unfold currentSchemaVersion at h
  cases ho : q.openErr with
  | some e =>
    rw [ho] at h
    cases h
  | none =>
    refine ⟨ho, ?_⟩
    simp only [ho, SqlQuery.scan] at h
    cases hf : q.fault with
    | some e =>
      refine .inr ⟨e, rfl, ?_⟩
      simp only [hf] at h
      by_contra hu
      rw [if_neg hu] at h
      cases h
    | none =>
      refine .inl ⟨rfl, ?_⟩
      cases hs : q.store with
      | recorded v =>
        rw [hf, hs] at h
        exact absurd (Except.ok.inj h) v.2
      | noTable => rfl
      | emptyTable => rfl

theorem cassandraSchemaVersion_eq_empty {q : CassandraQuery} (h : cassandraSchemaVersion q = .ok "") :
    q.Unrecorded := by
  unfold cassandraSchemaVersion at h
  cases ho : q.sessionErr with
  | some e => exact .inl (by rw [ho]; simp)
  | none =>
    simp only [ho, CassandraQuery.scan] at h
    cases hf : q.fault with
    | some e => exact .inr (.inl (by rw [hf]; simp))
    | none =>
      refine .inr (.inr ?_)
      cases hs : q.store with
      | recorded v =>
        rw [hf, hs] at h
        exact absurd (Except.ok.inj h) v.2
      | noTable => rfl
      | emptyTable => rfl

theorem newBackend_eq_ok {azure : Bool} {ns : String} {store : SchemaStore} {spec : DatastoreSpec} {io : StoreIO}
    {b : Backend} (h : newBackend azure ns store spec io = .ok b) :
    (∃ sql, spec.sql = some sql ∧ azure = true ∧ b = jobInspectorBackend io store) ∨
    (∃ sql, spec.sql = some sql ∧ azure = false ∧ b = sqlBackend io) ∨
    (∃ cas, spec.sql = none ∧ spec.cassandra = some cas ∧ b = cassandraBackend io) ∨
    (∃ es, b = esBackend es io store) := by
  unfold newBackend at h
  split at h
  · cases h
  cases hs : spec.sql with
  | some sql =>
    cases azure with
    | true =>
      simp only [hs, Option.isSome_some, Bool.and_self, if_true, Except.ok.injEq] at h
      exact .inl ⟨sql, rfl, rfl, h.symm⟩
    | false =>
      simp only [hs, defaultBackendFactory, Except.mapError, Bool.false_and, Bool.false_eq_true, if_false,
        Except.ok.injEq] at h
      exact .inr (.inl ⟨sql, rfl, rfl, h.symm⟩)
  | none =>
    simp only [hs, Option.isSome_none, Bool.and_false, Bool.false_eq_true, if_false, defaultBackendFactory] at h
    cases hcas : spec.cassandra with
    | some cas =>
      simp only [hcas, Except.mapError, Except.ok.injEq] at h
      exact .inr (.inr (.inl ⟨cas, rfl, rfl, h.symm⟩))
    | none =>
      cases hes : spec.elasticsearch with
      | some es =>
        simp only [hcas, hes, Except.mapError, Except.ok.injEq] at h
        exact .inr (.inr (.inr ⟨es, h.symm⟩))
      | none =>
        simp only [hcas, hes, Except.mapError] at h
        cases h

theorem esBackend_ensureSchema_res (es : ElasticsearchDatastoreSpec) (io : StoreIO) (store : SchemaStore) :
    (esBackend es io store).ensureSchema.res ≠ .ok false := by
  intro h
  have hput : esEnsureSchema io.esPut = .ok false := h
  unfold esEnsureSchema at hput
  split at hput
  · cases hput
  · cases hput
  · split at hput <;> cases hput

theorem schemaJob_notMem_ensureSchema {azure : Bool} {ns : String} {store store' : SchemaStore} {spec : DatastoreSpec}
    {io : StoreIO} {b : Backend} (h : newBackend azure ns store spec io = .ok b) (action : SchemaAction) :
    Event.schemaJob store' action ∉ b.ensureSchema.log := by
  intro hlog
  rcases newBackend_eq_ok h with ⟨_, -, -, rfl⟩ | ⟨_, -, -, rfl⟩ | ⟨_, -, -, rfl⟩ | ⟨es, rfl⟩
  · cases hlog
  · cases hlog
  · cases hlog
  · cases List.mem_singleton.mp hlog

/-- The answer taken is that of a run of `InspectSQL` that reached the database and, unless its version query failed,
found no version recorded. -/
def InspectorIO.Unrecorded (io : InspectorIO) : Prop :=
  ∃ pods run, io.pods = .ok pods ∧ ("inspect", PodAnswer.ran run) ∈ pods.flatten ∧
    firstAnswer pods = some (.ok (inspectSQL run)) ∧ run.probe.run = .ok () ∧ ∀ v,
      currentSchemaVersion run.query = .ok v → run.query.Unrecorded

/-- The result of an inspection is that of a run of `InspectSQL`, if it says that the database was reached. -/
theorem firstAnswer_reachable {pods : List (List (String × PodAnswer))} {result : InspectResult}
    (h : firstAnswer pods = some (.ok result)) (hr : result.reachable = true) :
    ∃ run, ("inspect", PodAnswer.ran run) ∈ pods.flatten ∧ inspectSQL run = result := by
  obtain ⟨⟨name, answer⟩, hmem, hmsg⟩ := List.exists_of_findSome?_eq_some h
  by_cases hn : name = "inspect"
  · subst hn
    simp only [if_true] at hmsg
    cases answer with
    | none => cases hmsg
    | ran run => exact ⟨run, hmem, Except.ok.inj (Option.some.inj hmsg)⟩
    | passwordFile e =>
      obtain rfl := Except.ok.inj (Option.some.inj hmsg)
      cases hr
    | notJSON e => cases hmsg
  · simp only [if_neg hn] at hmsg
    cases hmsg

/-- Both calls of a pass see the result of the one inspection. -/
theorem inspectorSchemaVersion_res {io : InspectorIO} {store : SchemaStore} {v : String}
    (h : (inspectorSchemaVersion io store).res = .ok v) :
    ∃ result, (inspectOnce io store none).res = .ok result ∧ result.version = v := by
  rw [inspectorSchemaVersion, Act.res_bind_eq_ok] at h
  obtain ⟨result, hres, hv⟩ := h
  refine ⟨result, ?_, Except.ok.inj hv⟩
  cases hc : (inspectOnce io store none).res with
  | error e =>
    simp only [hc, Except.toOption] at hres
    cases hres
  | ok r =>
    simp only [hc, Except.toOption] at hres
    exact congrArg _ (Except.ok.inj hres)

theorem inspector_unrecorded {io : InspectorIO} {store : SchemaStore} (hp : (inspectorProbe io store).res.toBool = true)
    (hv : (inspectorSchemaVersion io store).res = .ok "") : io.Unrecorded := by
  obtain ⟨result, hres, hver⟩ := inspectorSchemaVersion_res hv
  have hreach : result.reachable = true := by
    by_contra hr
    rw [inspectorProbe, Act.bind_of_ok hres] at hp
    simp [hr, Except.toBool] at hp
  obtain ⟨pods, hpods, hfirst⟩ := inspectOnce_none_res hres
  obtain ⟨run, hmem, hrun⟩ := firstAnswer_reachable hfirst hreach
  refine ⟨pods, run, hpods, hmem, hrun ▸ hfirst, ?_, fun v hq => ?_⟩
  · unfold inspectSQL at hrun
    cases hprobe : run.probe.run with
    | ok u => rfl
    | error e =>
      rw [hprobe] at hrun
      rw [← hrun] at hreach
      cases hreach
  · unfold inspectSQL at hrun
    cases hprobe : run.probe.run with
    | error e =>
      rw [hprobe] at hrun
      rw [← hrun] at hreach
      cases hreach
    | ok u =>
      rw [hprobe, hq] at hrun
      rw [← hrun] at hver
      exact currentSchemaVersion_eq_empty (hq.trans (congrArg Except.ok hver))

end Persistence

open Persistence

/-- The grounds on which the version of a store reads as empty, by its backend. -/
def SetupFounded (env : PassEnv) (c : Cluster) (store : SchemaStore) : Prop :=
  match (storeSpec c.spec store).sql, (storeSpec c.spec store).cassandra with
  | some _, _ =>
    if azureWorkloadIdentityEnabled c.spec then (env.store store).inspector.Unrecorded
    else ((env.store store).sqlQuery 0).Unrecorded
  | none, some _ => ((env.store store).cassandraQuery 0).Unrecorded
  | none, none => False

/-- A backend that answers its probe and reads the empty version has the grounds of its kind. -/
theorem setupFounded_of_backend {env : PassEnv} {c : Cluster} {store : SchemaStore} {b : Backend}
    (hb : newBackend (azureWorkloadIdentityEnabled c.spec) c.namespace_ store (storeSpec c.spec store)
      (env.store store) = .ok b)
    (hjob : b.ensureSchema.res = .ok false) (hp : b.probe.res.toBool = true)
    (hv : (b.schemaVersion 0).res = .ok "") : SetupFounded env c store := by
  unfold SetupFounded
  rcases newBackend_eq_ok hb with ⟨sql, hs, ha, rfl⟩ | ⟨sql, hs, ha, rfl⟩ | ⟨cas, hs, hcas, rfl⟩ | ⟨es, rfl⟩
  · rw [hs, ha]
    exact inspector_unrecorded hp hv
  · rw [hs, ha]
    exact currentSchemaVersion_eq_empty hv
  · rw [hs, hcas]
    exact cassandraSchemaVersion_eq_empty hv
  · exact absurd hjob (esBackend_ensureSchema_res es _ _)

theorem setup_mem_ensureSchemaJob {env : PassEnv} {c : Cluster} {store store' : SchemaStore} {action : SchemaAction}
    (h : Event.schemaJob store' .setup ∈ (ensureSchemaJob env c store action).log) :
    store' = store ∧ action = .setup := by
  obtain h | ⟨_, _, -, -, -, h⟩ | h := mem_log_ensureSchemaJob h
  · cases h
    exact ⟨rfl, rfl⟩
  · cases h
  · cases h

theorem setup_mem_reconcileUpdateJob {env : PassEnv} {c : Cluster} {store store' : SchemaStore} :
    Event.schemaJob store' .setup ∉ (reconcileUpdateJob env c store).log := by
  intro h
  rcases mem_log_reconcileUpdateJob h with h | hstage
  · cases (setup_mem_ensureSchemaJob h).2
  · cases hstage

/-- Setup is asked for when the version reads as empty. -/
theorem setup_mem_reconcileJobSchema {env : PassEnv} {c : Cluster} {store store' : SchemaStore} {current : String}
    (h : Event.schemaJob store' .setup ∈ (reconcileJobSchema env c store current).log) :
    store' = store ∧ current = "" := by
  unfold reconcileJobSchema at h
  split at h
  · rename_i hcur
    rw [Act.mem_log_bind] at h
    rcases h with h | ⟨phase, -, h⟩
    · exact ⟨(setup_mem_ensureSchemaJob h).1, hcur⟩
    cases phase
    case succeeded => exact absurd h setup_mem_reconcileUpdateJob
    all_goals cases h
  · exact absurd h setup_mem_reconcileUpdateJob

/-- **Grounds for a setup.** Whenever a pass asks for the setup Job of a store, that store reads as empty by the rule
of its backend. -/
theorem setup_founded (r : PassReport) {store : SchemaStore} (h : Event.schemaJob store .setup ∈ r.log) :
    SetupFounded r.env r.read store := by
  obtain ⟨env, c⟩ := r
  obtain ⟨info, t, current, hs⟩ := migration_source rfl (migrate_event rfl h)
  obtain ⟨ts, hts, ht⟩ := hs.target
  have hbackend := (buildSchemaTargets_eq_ok hts).2 t ht
  obtain ⟨hres, hjob⟩ : t.backend.ensureSchema.res = .ok false ∧
      Event.schemaJob store .setup ∈ (reconcileJobSchema env c t.store current).log :=
    hs.event.resolve_left fun hlog => schemaJob_notMem_ensureSchema hbackend _ hlog
  obtain ⟨rfl, rfl⟩ := setup_mem_reconcileJobSchema hjob
  have hprobe : t.backend.probe.res.toBool = true := by
    have hall := hs.answers
    rw [datastoreAnswers, hts] at hall
    exact List.all_eq_true.mp hall t ht
  exact setupFounded_of_backend hbackend hres hprobe hs.read

def freshEnv : PassEnv := {}

theorem setup_founded_fresh :
    let r : PassReport := ⟨freshEnv, sampleCluster "1.30.4"⟩
    Event.schemaJob .default .setup ∈ r.log ∧ SetupFounded r.env r.read .default := by
  intro r
  have hsetup : Event.schemaJob .default .setup ∈ r.log := by decide +kernel
  exact ⟨hsetup, setup_founded r hsetup⟩

def cassandraCluster : Cluster :=
  let spec := sampleSpec "1.30.4"
  ClusterWebhook.default
    { name := "temporal"
      spec := { spec with persistence := { spec.persistence with defaultStore := { cassandra := some {} } } } }

/-- The Cassandra store answers its probe and records a schema, but the version query times out. -/
def queryTimesOut : PassEnv :=
  { steadyEnv newestSchema "1.30.4" with
    store := fun _ =>
      { sqlQuery := fun _ => { store := .recorded newestSchema }
        cassandraQuery := fun _ => { store := .recorded newestSchema, fault := some "gocql: no response received" } } }

/-- A populated Cassandra store is set up again when its version query fails. -/
theorem setup_on_populated_store :
    ∃ c h r, Created cassandraCluster ∧ ClusterRun anyInput cassandraCluster c (.passed r :: h) ∧
      Event.schemaJob .default .setup ∈ r.log ∧
      ((r.env.store .default).cassandraQuery 0).store.version? = some newestSchema.1 := by
  have hrun : ClusterRun anyInput cassandraCluster _ [.passed ⟨queryTimesOut, cassandraCluster⟩] :=
    ClusterRun.pass .start queryTimesOut trivial
  exact ⟨_, _, _, by decide +kernel, hrun, by decide +kernel, rfl⟩

end TemporalOperator
