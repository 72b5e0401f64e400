import TemporalOperator.Cluster.Persistence

/-!
# When a pass touches a schema

* `datastoreAnswers` : both stores can be built and answer their probes; `reconcilePersistence_reachable` : this is what
  `PersistenceReachable` says afterwards;
* `migration_source` : an event that touches a schema comes from a store whose version was read and is below the
  minimum (`MigrationSource`);
* `migrates` : the pass would put an index template or create a schema Job (`migrates_of_changed`).
-/

namespace TemporalOperator
open Lib Persistence

/-! ## Probes -/

/-- Both stores can be built and answer their probes. -/
def datastoreAnswers (env : PassEnv) (c : Cluster) : Bool :=
  match buildSchemaTargets env c with
  | .ok ts => ts.all fun t => t.backend.probe.res.toBool
  | .error _ => false

theorem probeTargets_res (c : Cluster) (st : ClusterStatus) (ts : List SchemaTarget) :
    ∃ out, (probeTargets c st ts).res = .ok out ∧ (out = none ↔ ∀ t ∈ ts, t.backend.probe.res.toBool = true) := by
  induction ts with
  | nil => exact ⟨none, rfl, by simp⟩
  | cons t ts ih =>
    rw [probeTargets, Act.bind_of_ok (Act.res_attempt _)]
    cases hp : t.backend.probe.res with
    | ok u =>
      obtain ⟨out, hout, hiff⟩ := ih
      refine ⟨out, by simp [hout], ?_⟩
      simp only [List.mem_cons, forall_eq_or_imp, hp, hiff]
      simp [Except.toBool]
    | error e =>
      by_cases hc : e.cause = .inspecting <;>
        exact ⟨_, by simp only [hc, if_true, if_false]; rfl, by simp [hp, Except.toBool]⟩

/-- `PersistenceReachable` afterwards says whether the datastore answers. -/
theorem reconcilePersistence_reachable {env : PassEnv} {c : Cluster} {st st' : ClusterStatus}
    (h : (reconcilePersistence env c st).res = .ok st') :
    st'.holds .persistenceReachable = datastoreAnswers env c := by
  rw [reconcilePersistence_eq, Act.res_bind_eq_ok] at h
  obtain ⟨_, -, h⟩ := h
  unfold datastoreAnswers
  cases ht : buildSchemaTargets env c with
  | error e =>
    simp only [ht] at h
    obtain rfl := Except.ok.inj h
    simp
  | ok ts =>
    simp only [ht, Act.res_bind_eq_ok] at h
    obtain ⟨out, hp, h⟩ := h
    obtain ⟨out', hp', hiff⟩ := probeTargets_res c st ts
    obtain rfl := Except.ok.inj (hp.symm.trans hp')
    cases out with
    | some st₁ =>
      obtain rfl := Except.ok.inj h
      have hnot : ¬ ∀ t ∈ ts, t.backend.probe.res.toBool = true := fun hall => by cases hiff.mpr hall
      rw [(probeTargets_some hp).2.1]
      simpa using hnot
    | none =>
      have hall := hiff.mp rfl
      simp only at h
      split at h
      · cases h
      · rw [(reconcileStores_step h).reachable]
        simpa using hall

/-! ## Where a schema is touched -/

/-- The store of an event, whose version `current` was read and is below the minimum. -/
structure MigrationSource (env : PassEnv) (c : Cluster) (e : Event) (info : VersionInfo) (t : SchemaTarget)
    (current : String) : Prop where
  target : ∃ ts, buildSchemaTargets env c = .ok ts ∧ t ∈ ts
  answers : datastoreAnswers env c = true
  lookup : lookupVersion supportedVersions c.spec.version = .ok info
  read : (t.backend.schemaVersion 0).res = .ok current
  below : schemaSatisfies current (minSchemaFor info t.backend.kind t.store) = false
  event : e ∈ t.backend.ensureSchema.log ∨
    t.backend.ensureSchema.res = .ok false ∧ e ∈ (reconcileJobSchema env c t.store current).log

theorem migrate_mem_store {env : PassEnv} {c : Cluster} {t : SchemaTarget} {minSchema : String} {st : ClusterStatus}
    {e : Event} (he : e.stage = .migrate) (h : e ∈ (reconcileStoreSchema env c t minSchema st).log) :
    ∃ current, (t.backend.schemaVersion 0).res = .ok current ∧ schemaSatisfies current minSchema = false ∧
      (e ∈ t.backend.ensureSchema.log ∨
        t.backend.ensureSchema.res = .ok false ∧ e ∈ (reconcileJobSchema env c t.store current).log) := by
  have hinspect : e.stage ≠ .inspect := by
    rw [he]
    decide
  rw [reconcileStoreSchema, Act.mem_log_bind] at h
  rcases h with h | ⟨res, hres, h⟩
  · exact absurd (t.backend.schemaVersion_inspects 0 e h) hinspect
  obtain rfl := Except.ok.inj hres
  cases hv : (t.backend.schemaVersion 0).res with
  | error err =>
    rw [hv] at h
    cases h
  | ok current =>
    simp only [hv, Act.mem_log_bind] at h
    rcases h with h | ⟨_, -, h⟩
    · obtain rfl := List.mem_singleton.mp h
      cases he
    cases hsat : schemaSatisfies current minSchema with
    | true =>
      rw [hsat] at h
      cases h
    | false =>
      refine ⟨current, rfl, hsat, ?_⟩
      simp only [hsat, Bool.false_eq_true, if_false, Act.mem_log_bind] at h
      rcases h with h | ⟨inline, hinline, h⟩
      · exact .inl h
      obtain rfl := Except.ok.inj hinline
      cases hi : t.backend.ensureSchema.res with
      | error err =>
        rw [hi] at h
        cases h
      | ok inline =>
        cases inline with
        | true =>
          rw [hi] at h
          exact absurd (emits_recheckInline t minSchema _ e h) hinspect
        | false =>
          simp only [hi, Act.mem_log_bind] at h
          rcases h with h | ⟨_, -, h⟩
          · exact .inr ⟨rfl, h⟩
          · cases h

theorem mem_log_reconcileStores {env : PassEnv} {c : Cluster} {info : VersionInfo} {st : ClusterStatus}
    {migrating : Bool} {ts : List SchemaTarget} {e : Event}
    (h : e ∈ (reconcileStores env c info st migrating ts).log) :
    ∃ t ∈ ts, ∃ st, e ∈ (reconcileStoreSchema env c t (minSchemaFor info t.backend.kind t.store) st).log := by
  induction ts generalizing st migrating with
  | nil => cases migrating <;> cases h
  | cons t ts ih =>
    have hrest : ∀ {st migrating}, e ∈ (reconcileStores env c info st migrating ts).log →
        ∃ t' ∈ t :: ts, ∃ st,
          e ∈ (reconcileStoreSchema env c t' (minSchemaFor info t'.backend.kind t'.store) st).log := by
      intro st migrating hmem
      obtain ⟨t', ht', hst⟩ := ih hmem
      exact ⟨t', List.mem_cons_of_mem _ ht', hst⟩
    rw [reconcileStores_cons, Act.mem_log_bind] at h
    rcases h with h | ⟨⟨st₁, res⟩, -, h⟩
    · exact ⟨t, List.mem_cons_self, st, h⟩
    cases res with
    | error err =>
      simp only at h
      split at h
      · exact hrest h
      · cases h
    | ok r =>
      simp only at h
      split at h
      · cases h
      · exact hrest h

theorem migration_source {env : PassEnv} {c : Cluster} {st : ClusterStatus} {e : Event} (he : e.stage = .migrate)
    (h : e ∈ (reconcilePersistence env c st).log) : ∃ info t current, MigrationSource env c e info t current := by
  rw [reconcilePersistence_eq, Act.mem_log_bind] at h
  rcases h with h | ⟨_, -, h⟩
  · have hstage : e.stage = .inspect := emits_ensureAzureServiceAccount env c e h
    rw [he] at hstage
    cases hstage
  cases ht : buildSchemaTargets env c with
  | error err =>
    rw [ht] at h
    cases h
  | ok ts =>
    simp only [ht, Act.mem_log_bind] at h
    rcases h with h | ⟨out, hp, h⟩
    · have hstage : e.stage = .inspect := emits_probeTargets c st ts e h
      rw [he] at hstage
      cases hstage
    cases out with
    | some st₁ => cases h
    | none =>
      obtain ⟨out', hp', hiff⟩ := probeTargets_res c st ts
      obtain rfl := Except.ok.inj (hp.symm.trans hp')
      simp only at h
      cases hi : lookupVersion supportedVersions c.spec.version with
      | error err =>
        rw [hi] at h
        cases h
      | ok info =>
        simp only [hi] at h
        obtain ⟨t, hmem, st₁, h⟩ := mem_log_reconcileStores h
        obtain ⟨current, hread, hbelow, hevent⟩ := migrate_mem_store he h
        refine ⟨info, t, current, ⟨⟨ts, ht, hmem⟩, ?_, hi, hread, hbelow, hevent⟩⟩
        rw [datastoreAnswers, ht]
        simpa using hiff.mp rfl

/-! ## Changed schemas -/

/-- A schema Job was created, or a schema applied inline. -/
def Event.changesSchema : Event → Bool
  | .jobCreated .. | .schemaInline .. => true
  | _ => false

theorem Event.stage_of_changesSchema {e : Event} (h : e.changesSchema = true) : e.stage = .migrate := by
  cases e <;> first | rfl | cases h

def jobAbsent (env : PassEnv) (store : SchemaStore) (action : SchemaAction) : Bool :=
  match (env.schemaJob store action).get with
  | .ok _ => false
  | .error e => e.cause = .notFound

def setupSucceeded (env : PassEnv) (c : Cluster) (store : SchemaStore) : Bool :=
  match (env.schemaJob store .setup).get with
  | .ok job => !job.deleting && jobRunsImage job (adminToolsImage c.spec.version) && classifyJob job = .succeeded
  | .error _ => false

/-- With `current` below the minimum: the store is Elasticsearch, or the Job that is wanted next is not there. -/
def wouldChange (env : PassEnv) (c : Cluster) (t : SchemaTarget) (current : String) : Bool :=
  t.backend.kind = .elasticsearch || current = "" && jobAbsent env t.store .setup ||
    (current ≠ "" || setupSucceeded env c t.store) && jobAbsent env t.store .update

def migratesStore (env : PassEnv) (c : Cluster) (info : VersionInfo) (t : SchemaTarget) : Bool :=
  match (t.backend.schemaVersion 0).res with
  | .ok current =>
    !schemaSatisfies current (minSchemaFor info t.backend.kind t.store) && wouldChange env c t current
  | .error _ => false

/-- The datastore answers, and a store would be changed. -/
def migrates (env : PassEnv) (c : Cluster) : Bool :=
  match buildSchemaTargets env c, lookupVersion supportedVersions c.spec.version with
  | .ok ts, .ok info => datastoreAnswers env c && ts.any (migratesStore env c info)
  | _, _ => false

theorem jobAbsent_of_changed {env : PassEnv} {c : Cluster} {store : SchemaStore} {action : SchemaAction} {e : Event}
    (he : e.changesSchema = true) (h : e ∈ (ensureSchemaJob env c store action).log) :
    jobAbsent env store action = true := by
  obtain rfl | ⟨err, _, hg, hc, -⟩ | rfl := mem_log_ensureSchemaJob h
  · cases he
  · simp [jobAbsent, hg, hc]
  · cases he

theorem setupSucceeded_of_phase {env : PassEnv} {c : Cluster} {store : SchemaStore}
    (h : (ensureSchemaJob env c store .setup).res = .ok .succeeded) : setupSucceeded env c store = true := by
  obtain ⟨job, hget, hdeleting, himage, hphase⟩ := ensureSchemaJob_classified h (by decide)
  simp [setupSucceeded, hget, hdeleting, himage, hphase]

theorem changed_mem_reconcileUpdateJob {env : PassEnv} {c : Cluster} {store : SchemaStore} {e : Event}
    (he : e.changesSchema = true) (h : e ∈ (reconcileUpdateJob env c store).log) :
    jobAbsent env store .update = true := by
  rcases mem_log_reconcileUpdateJob h with h | hstage
  · exact jobAbsent_of_changed he h
  · rw [Event.stage_of_changesSchema he] at hstage
    cases hstage

theorem changed_mem_reconcileJobSchema {env : PassEnv} {c : Cluster} {store : SchemaStore} {current : String}
    {e : Event} (he : e.changesSchema = true) (h : e ∈ (reconcileJobSchema env c store current).log) :
    current = "" ∧ jobAbsent env store .setup = true ∨
      (current ≠ "" ∨ setupSucceeded env c store = true) ∧ jobAbsent env store .update = true := by
  unfold reconcileJobSchema at h
  split at h
  · rename_i hcur
    rw [Act.mem_log_bind] at h
    rcases h with h | ⟨phase, hphase, h⟩
    · exact .inl ⟨hcur, jobAbsent_of_changed he h⟩
    cases phase
    case succeeded =>
      exact .inr ⟨.inr (setupSucceeded_of_phase hphase), changed_mem_reconcileUpdateJob he h⟩
    all_goals cases h
  · rename_i hcur
    exact .inr ⟨.inl hcur, changed_mem_reconcileUpdateJob he h⟩

theorem migrates_of_changed {env : PassEnv} {c : Cluster} {st : ClusterStatus} {e : Event}
    (he : e.changesSchema = true) (h : e ∈ (reconcilePersistence env c st).log) : migrates env c = true := by
  obtain ⟨info, t, current, hs⟩ := migration_source (Event.stage_of_changesSchema he) h
  obtain ⟨ts, hts, ht⟩ := hs.target
  have hwould : wouldChange env c t current = true := by
    by_cases hk : t.backend.kind = .elasticsearch
    · simp [wouldChange, hk]
    · rcases hs.event with hlog | ⟨-, hlog⟩
      · rw [t.backend.ensureSchema_job hk] at hlog
        cases hlog
      · have hjobs := changed_mem_reconcileJobSchema he hlog
        simp only [wouldChange, Bool.or_eq_true, Bool.and_eq_true, decide_eq_true_eq]
        rcases hjobs with ⟨h1, h2⟩ | ⟨h1, h2⟩
        · exact .inl (.inr ⟨h1, h2⟩)
        · exact .inr ⟨h1, h2⟩
  have hstore : migratesStore env c info t = true := by
    simp only [migratesStore, hs.read, hs.below, hwould]
    rfl
  simp only [migrates, hts, hs.lookup, hs.answers, Bool.true_and]
  exact List.any_eq_true.mpr ⟨t, ht, hstore⟩

end TemporalOperator
