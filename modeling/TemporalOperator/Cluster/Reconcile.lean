import TemporalOperator.Cluster.Persistence
import TemporalOperator.Cluster.Services

/-!
# A cluster pass

`TemporalClusterReconciler.Reconcile`. `reconcile env c` is the pass over the object `c` it has read: its log, and the
status it stored if it came to its end.

* `AtUpgrade env c st` : the pass comes to `reconcileUpgrade` with the status `st`; what it knows there
  (`AtUpgrade.fresh`, `AtUpgrade.stale`);
* `upgrade_event`, `deployment_event`, `migrate_event` : where an event of the log comes from;
* `reconcile_stages` : the stages of a pass that came to its end; `reconcile_ok` : what it has stored (`PassEnd`).
-/

namespace TemporalOperator
open Lib Persistence

/-- The `Status().Update` at the end, with the status if it is stored; a conflict is no error. -/
def storeStatus (env : PassEnv) (st : ClusterStatus) (result : Result) : Pass (Option ClusterStatus × Result) :=
  match env.statusErr with
  | some e => if e.cause = .conflict then pure (none, { requeue := true }) else .fail e
  | none => pure (some st, result)

/-- `Reconcile`. An object that is gone is no error. -/
def reconcileResult (env : PassEnv) (c : Cluster) : Pass (Option ClusterStatus × Result) :=
  match env.getErr with
  | some e => if e.cause = .notFound then pure (none, {}) else .fail e
  | none => do
    let (st, result) ← reconcilePersistenceResult env c c.status
    let st ← reconcileMTLS env c st
    let (st, versions) ← reconcileUpgrade env c.spec st
    let st ← reconcileServices env c st versions
    reconcileUI env c
    reconcileMonitoring env c
    let st ← computeReadyAndPhase c st
    storeStatus env { st with observedGeneration := c.generation } result

def nothingStored : GoErr := goErr "no status is stored"

def storedStatus (out : Option ClusterStatus × Result) : Except GoErr ClusterStatus :=
  match out.1 with
  | some st => .ok st
  | none => .error nothingStored

/-- The pass, as the status it has stored. -/
def reconcile (env : PassEnv) (c : Cluster) : Pass ClusterStatus :=
  reconcileResult env c >>= fun out => Act.lift (storedStatus out)

/-! ## Without results -/

def getCluster (env : PassEnv) : Except GoErr Unit :=
  match env.getErr with
  | some e => .error (if e.cause = .notFound then nothingStored else e)
  | none => .ok ()

def updateStatus (env : PassEnv) (st : ClusterStatus) : Except GoErr ClusterStatus :=
  match env.statusErr with
  | some e => .error (if e.cause = .conflict then nothingStored else e)
  | none => .ok st

theorem updateStatus_eq_ok {env : PassEnv} {st st' : ClusterStatus} (h : updateStatus env st = .ok st') : st = st' := by
  unfold updateStatus at h
  split at h
  · cases h
  · exact Except.ok.inj h

theorem storeStatus_stored (env : PassEnv) (st : ClusterStatus) (result : Result) :
    (storeStatus env st result >>= fun out => Act.lift (storedStatus out)) = Act.lift (updateStatus env st) := by
  unfold storeStatus updateStatus
  cases env.statusErr with
  | none => rfl
  | some e => by_cases he : e.cause = .conflict <;> simp only [he, if_true, if_false] <;> rfl

/-- Without its result the pass is a sequence of stages. -/
theorem reconcile_eq (env : PassEnv) (c : Cluster) :
    reconcile env c = (do
      Act.lift (getCluster env)
      let st ← reconcilePersistence env c c.status
      let st ← reconcileMTLS env c st
      let (st, versions) ← reconcileUpgrade env c.spec st
      let st ← reconcileServices env c st versions
      reconcileUI env c
      reconcileMonitoring env c
      let st ← computeReadyAndPhase c st
      Act.lift (updateStatus env { st with observedGeneration := c.generation })) := by
  unfold reconcile reconcileResult reconcilePersistence getCluster
  cases env.getErr with
  | some e => by_cases he : e.cause = .notFound <;> simp only [he, if_true, if_false] <;> rfl
  | none =>
    change _ = pure () >>= _
    simp only [bind_assoc, bind_map_left, pure_bind, storeStatus_stored]

/-! ## The status at the upgrade -/

/-- The pass reaches `reconcileUpgrade`, with the status `st`. -/
structure AtUpgrade (env : PassEnv) (c : Cluster) (st : ClusterStatus) : Prop where
  got : getCluster env = .ok ()
  reached : ∃ st₁, (reconcilePersistence env c c.status).res = .ok st₁ ∧ (reconcileMTLS env c st₁).res = .ok st

namespace AtUpgrade

variable {env : PassEnv} {c : Cluster} {st st' : ClusterStatus}

theorem unique (h : AtUpgrade env c st) (h' : AtUpgrade env c st') : st = st' := by
  obtain ⟨st₁, hp, hm⟩ := h.reached
  obtain ⟨st₂, hp', hm'⟩ := h'.reached
  obtain rfl := Except.ok.inj (hp.symm.trans hp')
  exact Except.ok.inj (hm.symm.trans hm')

theorem progress (h : AtUpgrade env c st) : st.progress = c.status.progress := by
  obtain ⟨st₁, hp, hm⟩ := h.reached
  exact (reconcileMTLS_res hm).1.trans (reconcilePersistence_step hp).progress

theorem version (h : AtUpgrade env c st) : st.version = c.status.version := congrArg Prod.fst h.progress

theorem upgrade (h : AtUpgrade env c st) : st.upgrade = c.status.upgrade := congrArg Prod.snd h.progress

theorem upgradeDue_iff (h : AtUpgrade env c st) : UpgradeDue c.spec st ↔ UpgradeDue c.spec c.status := by
  rw [UpgradeDue, UpgradeDue, h.version]

theorem recordFor_eq (h : AtUpgrade env c st) (target : String) :
    recordFor env st target = recordFor env c.status target := by
  rw [recordFor, recordFor, h.version, h.upgrade]

theorem targets_iff (h : AtUpgrade env c st) (target : String) : Targets st target ↔ Targets c.status target := by
  rw [Targets, Targets, h.upgrade]

theorem persistence_log (h : AtUpgrade env c st) {e : Event} (he : e ∈ (reconcilePersistence env c c.status).log) :
    e ∈ (reconcile env c).log := by
  rw [reconcile_eq, Act.mem_log_bind]
  refine .inr ⟨(), h.got, ?_⟩
  rw [Act.mem_log_bind]
  exact .inl he

theorem upgrade_log (h : AtUpgrade env c st) {e : Event} (he : e ∈ (reconcileUpgrade env c.spec st).log) :
    e ∈ (reconcile env c).log := by
  obtain ⟨st₁, hp, hm⟩ := h.reached
  simp only [reconcile_eq, Act.mem_log_bind]
  exact .inr ⟨(), h.got, .inr ⟨st₁, hp, .inr ⟨st, hm, .inl he⟩⟩⟩

theorem services_log (h : AtUpgrade env c st) {e : Event}
    (he : e ∈ (reconcileServices env c (upgradeOutcome env c.spec st)
      (serviceVersions c.spec (upgradeOutcome env c.spec st))).log) : e ∈ (reconcile env c).log := by
  obtain ⟨st₁, hp, hm⟩ := h.reached
  simp only [reconcile_eq, Act.mem_log_bind]
  exact .inr ⟨(), h.got, .inr ⟨st₁, hp, .inr ⟨st, hm, .inr ⟨_, reconcileUpgrade_res .., .inl he⟩⟩⟩⟩

theorem fresh (h : AtUpgrade env c st) (hr : st.holds .persistenceReachable = true)
    (hs : st.holds .schemaReady = true) : SchemaFound c.spec.version (reconcile env c).log := by
  obtain ⟨st₁, hp, hm⟩ := h.reached
  have hkeep := (reconcileMTLS_res hm).2
  rw [hkeep _ (by decide)] at hr hs
  exact ((reconcilePersistence_step hp).fresh hr hs).mono fun e he => h.persistence_log he

theorem stale (h : AtUpgrade env c st) (hr : st.holds .persistenceReachable = false) :
    st.holds .schemaReady = c.status.holds .schemaReady ∧
      ∀ e ∈ (reconcilePersistence env c c.status).log, e.stage = .inspect := by
  obtain ⟨st₁, hp, hm⟩ := h.reached
  have hkeep := (reconcileMTLS_res hm).2
  rw [hkeep _ (by decide)] at hr ⊢
  exact (reconcilePersistence_step hp).stale hr

end AtUpgrade

/-! ## Where an event comes from -/

theorem mem_log_reconcile {env : PassEnv} {c : Cluster} {e : Event} (h : e ∈ (reconcile env c).log) :
    (e ∈ (reconcilePersistence env c c.status).log ∧ (e.stage = .inspect ∨ e.stage = .migrate)) ∨
    (∃ st, AtUpgrade env c st ∧ e ∈ (reconcileUpgrade env c.spec st).log) ∨
    (∃ st, AtUpgrade env c st ∧
      e ∈ (reconcileServices env c (upgradeOutcome env c.spec st)
        (serviceVersions c.spec (upgradeOutcome env c.spec st))).log) ∨
    e.stage = .objects ∨ e.stage = .note := by
  simp only [reconcile_eq, Act.mem_log_bind, Act.log_lift, List.not_mem_nil, false_or] at h
  obtain ⟨_, hget, h⟩ := h
  rcases h with h | ⟨st₁, hp, h⟩
  · exact .inl ⟨h, emits_reconcilePersistence env c c.status e h⟩
  rcases h with h | ⟨st, hm, h⟩
  · exact .inr (.inr (.inr (.inl (emits_reconcileMTLS env c st₁ e h))))
  have hat : AtUpgrade env c st := ⟨hget, st₁, hp, hm⟩
  rcases h with h | ⟨⟨st₂, versions⟩, hu, h⟩
  · exact .inr (.inl ⟨st, hat, h⟩)
  rw [reconcileUpgrade_res] at hu
  obtain ⟨rfl, rfl⟩ := Prod.mk.inj (Except.ok.inj hu)
  rcases h with h | ⟨st₃, -, h⟩
  · exact .inr (.inr (.inl ⟨st, hat, h⟩))
  rcases h with h | ⟨_, -, h⟩
  · exact .inr (.inr (.inr (.inl (emits_reconcileUI env c e h))))
  rcases h with h | ⟨_, -, h⟩
  · exact .inr (.inr (.inr (.inl (emits_reconcileMonitoring env c e h))))
  rcases h with h | ⟨_, -, h⟩
  · exact .inr (.inr (.inr (.inr (emits_computeReadyAndPhase c st₃ e h))))
  · cases h

theorem upgrade_event {env : PassEnv} {c : Cluster} {e : Event} (he : e.stage = .upgrade)
    (h : e ∈ (reconcile env c).log) : ∃ st, AtUpgrade env c st ∧ e ∈ (reconcileUpgrade env c.spec st).log := by
  rcases mem_log_reconcile h with ⟨-, h | h⟩ | h | ⟨st, -, h⟩ | h | h
  · rw [he] at h; cases h
  · rw [he] at h; cases h
  · exact h
  · rcases emits_reconcileServices env c _ _ e h with h | h <;> rw [he] at h <;> cases h
  · rw [he] at h; cases h
  · rw [he] at h; cases h

theorem deployment_source {env : PassEnv} {c : Cluster} {s : Service} {v : String} {d : Deployment}
    (h : Event.applied (.deployment s v d) ∈ (reconcile env c).log) :
    ∃ st, AtUpgrade env c st ∧ Event.applied (.deployment s v d) ∈ (reconcileServices env c
      (upgradeOutcome env c.spec st) (serviceVersions c.spec (upgradeOutcome env c.spec st))).log := by
  rcases mem_log_reconcile h with ⟨-, h | h⟩ | ⟨st, -, h⟩ | h | h | h
  · cases h
  · cases h
  · rcases emits_reconcileUpgrade env c.spec st _ h with h | h <;> cases h
  · exact h
  · cases h
  · cases h

theorem applied_built {env : PassEnv} {c : Cluster} {s : Service} {v : String} {d : Deployment}
    (h : Event.applied (.deployment s v d) ∈ (reconcile env c).log) :
    (∃ rendered, renderConfig env c = .ok rendered) ∧ ∃ svc ∈ enabledServices c.spec, svc.name = s ∧
      ∃ d₀, buildDeployment env c svc v = .ok d₀ ∧ d.template = wiredTemplate c d₀.template := by
  obtain ⟨st, -, hlog⟩ := deployment_source h
  obtain ⟨svc, hsvc, hname, d₀, hbuilt, rfl⟩ := deployment_built_reconcileServices hlog
  exact ⟨(applied_mem_reconcileServices hlog).2.1, svc, hsvc, hname, d₀, hbuilt, rfl⟩

theorem deployment_event {env : PassEnv} {c : Cluster} {s : Service} {v : String} {d : Deployment}
    (h : Event.applied (.deployment s v d) ∈ (reconcile env c).log) :
    ∃ st, AtUpgrade env c st ∧ st.holds .schemaReady = true ∧ Enabled c.spec s ∧
      v = serviceVersion c.spec (upgradeOutcome env c.spec st) s := by
  obtain ⟨st, hat, h⟩ := deployment_source h
  obtain ⟨hr, hen, hv⟩ := deployment_mem_reconcileServices h
  rw [holds_upgradeOutcome] at hr
  rw [lookup_serviceVersions, if_pos hen] at hv
  exact ⟨st, hat, hr, hen, hv⟩

theorem migrate_event {env : PassEnv} {c : Cluster} {e : Event} (he : e.stage = .migrate)
    (h : e ∈ (reconcile env c).log) : e ∈ (reconcilePersistence env c c.status).log := by
  rcases mem_log_reconcile h with ⟨h, -⟩ | ⟨st, -, h⟩ | ⟨st, -, h⟩ | h | h
  · exact h
  · rcases emits_reconcileUpgrade env c.spec st e h with h | h <;> rw [he] at h <;> cases h
  · rcases emits_reconcileServices env c _ _ e h with h | h <;> rw [he] at h <;> cases h
  · rw [he] at h; cases h
  · rw [he] at h; cases h

/-! ## What a completed pass has stored -/

/-- The stages of a pass that came to its end: it reached the upgrade with `st`, left the services with `served`, and
stored `st'`. -/
structure Stages (env : PassEnv) (c : Cluster) (st served st' : ClusterStatus) : Prop where
  reached : AtUpgrade env c st
  services : (reconcileServices env c (upgradeOutcome env c.spec st)
    (serviceVersions c.spec (upgradeOutcome env c.spec st))).res = .ok served
  ui : (reconcileUI env c).res = .ok ()
  computed : ∃ st₄, (computeReadyAndPhase c served).res = .ok st₄ ∧ { st₄ with observedGeneration := c.generation } = st'

theorem reconcile_stages {env : PassEnv} {c : Cluster} {st' : ClusterStatus} (h : (reconcile env c).res = .ok st') :
    ∃ st served, Stages env c st served st' := by
  simp only [reconcile_eq, Act.res_bind_eq_ok] at h
  obtain ⟨_, hget, st₁, hp, st, hm, ⟨out, versions⟩, hu, served, hs, _, hui, _, -, st₄, hready, hupd⟩ := h
  rw [reconcileUpgrade_res] at hu
  obtain ⟨rfl, rfl⟩ := Prod.mk.inj (Except.ok.inj hu)
  exact ⟨st, served, ⟨hget, st₁, hp, hm⟩, hs, hui, st₄, hready, updateStatus_eq_ok hupd⟩

section
variable {env : PassEnv} {c : Cluster} {st served st' : ClusterStatus}

theorem Stages.services_eq (h : Stages env c st served st') : st'.services = served.services := by
  obtain ⟨st₄, hcr, rfl⟩ := h.computed
  rw [computeReadyAndPhase, Act.res_bind_eq_ok] at hcr
  obtain ⟨_, -, hcr⟩ := hcr
  obtain rfl := Except.ok.inj hcr
  rfl

theorem Stages.schemaReady_eq (h : Stages env c st served st') :
    st'.holds .schemaReady = (upgradeOutcome env c.spec st).holds .schemaReady := by
  obtain ⟨st₄, hcr, rfl⟩ := h.computed
  exact ((computeReadyAndPhase_res hcr).2.2 _ (by decide)).trans ((reconcileServices_step h.services).holds _ (by decide))

end

theorem Stages.ui_log {env : PassEnv} {c : Cluster} {st served st' : ClusterStatus} (h : Stages env c st served st')
    {e : Event} (he : e ∈ (reconcileUI env c).log) : e ∈ (reconcile env c).log := by
  obtain ⟨st₁, hp, hm⟩ := h.reached.reached
  simp only [reconcile_eq, Act.mem_log_bind]
  exact .inr ⟨(), h.reached.got, .inr ⟨st₁, hp, .inr ⟨st, hm, .inr ⟨_, reconcileUpgrade_res .., .inr ⟨served, h.services,
    .inl he⟩⟩⟩⟩⟩

/-- The status stored by a pass that had `out` after the upgrade: the same, or with the version stamped. -/
structure PassEnd (c : Cluster) (log : List Event) (out st' : ClusterStatus) : Prop where
  upgrade : st'.upgrade = out.upgrade
  reachable : st'.holds .persistenceReachable = out.holds .persistenceReachable
  schemaReady : st'.holds .schemaReady = out.holds .schemaReady
  version : st'.version = out.version ∨
    st'.version = c.spec.version ∧ out.upgrade = none ∧ ∀ s, Enabled c.spec s →
      (∃ n : Int, 1 ≤ n ∧ Event.readinessSeen s n ∈ log) ∧
        ∃ d, Event.applied (.deployment s c.spec.version d) ∈ log

theorem reconcile_ok {env : PassEnv} {c : Cluster} {st' : ClusterStatus} (h : (reconcile env c).res = .ok st') :
    ∃ st, AtUpgrade env c st ∧ PassEnd c (reconcile env c).log (upgradeOutcome env c.spec st) st' := by
  obtain ⟨st, st₃, hat, hs, -, st₄, hready, rfl⟩ := reconcile_stages h
  have hstep := reconcileServices_step hs
  obtain ⟨hup, hver, hholds⟩ := computeReadyAndPhase_res hready
  have hupg : st₃.upgrade = (upgradeOutcome env c.spec st).upgrade := congrArg Prod.snd hstep.progress
  refine ⟨st, hat, ⟨hup.trans hupg, ?_, ?_, ?_⟩⟩
  · exact (hholds _ (by decide)).trans (hstep.holds _ (by decide))
  · exact (hholds _ (by decide)).trans (hstep.holds _ (by decide))
  · rw [hver]
    -- the version is stamped only on a ready cluster without a record
    by_cases hstamp : (clusterReady c st₃ && st₃.upgrade.isNone) = true
    · right
      rw [if_pos hstamp]
      rw [Bool.and_eq_true, Option.isNone_iff_eq_none] at hstamp
      simp only [clusterReady, Bool.and_eq_true] at hstamp
      obtain ⟨⟨⟨⟨-, hsr⟩, hav⟩, -⟩, hnone⟩ := hstamp
      rw [hupg] at hnone
      rw [hstep.holds _ (by decide)] at hsr
      refine ⟨rfl, hnone, fun s hen => ?_⟩
      obtain ⟨⟨n, hn, hseen⟩, d, happ⟩ := hstep.available hsr hav s hen
      rw [lookup_serviceVersions, if_pos hen, Option.getD_some, serviceVersion, hnone] at happ
      exact ⟨⟨n, hn, hat.services_log hseen⟩, d, hat.services_log happ⟩
    · left
      rw [if_neg hstamp]
      exact congrArg Prod.fst hstep.progress

end TemporalOperator
