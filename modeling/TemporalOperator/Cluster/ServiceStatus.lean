import TemporalOperator.Cluster.SwitchOff

/-!
# The versions in `status.services`

`reconcileServices` applies each Deployment at the version that the upgrade record assigns to its service, and
`rollupServiceStatus` then writes `spec.version` for every service.

* `status_of_wrote` : what a pass that came to its end says of a service;
* `FullyAssigned` : the record assigns `spec.version` to all of them, in terms of the state before the pass;
* `status_versions_applied_iff` : the two agree exactly then.
-/

namespace TemporalOperator
open Lib

/-! ## What the status says -/

theorem lookup_setServiceStatus (st : ClusterStatus) (s s' : Service) (ss : ServiceStatus) :
    (setServiceStatus st s ss).services.lookup s' = if s' = s then some ss else st.services.lookup s' := by
  change List.lookup s' ((s, ss) :: st.services.filter (·.1 ≠ s)) = _
  rw [List.lookup_cons]
  by_cases hs : s' = s
  · simp [hs]
  · rw [beq_eq_false_iff_ne.mpr hs, if_neg hs]
    induction st.services with
    | nil => rfl
    | cons e es ih =>
      obtain ⟨key, value⟩ := e
      by_cases hk : key = s
      · simp [hk, List.lookup_cons, beq_eq_false_iff_ne.mpr hs, ← ih]
      · simp only [List.filter_cons, ne_eq, hk, not_false_eq_true, decide_true, if_true, List.lookup_cons, ← ih]

theorem rollupLoop_lookup (env : PassEnv) (c : Cluster) (svcs : List ServiceInfo) (st : ClusterStatus)
    (allReady : Bool) :
    (rollupLoop env c st allReady svcs).Returns fun out => ∀ s, s ∈ svcs.map ServiceInfo.name →
      ∃ ss, out.1.services.lookup s = some ss ∧ ss.version = c.spec.version := by
  -- the services that are no longer left have their entry
  have hloop := rollupLoop_rule env c (I := fun rest st' => ∀ s, s ∈ svcs.map ServiceInfo.name →
    s ∉ rest.map ServiceInfo.name → ∃ ss, st'.services.lookup s = some ss ∧ ss.version = c.spec.version) ?_ svcs st
    allReady (fun _ hs hn => absurd hs hn)
  · exact fun out hout s hs => hloop out hout s hs (by simp)
  · intro svc rest st' ss hversion h s hs hn
    rw [lookup_setServiceStatus]
    by_cases hsvc : s = svc.name
    · rw [if_pos hsvc]
      exact ⟨ss, rfl, hversion⟩
    · rw [if_neg hsvc]
      refine h s hs ?_
      rw [List.map_cons, List.mem_cons]
      exact fun hmem => hmem.elim hsvc hn

theorem reconcileServices_lookup {env : PassEnv} {c : Cluster} {st : ClusterStatus}
    {versions : List (Service × String)} (hready : st.holds .schemaReady = true) :
    (reconcileServices env c st versions).Returns fun st' => ∀ s, Enabled c.spec s →
      ∃ ss, st'.services.lookup s = some ss ∧ ss.version = c.spec.version := by
  unfold reconcileServices
  rw [hready, Bool.not_true, if_neg Bool.false_ne_true]
  refine Act.returns_bind (Act.returns_any _) fun _ _ => Act.returns_bind (Act.returns_any _) fun _ _ =>
    Act.returns_bind (Act.returns_any _) fun _ _ => ?_
  refine Act.returns_bind (rollupLoop_lookup env c _ st true) fun out hout => ?_
  exact Act.returns_pure hout

/-- A pass that came to its end with the schema ready: every enabled service was applied at its assigned version, and
its status says `spec.version`. -/
theorem status_of_wrote {env : PassEnv} {c : Cluster} {st' : ClusterStatus}
    (hw : (⟨env, c⟩ : PassReport).wrote = some st') (hready : st'.holds .schemaReady = true) :
    ∃ st, AtUpgrade env c st ∧ ∀ s, Enabled c.spec s →
      (∃ d, Event.applied (.deployment s (serviceVersion c.spec (upgradeOutcome env c.spec st) s) d) ∈
        (⟨env, c⟩ : PassReport).log) ∧
      ∃ ss, st'.services.lookup s = some ss ∧ ss.version = c.spec.version := by
  obtain ⟨st, st₃, hstages⟩ := reconcile_stages (res_of_wrote hw)
  have ⟨hat, hs, _, _⟩ := hstages
  rw [hstages.schemaReady_eq] at hready
  refine ⟨st, hat, fun s hen => ⟨?_, ?_⟩⟩
  · obtain ⟨v, d, hlog, -⟩ := reconcileServices_deploys hready hs hen
    have hv := (deployment_mem_reconcileServices hlog).2.2
    rw [lookup_serviceVersions, if_pos hen, Option.getD_some] at hv
    subst hv
    exact ⟨d, hat.services_log hlog⟩
  · rw [hstages.services_eq]
    exact reconcileServices_lookup hready st₃ hs s hen

/-! ## When it is true -/

/-- The pass assigns `spec.version` to every service: no upgrade is due, or its record has come to the worker, or it
comes to the worker in this pass because the service it waits for is seen rolled out. -/
def FullyAssigned (env : PassEnv) (c : Cluster) : Prop :=
  ¬ UpgradeDue c.spec c.status ∨
    phaseFor c.status c.spec.version ∈ [UpgradePhase.rollingWorker, .postUpgrade, .complete] ∨
    ∃ s, rollingPhaseService (phaseFor c.status c.spec.version) = some s ∧
      nextRollingPhase c.spec (phaseFor c.status c.spec.version) = .rollingWorker ∧
      serviceRolledOut env c.spec s c.spec.version = true

theorem rank_of_workerReached (p : UpgradePhase) :
    p ∈ [UpgradePhase.rollingWorker, .postUpgrade, .complete] ↔ 7 ≤ p.rank := by
  cases p <;> simp [UpgradePhase.rank]

theorem nextRollingPhase_eq_worker (spec : ClusterSpec) {p : UpgradePhase} {s : Service}
    (hs : rollingPhaseService p = some s) (hp : p.rank < 7) (hr : 7 ≤ (nextRollingPhase spec p).rank) :
    nextRollingPhase spec p = .rollingWorker := by
  cases p <;> simp only [rollingPhaseService, reduceCtorEq] at hs
  case rollingInternalFrontend => rfl
  case rollingMatching =>
    simp only [nextRollingPhase, afterMatchingPhase] at hr ⊢
    cases hon : internalFrontendEnabled spec with
    | true =>
      rw [hon] at hr
      exact absurd hr (by decide)
    | false => rfl
  case rollingWorker => exact absurd hp (by decide)
  all_goals simp [nextRollingPhase, UpgradePhase.rank] at hr

/-- A move reaches the worker's phase from there on, or from the phase before it. -/
theorem PhaseStep.reaches_worker_iff {env : PassEnv} {spec : ClusterSpec} {st : ClusterStatus} {target : String}
    {p p' : UpgradePhase} (h : PhaseStep env spec st target p p') :
    7 ≤ p'.rank ↔ 7 ≤ p.rank ∨ ∃ s, rollingPhaseService p = some s ∧ nextRollingPhase spec p = .rollingWorker ∧
      serviceRolledOut env spec s target = true := by
  cases h with
  | rolling hs hno =>
    refine ⟨.inl, fun h => h.resolve_right ?_⟩
    rintro ⟨s', hs', -, hyes⟩
    rw [hs] at hs'
    rw [← Option.some.inj hs', hno] at hyes
    cases hyes
  | @rolled p s hs hyes =>
    constructor
    · intro hr
      by_cases hp : 7 ≤ p.rank
      · exact .inl hp
      · refine .inr ⟨s, hs, ?_, hyes⟩
        exact nextRollingPhase_eq_worker spec hs (Nat.lt_of_not_le hp) hr
    · rintro (hp | ⟨-, -, hnext, -⟩)
      · exact le_trans hp (rank_lt_nextRollingPhase spec hs).le
      · rw [hnext]
        decide
  | _ => simp [UpgradePhase.rank, rollingPhaseService]

/-- Along a run, all enabled services are assigned `spec.version` exactly under that condition. -/
theorem fullyAssigned_iff {env : PassEnv} {c : Cluster} {st : ClusterStatus} (hc : Coherent c)
    (hat : AtUpgrade env c st) :
    (∀ s, Enabled c.spec s → serviceVersion c.spec (upgradeOutcome env c.spec st) s = c.spec.version) ↔
      FullyAssigned env c := by
  unfold FullyAssigned
  by_cases hdue : UpgradeDue c.spec c.status
  · rw [rank_of_workerReached]
    rcases hat.outcome hdue with ⟨up, hmove, hu, -⟩ | ⟨hphase, hu, -⟩
    · rw [← hmove.phase.reaches_worker_iff]
      constructor
      · intro hall
        have hworker : Enabled c.spec .worker := (enabled_iff _ _).mpr (.inl (by decide))
        exact .inr (hc.rank_of_assigned hmove hu (hall .worker hworker))
      · intro hr s _
        have hrank : upgradeIndex s + 3 ≤ up.phase.rank := by
          have hindex := upgradeIndex_le s
          have hseven := hr.resolve_left (not_not.mpr hdue)
          omega
        rw [serviceVersion_of_some hu, hc.moved_versionAt hmove, if_pos hrank]
    · rw [hphase]
      exact ⟨fun _ => .inr (.inl (by decide)), fun _ s _ => serviceVersion_of_none hu c.spec s⟩
  · refine ⟨fun _ => .inl hdue, fun _ s _ => ?_⟩
    have hnone : (upgradeOutcome env c.spec st).upgrade = none := by
      rw [upgradeOutcome_of_not_due env fun h => hdue (hat.upgradeDue_iff.mp h)]
    exact serviceVersion_of_none hnone c.spec s

/-- **`status.services` and the applied versions**: after a pass of a run that came to its end with the schema ready,
each enabled service's status names the version its Deployment was applied at, exactly when the pass assigned
`spec.version` to all of them. -/
theorem status_versions_applied_iff {ok : Cluster → List Entry → Input → Prop} {c₀ c : Cluster} {h : List Entry}
    (hc : Created c₀) (run : ClusterRun ok c₀ c h) {env : PassEnv} {st' : ClusterStatus}
    (hw : (⟨env, c⟩ : PassReport).wrote = some st') (hready : st'.holds .schemaReady = true) :
    (∀ s, Enabled c.spec s → ∃ d ss, Event.applied (.deployment s ss.version d) ∈ (⟨env, c⟩ : PassReport).log ∧
      st'.services.lookup s = some ss) ↔ FullyAssigned env c := by
  obtain ⟨st, hat, hstatus⟩ := status_of_wrote hw hready
  rw [← fullyAssigned_iff (run.coherent hc.coherent) hat]
  refine forall₂_congr fun s hen => ?_
  obtain ⟨⟨d, happlied⟩, ss, hlookup, hversion⟩ := hstatus s hen
  constructor
  · rintro ⟨d', ss', happlied', hlookup'⟩
    obtain rfl := Option.some.inj (hlookup.symm.trans hlookup')
    obtain ⟨st₂, hat₂, -, -, hv⟩ := deployment_event happlied'
    rw [hat.unique hat₂, ← hv, hversion]
  · intro hv
    exact ⟨d, ss, by rw [hversion, ← hv]; exact happlied, hlookup⟩

/-- An upgrade to 1.31.0 that has come to `RollingMatching`. -/
def rollToMatching : List Input :=
  [.pass (steadyEnv newestSchema "1.30.4"), moveTo "1.31.0"] ++
    List.replicate 5 (.pass (steadyEnv newestSchema "1.31.0"))

/-- The pass that sees the matching service rolled out applies all services at 1.31.0, as their statuses say. -/
theorem status_versions_applied_rolled :
    let c := (clusterSystem.exec (sampleCluster "1.30.4") [] rollToMatching).1
    let r : PassReport := ⟨steadyEnv newestSchema "1.31.0", c⟩
    ∃ st, r.wrote = some st ∧ phaseFor c.status "1.31.0" = .rollingMatching ∧
      ∀ s, Enabled c.spec s → ∃ d ss, Event.applied (.deployment s ss.version d) ∈ r.log ∧
        st.services.lookup s = some ss := by
  intro c r
  have hrun : clusterSystem.Fits Completes (sampleCluster "1.30.4") [] rollToMatching ∧
      (r.wrote.any fun st => st.holds .schemaReady) = true ∧ phaseFor c.status "1.31.0" = .rollingMatching ∧
      rollingPhaseService (phaseFor c.status c.spec.version) = some .matching ∧
      nextRollingPhase c.spec (phaseFor c.status c.spec.version) = .rollingWorker ∧
      serviceRolledOut r.env c.spec .matching c.spec.version = true := by
    decide +kernel
  obtain ⟨hfits, hany, hphase, hservice, hnext, hrolled⟩ := hrun
  obtain ⟨st, hw, hready⟩ := (Option.any_eq_true _ _).mp hany
  have hassigned : FullyAssigned r.env c := .inr (.inr ⟨.matching, hservice, hnext, hrolled⟩)
  exact ⟨st, hw, hphase,
    (status_versions_applied_iff (by decide +kernel) (.exec .start hfits) hw hready).mpr hassigned⟩

/-- The first pass after the edit to 1.31.0 comes to its end with the schema ready: the worker is applied at 1.30.4, and
its status says 1.31.0. -/
theorem status_ahead_of_applied :
    let c := (clusterSystem.exec (sampleCluster "1.30.4") [] (rollToMatching.take 2)).1
    let r : PassReport := ⟨steadyEnv newestSchema "1.31.0", c⟩
    ∃ h, Created (sampleCluster "1.30.4") ∧ ClusterRun Completes (sampleCluster "1.30.4") c h ∧
      (r.wrote.any fun st => st.holds .schemaReady) = true ∧
      (r.wrote.bind fun st => st.services.lookup .worker).map ServiceStatus.version = some "1.31.0" ∧
      ∃ d, Event.applied (.deployment .worker "1.30.4" d) ∈ r.log := by
  intro c r
  have hrun : clusterSystem.Fits Completes (sampleCluster "1.30.4") [] (rollToMatching.take 2) ∧
      (r.wrote.any fun st => st.holds .schemaReady) = true ∧
      (r.wrote.bind fun st => st.services.lookup .worker).map ServiceStatus.version = some "1.31.0" ∧
      r.log.any (Event.appliesAt .worker "1.30.4") = true := by
    decide +kernel
  obtain ⟨hfits, hready, hversion, happlied⟩ := hrun
  exact ⟨_, by decide +kernel, .exec .start hfits, hready, hversion, appliesAt_mem happlied⟩

end TemporalOperator
