import TemporalOperator.Cluster.Runs

/-!
# Switching components off

The internal frontend and the UI are optional, and an admitted update may switch them off at any time. The upgrade
record and the objects of a cluster remember what an earlier spec asked for.

* `rolling_phase_has_service` : a rolling phase waits for a service that is deployed, as long as the internal frontend
  is not switched off while the upgrade rolls it (`KeepsAwaited`); `stranded_phase` : otherwise the phase waits on;
* `Deployed` : the Deployments a history has left; `components_match_iff` : they, and the keys of `status.services`,
  are those of the enabled components exactly when nothing that was deployed has been switched off.
-/

namespace TemporalOperator
open Lib

/-! ## The service a phase waits for -/

/-- An admitted update does not switch the internal frontend off while the record for its version rolls it. -/
def KeepsAwaited (c : Cluster) (_ : List Entry) : Input → Prop
  | .update spec annotations =>
    ClusterWebhook.validateUpdate c (submit c spec annotations) = [] →
      phaseFor c.status spec.version = .rollingInternalFrontend → internalFrontendEnabled spec = true
  | .pass _ => True

instance (c : Cluster) (h : List Entry) : (e : Input) → Decidable (KeepsAwaited c h e)
  | .update _ _ => inferInstanceAs (Decidable (_ → _))
  | .pass _ => inferInstanceAs (Decidable True)

@[simp] theorem submit_internalFrontend (c : Cluster) (spec : ClusterSpec) (annotations : List (String × String)) :
    internalFrontendEnabled (submit c spec annotations).spec = internalFrontendEnabled spec := rfl

theorem PhaseStep.to_rollingInternalFrontend {env : PassEnv} {spec : ClusterSpec} {st : ClusterStatus}
    {target : String} {p p' : UpgradePhase} (h : PhaseStep env spec st target p p')
    (hp' : p' = .rollingInternalFrontend) :
    p = .rollingInternalFrontend ∨ internalFrontendEnabled spec = true := by
  cases h with
  | rolling hs _ => exact .inl hp'
  | rolled hs _ =>
    right
    cases p <;> simp only [rollingPhaseService, reduceCtorEq] at hs <;>
      simp only [nextRollingPhase, reduceCtorEq] at hp'
    unfold afterMatchingPhase at hp'
    by_contra hoff
    rw [if_neg hoff] at hp'
    cases hp'
  | _ => cases hp'

/-- The record for the spec's version waits for a deployed service. -/
def Awaited (c : Cluster) : Prop :=
  phaseFor c.status c.spec.version = .rollingInternalFrontend → internalFrontendEnabled c.spec = true

theorem Awaited.enabled {c : Cluster} (ha : Awaited c) {s : Service}
    (hs : rollingPhaseService (phaseFor c.status c.spec.version) = some s) : Enabled c.spec s := by
  rw [enabled_iff]
  by_cases hif : s = .internalFrontend
  · right
    apply ha
    subst hif
    cases hp : phaseFor c.status c.spec.version <;> simp_all [rollingPhaseService]
  · exact .inl hif

theorem Awaited.stored {env : PassEnv} {c : Cluster} {st st' : ClusterStatus} (ha : Awaited c)
    (hs : Stored env c st st') : Awaited { c with status := st' } := by
  intro hp
  cases hs with
  | steady due upgrade version =>
    rw [phaseFor_of_not_targets (not_targets_of_none upgrade _)] at hp
    cases hp
  | moved up move upgrade version =>
    rw [move.phaseFor_stored upgrade] at hp
    rcases move.phase.to_rollingInternalFrontend hp with hstay | hon
    · exact ha hstay
    · exact hon
  | completed due phase upgrade version =>
    rw [phaseFor_of_not_targets (not_targets_of_none upgrade _)] at hp
    cases hp

theorem ClusterRun.awaited {c₀ c : Cluster} {h : List Entry} (hc : Created c₀)
    (run : ClusterRun KeepsAwaited c₀ c h) : Awaited c := by
  refine ClusterRun.invariant (I := fun c _ => Awaited c) ?_ ?_ ?_ ?_ ?_ run
  · intro hp
    rw [hc.status] at hp
    cases hp
  · exact fun c h spec annotations _ _ hok hv hp => hok hv hp
  · exact fun c h _ ih => ih
  · exact fun c h env _ ih _ _ => ih
  · intro c h env st' _ ih _ hw
    obtain ⟨st, -, -, hs⟩ := stored_of_wrote hw
    exact ih.stored hs

/-- **A rolling phase has a service to roll**: in every run in which the internal frontend is not switched off under
the record that rolls it, each completed pass leaves a phase whose service is enabled in the spec it has read. -/
theorem rolling_phase_has_service {c₀ c : Cluster} {h : List Entry} (hc : Created c₀)
    (run : ClusterRun KeepsAwaited c₀ c h) {r : PassReport} (hr : Entry.passed r ∈ h) {st : ClusterStatus}
    (hw : r.wrote = some st) {up : UpgradeStatus} (hu : st.upgrade = some up) {s : Service}
    (hs : rollingPhaseService up.phase = some s) : Enabled r.read.spec s := by
  have hread : Awaited r.read := by
    refine ClusterRun.invariant (I := fun _ h => ∀ r, Entry.passed r ∈ h → Awaited r.read)
      ?_ ?_ ?_ ?_ ?_ run r hr
    · exact fun r hr => absurd hr List.not_mem_nil
    · exact fun c h spec annotations _ ih _ _ r hr => ih r (by simpa using hr)
    · exact fun c h _ ih r hr => ih r (by simpa using hr)
    · intro c h env run ih _ _ r hr
      rcases List.mem_cons.mp hr with he | hr
      · rw [Entry.passed.inj he]
        exact run.awaited hc
      · exact ih r hr
    · intro c h env st run ih _ _ r hr
      rcases List.mem_cons.mp hr with he | hr
      · rw [Entry.passed.inj he]
        exact run.awaited hc
      · exact ih r hr
  obtain ⟨st₁, -, -, hstored⟩ := stored_of_wrote hw
  have hphase : phaseFor st r.read.spec.version = up.phase := by
    rw [← hstored.toVersion hu, phaseFor_of_targets hu]
  refine (hread.stored hstored).enabled ?_
  change rollingPhaseService (phaseFor st r.read.spec.version) = some s
  rwa [hphase]

/-- The sample cluster at `version`, with the internal frontend on or off. -/
def withInternalFrontend (version : String) (enabled : Bool) : Cluster :=
  ClusterWebhook.default
    { name := "temporal"
      spec := { sampleSpec version with services := { internalFrontend := some { enabled := enabled } } } }

def switchInternalFrontend (version : String) (enabled : Bool) : Input :=
  .update (withInternalFrontend version enabled).spec (withInternalFrontend version enabled).annotations

/-- An upgrade to 1.31.0 with the internal frontend on, up to the phase that rolls it. -/
def rollToInternalFrontend : List Input :=
  [.pass (steadyEnv newestSchema "1.30.4"), switchInternalFrontend "1.31.0" true] ++
    List.replicate 6 (.pass (steadyEnv newestSchema "1.31.0"))

theorem rolling_phase_has_service_internalFrontend :
    let c₀ := withInternalFrontend "1.30.4" true
    let before := clusterSystem.exec c₀ [] (rollToInternalFrontend.take 7)
    let r : PassReport := ⟨steadyEnv newestSchema "1.31.0", before.1⟩
    ∃ st up, r.wrote = some st ∧ st.upgrade = some up ∧ up.phase = .rollingInternalFrontend ∧
      Enabled r.read.spec .internalFrontend := by
  intro c₀ before r
  have hcreated : Created c₀ := by decide +kernel
  -- one evaluation: the kernel goes through the run once for both
  obtain ⟨hfits, hphase⟩ : clusterSystem.Fits KeepsAwaited c₀ [] (rollToInternalFrontend.take 7) ∧
      (r.wrote.bind ClusterStatus.upgrade).map UpgradeStatus.phase = some .rollingInternalFrontend := by
    decide +kernel
  have hrun := ClusterRun.pass (.exec .start hfits) r.env trivial
  obtain ⟨up, hup, hp⟩ := Option.map_eq_some_iff.mp hphase
  obtain ⟨st, hw, hu⟩ := Option.bind_eq_some_iff.mp hup
  have hs : rollingPhaseService up.phase = some .internalFrontend := by rw [hp]; rfl
  exact ⟨st, up, hw, hu, hp, rolling_phase_has_service hcreated hrun List.mem_cons_self hw hu hs⟩

/-- The internal frontend is switched off while the upgrade rolls it, and its Deployment is gone: the phase waits for a
service that no pass deploys. -/
theorem stranded_phase :
    ∃ c h r st up, Created (withInternalFrontend "1.30.4" true) ∧
      ClusterRun Completes (withInternalFrontend "1.30.4" true) c (.passed r :: h) ∧ r.wrote = some st ∧
      st.upgrade = some up ∧ rollingPhaseService up.phase = some .internalFrontend ∧
      ¬ Enabled r.read.spec .internalFrontend := by
  let c₀ := withInternalFrontend "1.30.4" true
  let inputs := rollToInternalFrontend ++ [switchInternalFrontend "1.31.0" false]
  let gone : PassEnv := { steadyEnv newestSchema "1.31.0" with rollout := fun _ => .error ⟨.notFound, "not found"⟩ }
  let before := clusterSystem.exec c₀ [] inputs
  let r : PassReport := ⟨gone, before.1⟩
  obtain ⟨hfits, hcompletes, hphase, hoff⟩ : clusterSystem.Fits Completes c₀ [] inputs ∧
      Completes before.1 before.2 (.pass gone) ∧
      (r.wrote.bind ClusterStatus.upgrade).map UpgradeStatus.phase = some .rollingInternalFrontend ∧
      ¬ Enabled r.read.spec .internalFrontend := by
    decide +kernel
  have hrun := ClusterRun.pass (.exec .start hfits) gone hcompletes
  obtain ⟨up, hup, hp⟩ := Option.map_eq_some_iff.mp hphase
  obtain ⟨st, hw, hu⟩ := Option.bind_eq_some_iff.mp hup
  exact ⟨_, _, r, st, up, by decide +kernel, hrun, hw, hu, by rw [hp]; rfl, hoff⟩

/-! ## The Deployments of a cluster -/

/-- What a cluster has a Deployment for. -/
inductive Component
  | service (s : Service)
  | ui
  deriving DecidableEq, Repr

def uiEnabled (spec : ClusterSpec) : Bool :=
  match spec.ui with
  | some ui => ui.enabled
  | none => false

def Component.Enabled (spec : ClusterSpec) : Component → Prop
  | .service s => TemporalOperator.Enabled spec s
  | .ui => uiEnabled spec = true

instance (spec : ClusterSpec) : (k : Component) → Decidable (k.Enabled spec)
  | .service s => inferInstanceAs (Decidable (TemporalOperator.Enabled spec s))
  | .ui => inferInstanceAs (Decidable (uiEnabled spec = true))

def Planned.component : Planned → Option Component
  | .deployment s _ _ => some (.service s)
  | .uiDeployment => some .ui
  | _ => none

/-- The pass has applied the Deployment of the component, owned by the cluster. -/
def PassReport.Deploys (r : PassReport) (k : Component) : Prop :=
  ∃ obj, Event.applied obj ∈ r.log ∧ obj.component = some k ∧ r.env.applyErr obj = none

/-- The Deployments there are after a history: the controller applies them and deletes none. -/
def Deployed (h : List Entry) (k : Component) : Prop := ∃ r, Entry.passed r ∈ h ∧ r.Deploys k

/-! ## Where the UI's Deployment comes from -/

theorem uiDeployment_mem_planUI (spec : ClusterSpec) : Planned.uiDeployment ∈ planUI spec ↔ uiEnabled spec = true := by
  unfold planUI uiEnabled
  cases hui : spec.ui with
  | none => simp
  | some ui => cases he : ui.enabled <;> simp [he]

theorem uiDeployment_notMem_reconcileServices (env : PassEnv) (c : Cluster) (st : ClusterStatus)
    (versions : List (Service × String)) :
    Event.applied .uiDeployment ∉ (reconcileServices env c st versions).log := by
  intro h
  obtain ⟨-, -, planned, hplan, obj, hobj, hwired⟩ := applied_mem_reconcileServices h
  have hui : obj = .uiDeployment := by cases obj <;> simp_all [wireAzure]
  rcases ((planServices_eq_ok hplan).2 obj).mp hobj with rfl | rfl | ⟨svc, -, hobj⟩
  · cases hui
  · cases hui
  · rw [hui] at hobj
    cases hobj

theorem uiDeployment_event {env : PassEnv} {c : Cluster}
    (h : Event.applied .uiDeployment ∈ (reconcile env c).log) : uiEnabled c.spec = true := by
  simp only [reconcile_eq, Act.mem_log_bind, Act.log_lift, List.not_mem_nil, false_or] at h
  obtain ⟨_, -, h⟩ := h
  rcases h with h | ⟨st₁, -, h⟩
  · rcases emits_reconcilePersistence env c c.status _ h with h | h <;> cases h
  rcases h with h | ⟨st, -, h⟩
  · unfold reconcileMTLS at h
    split at h
    · cases h
    · rw [Act.mem_log_bind] at h
      rcases h with h | ⟨_, -, h⟩
      · rcases mem_planMTLS.mp (applied_mem_each h) with ⟨-, hobj | hobj⟩ <;> cases hobj
      · simp only at h
        split at h
        · cases h
        · split at h <;> cases h
  rcases h with h | ⟨⟨st₂, versions⟩, -, h⟩
  · rcases emits_reconcileUpgrade env c.spec st _ h with h | h <;> cases h
  rcases h with h | ⟨st₃, -, h⟩
  · exact absurd h (uiDeployment_notMem_reconcileServices env c st₂ versions)
  rcases h with h | ⟨_, -, h⟩
  · exact (uiDeployment_mem_planUI c.spec).mp (applied_mem_each h)
  rcases h with h | ⟨_, -, h⟩
  · unfold reconcileMonitoring at h
    split at h
    · have hmem := applied_mem_each h
      unfold planMonitoring at hmem
      split at hmem <;> simp at hmem
    · cases h
  rcases h with h | ⟨_, -, h⟩
  · cases emits_computeReadyAndPhase c st₃ _ h
  · cases h

/-! ## The keys of `status.services` -/

theorem recheckInline_services (t : SchemaTarget) (minSchema : String) (st : ClusterStatus) :
    (recheckInline t minSchema st).Returns fun out => out.1.services = st.services := by
  refine Act.returns_bind (Act.returns_any _) fun r _ => ?_
  cases r with
  | error e => exact Act.returns_pure rfl
  | ok current => exact Act.returns_bind (Act.returns_any _) fun _ _ => Act.returns_pure rfl

theorem reconcileStoreSchema_services (env : PassEnv) (c : Cluster) (t : SchemaTarget) (minSchema : String)
    (st : ClusterStatus) :
    (reconcileStoreSchema env c t minSchema st).Returns fun out => out.1.services = st.services := by
  refine Act.returns_bind (Act.returns_any _) fun r _ => ?_
  cases r with
  | error e => exact Act.returns_pure rfl
  | ok current =>
    refine Act.returns_bind (Act.returns_any _) fun _ _ => ?_
    dsimp only
    split
    · exact Act.returns_pure rfl
    · refine Act.returns_bind (Act.returns_any _) fun r _ => ?_
      split
      · exact Act.returns_pure rfl
      · exact recheckInline_services t minSchema _
      · exact Act.returns_bind (Act.returns_any _) fun _ _ => Act.returns_pure rfl

theorem reconcileStores_services (env : PassEnv) (c : Cluster) (info : VersionInfo) (ts : List SchemaTarget)
    (st : ClusterStatus) (migrating : Bool) :
    (reconcileStores env c info st migrating ts).Returns fun st' => st'.services = st.services := by
  induction ts generalizing st migrating with
  | nil => cases migrating <;> exact Act.returns_pure rfl
  | cons t ts ih =>
    rw [reconcileStores_cons]
    refine Act.returns_bind (reconcileStoreSchema_services env c t _ st) fun out hout => ?_
    obtain ⟨st₁, res⟩ := out
    rw [← hout]
    cases res with
    | error e =>
      dsimp only
      split
      · exact ih st₁ true
      · exact Act.returns_fail _
    | ok r =>
      dsimp only
      split
      · exact Act.returns_pure rfl
      · exact ih st₁ _

theorem probeTargets_services (c : Cluster) (st : ClusterStatus) (ts : List SchemaTarget) :
    (probeTargets c st ts).Returns fun probed => ∀ st', probed = some st' → st'.services = st.services := by
  induction ts with
  | nil => exact Act.returns_pure (by simp)
  | cons t ts ih =>
    refine Act.returns_bind (Act.returns_any _) fun r _ => ?_
    cases r with
    | ok u => exact ih
    | error e =>
      dsimp only
      split
      · exact Act.returns_pure (by rintro _ ⟨⟩; rfl)
      · exact Act.returns_pure (by rintro _ ⟨⟩; rfl)

theorem reconcilePersistence_services (env : PassEnv) (c : Cluster) (st : ClusterStatus) :
    (reconcilePersistence env c st).Returns fun st' => st'.services = st.services := by
  rw [reconcilePersistence_eq]
  refine Act.returns_bind (Act.returns_any _) fun _ _ => ?_
  split
  · exact Act.returns_pure rfl
  · refine Act.returns_bind (probeTargets_services c st _) fun probed hprobed => ?_
    cases probed with
    | some st₁ => exact Act.returns_pure (hprobed st₁ rfl)
    | none =>
      dsimp only
      split
      · exact Act.returns_fail _
      · exact reconcileStores_services env c _ _ _ false

theorem reconcileMTLS_services (env : PassEnv) (c : Cluster) (st : ClusterStatus) :
    (reconcileMTLS env c st).Returns fun st' => st'.services = st.services := by
  unfold reconcileMTLS
  split
  · exact Act.returns_pure rfl
  · refine Act.returns_bind (Act.returns_any _) fun _ _ => ?_
    dsimp only
    split
    · exact Act.returns_pure rfl
    · split <;> exact Act.returns_pure rfl

theorem AtUpgrade.services {env : PassEnv} {c : Cluster} {st : ClusterStatus} (h : AtUpgrade env c st) :
    st.services = c.status.services := by
  obtain ⟨st₁, hp, hm⟩ := h.reached
  exact (reconcileMTLS_services env c st₁ st hm).trans (reconcilePersistence_services env c c.status st₁ hp)

theorem upgradeOutcome_services (env : PassEnv) (spec : ClusterSpec) (st : ClusterStatus) :
    (upgradeOutcome env spec st).services = st.services := by
  unfold upgradeOutcome withRecord
  split
  · split <;> rfl
  · rfl

theorem setServiceStatus_keys (st : ClusterStatus) (s s' : Service) (ss : ServiceStatus) :
    s' ∈ (setServiceStatus st s ss).services.map Prod.fst ↔ s' = s ∨ s' ∈ st.services.map Prod.fst := by
  simp only [setServiceStatus, List.map_cons, List.mem_cons, List.mem_map, List.mem_filter, decide_eq_true_eq,
    Prod.exists, exists_and_right, exists_eq_right]
  by_cases hs : s' = s
  · simp [hs]
  · simp [hs]

/-- What each entry the loop writes preserves, the whole loop does; `I` speaks of the services that are left. -/
theorem rollupLoop_rule (env : PassEnv) (c : Cluster) {I : List ServiceInfo → ClusterStatus → Prop}
    (hstep : ∀ svc svcs st ss, ss.version = c.spec.version → I (svc :: svcs) st →
      I svcs (setServiceStatus st svc.name ss))
    (svcs : List ServiceInfo) (st : ClusterStatus) (allReady : Bool) (h : I svcs st) :
    (rollupLoop env c st allReady svcs).Returns fun out => I [] out.1 := by
  induction svcs generalizing st allReady with
  | nil => exact Act.returns_pure h
  | cons svc svcs ih =>
    rw [rollupLoop]
    split
    · exact Act.returns_fail _
    · exact Act.returns_bind (Act.returns_any _) fun _ _ => ih _ _ (hstep _ _ _ _ rfl h)

theorem rollupLoop_keys (env : PassEnv) (c : Cluster) (svcs : List ServiceInfo) (st : ClusterStatus)
    (allReady : Bool) :
    (rollupLoop env c st allReady svcs).Returns fun out => ∀ s,
      s ∈ out.1.services.map Prod.fst ↔ s ∈ svcs.map ServiceInfo.name ∨ s ∈ st.services.map Prod.fst := by
  have hloop := rollupLoop_rule env c (I := fun rest st' => ∀ s,
    s ∈ rest.map ServiceInfo.name ∨ s ∈ st'.services.map Prod.fst ↔
      s ∈ svcs.map ServiceInfo.name ∨ s ∈ st.services.map Prod.fst) ?_ svcs st allReady (fun _ => Iff.rfl)
  · intro out hout s
    simpa using hloop out hout s
  · intro svc rest st' ss _ h s
    rw [← h s, setServiceStatus_keys, List.map_cons, List.mem_cons]
    tauto

theorem reconcileServices_keys {env : PassEnv} {c : Cluster} {st : ClusterStatus} {versions : List (Service × String)}
    (hready : st.holds .schemaReady = true) :
    (reconcileServices env c st versions).Returns fun st' => ∀ s,
      s ∈ st'.services.map Prod.fst ↔ Enabled c.spec s ∨ s ∈ st.services.map Prod.fst := by
  unfold reconcileServices
  rw [hready, Bool.not_true, if_neg Bool.false_ne_true]
  refine Act.returns_bind (Act.returns_any _) fun _ _ => Act.returns_bind (Act.returns_any _) fun _ _ =>
    Act.returns_bind (Act.returns_any _) fun _ _ => ?_
  refine Act.returns_bind (rollupLoop_keys env c _ st true) fun out hout => ?_
  exact Act.returns_pure hout

/-! ## What a completed pass leaves -/

/-- What a pass that came to its end with the schema ready leaves: the Deployments of the enabled components, and a key
for each enabled service beside those that were there. -/
structure ComponentsStep (env : PassEnv) (c : Cluster) (st' : ClusterStatus) : Prop where
  deploys : ∀ k, (⟨env, c⟩ : PassReport).Deploys k ↔ k.Enabled c.spec
  keys : ∀ s, s ∈ st'.services.map Prod.fst ↔ Enabled c.spec s ∨ s ∈ c.status.services.map Prod.fst

theorem reconcileServices_deploys {env : PassEnv} {c : Cluster} {st st' : ClusterStatus}
    {versions : List (Service × String)} (hready : st.holds .schemaReady = true)
    (h : (reconcileServices env c st versions).res = .ok st') {s : Service} (hs : Enabled c.spec s) :
    ∃ v d, Event.applied (.deployment s v d) ∈ (reconcileServices env c st versions).log ∧
      env.applyErr (.deployment s v d) = none := by
  unfold reconcileServices at h ⊢
  simp only [hready, Bool.not_true, Bool.false_eq_true, if_false, Act.res_bind_eq_ok] at h ⊢
  obtain ⟨_, hrender, planned, hplan, _, heach, -⟩ := h
  obtain ⟨d, hd⟩ := (mem_planServices hplan).1 s hs
  obtain ⟨hlog, herr⟩ := applied_of_each heach (List.mem_map_of_mem hd)
  refine ⟨_, _, ?_, herr⟩
  simp only [Act.mem_log_bind]
  exact .inr ⟨_, hrender, .inr ⟨_, hplan, .inl hlog⟩⟩

theorem PassReport.Deploys.enabled {r : PassReport} {k : Component} (h : r.Deploys k) : k.Enabled r.read.spec := by
  obtain ⟨obj, hlog, hk, -⟩ := h
  cases obj with
  | deployment s v d =>
    obtain rfl := Option.some.inj hk
    obtain ⟨-, -, -, hs, -⟩ := deployment_event hlog
    exact hs
  | uiDeployment =>
    obtain rfl := Option.some.inj hk
    exact uiDeployment_event hlog
  | _ => cases hk

theorem components_of_wrote {env : PassEnv} {c : Cluster} {st' : ClusterStatus}
    (hw : (⟨env, c⟩ : PassReport).wrote = some st') (hready : st'.holds .schemaReady = true) :
    ComponentsStep env c st' := by
  obtain ⟨st, st₃, hstages⟩ := reconcile_stages (res_of_wrote hw)
  have ⟨hat, hs, hui, _⟩ := hstages
  rw [hstages.schemaReady_eq] at hready
  refine ⟨fun k => ⟨PassReport.Deploys.enabled, fun hk => ?_⟩, fun s => ?_⟩
  · cases k with
    | service s =>
      obtain ⟨v, d, hlog, herr⟩ := reconcileServices_deploys hready hs hk
      exact ⟨_, hat.services_log hlog, rfl, herr⟩
    | ui =>
      obtain ⟨hlog, herr⟩ := applied_of_each hui ((uiDeployment_mem_planUI c.spec).mpr hk)
      exact ⟨.uiDeployment, hstages.ui_log hlog, rfl, herr⟩
  · have hkeys := reconcileServices_keys hready st₃ hs s
    rwa [upgradeOutcome_services, hat.services, ← hstages.services_eq] at hkeys

theorem applyErr_of_wrote {env : PassEnv} {c : Cluster} {st' : ClusterStatus} {s : Service} {v : String}
    {d : Deployment} (hw : (⟨env, c⟩ : PassReport).wrote = some st')
    (h : Event.applied (.deployment s v d) ∈ (⟨env, c⟩ : PassReport).log) :
    env.applyErr (.deployment s v d) = none := by
  obtain ⟨st, hat, hlog⟩ := deployment_source h
  obtain ⟨st₂, st₃, hat₂, hs, -⟩ := reconcile_stages (res_of_wrote hw)
  obtain rfl := hat.unique hat₂
  exact applyErr_of_reconcileServices hs hlog

/-! ## Histories -/

def SchemaServed (c : Cluster) (_ : List Entry) : Input → Prop
  | .update _ _ => True
  | .pass env => ((⟨env, c⟩ : PassReport).wrote.any fun st => st.holds .schemaReady) = true

instance (c : Cluster) (h : List Entry) : (e : Input) → Decidable (SchemaServed c h e)
  | .update _ _ => inferInstanceAs (Decidable True)
  | .pass _ => inferInstanceAs (Decidable (_ = true))

theorem SchemaServed.ready {c : Cluster} {h : List Entry} {env : PassEnv} {st : ClusterStatus}
    (hok : SchemaServed c h (.pass env)) (hw : (⟨env, c⟩ : PassReport).wrote = some st) :
    st.holds .schemaReady = true := by
  simpa [SchemaServed, hw] using hok

theorem deployed_cons_passed (r : PassReport) (h : List Entry) (k : Component) :
    Deployed (.passed r :: h) k ↔ r.Deploys k ∨ Deployed h k := by
  unfold Deployed
  constructor
  · rintro ⟨r', hr', hk⟩
    rcases List.mem_cons.mp hr' with he | hr'
    · exact .inl (Entry.passed.inj he ▸ hk)
    · exact .inr ⟨r', hr', hk⟩
  · rintro (hk | ⟨r', hr', hk⟩)
    · exact ⟨r, List.mem_cons_self, hk⟩
    · exact ⟨r', List.mem_cons_of_mem _ hr', hk⟩

theorem ClusterRun.services_keys {c₀ c : Cluster} {h : List Entry} (hc : Created c₀)
    (run : ClusterRun SchemaServed c₀ c h) :
    ∀ s, s ∈ c.status.services.map Prod.fst ↔ Deployed h (.service s) := by
  refine ClusterRun.invariant
    (I := fun c h => ∀ s, s ∈ c.status.services.map Prod.fst ↔ Deployed h (.service s)) ?_ ?_ ?_ ?_ ?_ run
  · intro s
    rw [hc.status]
    simp [Deployed]
  · intro c h spec annotations _ ih _ _ s
    rw [submit_status, ih s]
    simp [Deployed]
  · intro c h _ ih s
    rw [ih s]
    simp [Deployed]
  · intro c h env _ _ hok hw
    simp [SchemaServed, hw] at hok
  · intro c h env st _ ih hok hw s
    have hstep := components_of_wrote hw (hok.ready hw)
    rw [deployed_cons_passed, hstep.deploys, ← ih s]
    exact hstep.keys s

/-- **What is left of components that were switched off**: after a pass of a run in which every pass completes with the
schema ready, the Deployments and the keys of `status.services` are those of the components enabled in the spec the
pass has read exactly when every component deployed before it is still enabled there. -/
theorem components_match_iff {c₀ c : Cluster} {h : List Entry} (hc : Created c₀)
    (run : ClusterRun SchemaServed c₀ c h) {env : PassEnv} {st : ClusterStatus}
    (hok : SchemaServed c h (.pass env)) (hw : (⟨env, c⟩ : PassReport).wrote = some st) :
    ((∀ k, Deployed (.passed ⟨env, c⟩ :: h) k ↔ k.Enabled c.spec) ∧
      ∀ s, s ∈ st.services.map Prod.fst ↔ Enabled c.spec s) ↔ ∀ k, Deployed h k → k.Enabled c.spec := by
  have hstep := components_of_wrote hw (hok.ready hw)
  constructor
  · rintro ⟨hdeployed, -⟩ k hk
    exact (hdeployed k).mp ((deployed_cons_passed _ _ _).mpr (.inr hk))
  · intro hold
    constructor
    · intro k
      rw [deployed_cons_passed, hstep.deploys]
      exact or_iff_left_of_imp (hold k)
    · intro s
      rw [hstep.keys, run.services_keys hc]
      exact or_iff_left_of_imp (hold (.service s))

/-- The entry is no pass over another spec. -/
def Entry.readsSpec (spec : ClusterSpec) : Entry → Bool
  | .passed r => r.read.spec = spec
  | .edited .. | .rejected _ => true

/-- After the internal frontend of a running cluster is switched on, everything matches again. -/
theorem components_match_switchedOn :
    let env := steadyEnv newestSchema "1.30.4"
    let c := (clusterSystem.exec (withInternalFrontend "1.30.4" false) []
      [.pass env, switchInternalFrontend "1.30.4" true]).1
    let h := (clusterSystem.exec (withInternalFrontend "1.30.4" false) []
      [.pass env, switchInternalFrontend "1.30.4" true]).2
    ∃ st, (⟨env, c⟩ : PassReport).wrote = some st ∧ Deployed h (.service .frontend) ∧
      ¬ Deployed h (.service .internalFrontend) ∧ (∀ k, Deployed (.passed ⟨env, c⟩ :: h) k ↔ k.Enabled c.spec) ∧
      ∀ s, s ∈ st.services.map Prod.fst ↔ Enabled c.spec s := by
  intro env c h
  let c₀ := withInternalFrontend "1.30.4" false
  obtain ⟨hcreated, hfits, hok, hwrote, hfrontend, hinternal, hread⟩ : Created c₀ ∧
      clusterSystem.Fits SchemaServed c₀ [] [.pass env, switchInternalFrontend "1.30.4" true] ∧
      SchemaServed c h (.pass env) ∧ (⟨env, c⟩ : PassReport).wrote.isSome ∧
      Service.frontend ∈ c.status.services.map Prod.fst ∧
      Service.internalFrontend ∉ c.status.services.map Prod.fst ∧
      h.all (Entry.readsSpec c₀.spec) = true := by
    decide +kernel
  have hrun : ClusterRun SchemaServed c₀ c h := .exec .start hfits
  obtain ⟨st, hw⟩ := Option.isSome_iff_exists.mp hwrote
  have hkeys := hrun.services_keys hcreated
  -- what the first pass has deployed is enabled after the edit as well
  have hold : ∀ k, Deployed h k → k.Enabled c.spec := by
    rintro k ⟨r, hr, hk⟩
    have hspec : r.read.spec = c₀.spec := of_decide_eq_true (List.all_eq_true.mp hread _ hr)
    have henabled := hspec ▸ hk.enabled
    cases k with
    | ui => exact absurd henabled (by decide +kernel)
    | service s =>
      have hservices : ∀ s ∈ [Service.frontend, .history, .matching, .internalFrontend, .worker], Enabled c.spec s := by
        decide +kernel
      exact hservices s (by cases s <;> decide)
  exact ⟨st, hw, (hkeys _).mp hfrontend, fun hk => hinternal ((hkeys _).mpr hk),
    (components_match_iff hcreated hrun hok hw).mpr hold⟩

/-- The internal frontend is deployed and then switched off: its Deployment and its key stay. -/
theorem switched_off_stays :
    ∃ c h r st, Created (withInternalFrontend "1.30.4" true) ∧
      ClusterRun SchemaServed (withInternalFrontend "1.30.4" true) c (.passed r :: h) ∧ r.wrote = some st ∧
      ¬ Enabled r.read.spec .internalFrontend ∧ Deployed (.passed r :: h) (.service .internalFrontend) ∧
      .internalFrontend ∈ st.services.map Prod.fst := by
  let c₀ := withInternalFrontend "1.30.4" true
  let env := steadyEnv newestSchema "1.30.4"
  let inputs := [.pass env, switchInternalFrontend "1.30.4" false]
  let before := clusterSystem.exec c₀ [] inputs
  let r : PassReport := ⟨env, before.1⟩
  have hcreated : Created c₀ := by decide +kernel
  obtain ⟨hfits, hok, hwrote, hkey, hoff⟩ : clusterSystem.Fits SchemaServed c₀ [] inputs ∧
      SchemaServed before.1 before.2 (.pass env) ∧ r.wrote.isSome ∧
      Service.internalFrontend ∈ before.1.status.services.map Prod.fst ∧ ¬ Enabled r.read.spec .internalFrontend := by
    decide +kernel
  have hrun : ClusterRun SchemaServed c₀ before.1 before.2 := .exec .start hfits
  obtain ⟨st, hw⟩ := Option.isSome_iff_exists.mp hwrote
  refine ⟨_, _, r, st, hcreated, hrun.pass env hok, hw, hoff, ?_, ?_⟩
  · exact (deployed_cons_passed _ _ _).mpr (.inr ((hrun.services_keys hcreated _).mp hkey))
  · exact ((components_of_wrote hw (hok.ready hw)).keys _).mpr (.inr hkey)

end TemporalOperator
