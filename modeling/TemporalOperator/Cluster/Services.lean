import TemporalOperator.Cluster.Upgrade

/-!
# Services, certificates and readiness

`temporalcluster_services.go`, `temporalcluster_mtls.go`, `temporalcluster_ui.go`, `temporalcluster_monitoring.go` and
the planners of `internal/plan`: what a pass applies, and the conditions and version it derives afterwards.
-/

namespace TemporalOperator
open Lib Persistence

/-- `apply`: the call is logged whether or not it is answered with an error. -/
def applyObject (env : PassEnv) (obj : Planned) : Pass Unit := do
  Act.emit (.applied obj)
  match env.applyErr obj with
  | some e => Act.fail e
  | none => pure ()

/-! ## mTLS -/

/-- Whether a Certificate is ready, and whether it has failed. -/
def certificateStatus (env : PassEnv) (name : CertificateName) : Bool × Bool :=
  match env.certificate name with
  | .error _ => (false, false)
  | .ok conds => (conds.any (·.1 = .true), conds.any fun c => c.1 = .false && c.2 = "Failed")

def setMTLSReady (c : Cluster) (st : ClusterStatus) (ready : Bool) (reason message : String) : ClusterStatus :=
  st.setCondition
    { type := .mtlsReady
      status := if ready then .true else .false
      reason := reason
      message := message
      observedGeneration := c.generation }

def planMTLS (spec : ClusterSpec) : List Planned :=
  if !mTLSEnabled spec then [] else [.internodeCertificate, .frontendCertificate]

def reconcileMTLS (env : PassEnv) (c : Cluster) (st : ClusterStatus) : Pass ClusterStatus :=
  if !mTLSEnabled c.spec then pure st
  else do
    Act.each (applyObject env) (planMTLS c.spec)
    let internode := certificateStatus env .internode
    let frontend := certificateStatus env .frontend
    if internode.2 || frontend.2 then
      return setMTLSReady c st false "CertificateIssuanceFailed" "one or more certificates failed to issue"
    else if internode.1 && frontend.1 then
      return setMTLSReady c st true "CertificatesReady" "all certificates are ready"
    else return setMTLSReady c st false "Reconciling" "waiting for certificates to be issued"

/-! ## Services -/

/-- The objects of one service, for the hashes and mounts of a pass or a preview. -/
def planService (env : PassEnv) (c : Cluster) (i : TemplateInputs) (versions : List (Service × String))
    (svc : ServiceInfo) : Except GoErr (List Planned) := do
  let version := (versions.lookup svc.name).getD ""
  let deployment ← buildDeploymentFrom env c svc i version
  return [.deployment svc.name version deployment, .headlessService svc.name, .podDisruptionBudget svc.name] ++
    (if svc.name = .frontend then [.frontendService] else [])

def planEach (env : PassEnv) (c : Cluster) (i : TemplateInputs) (versions : List (Service × String)) :
    List ServiceInfo → Except GoErr (List Planned)
  | [] => .ok []
  | svc :: svcs => do
    let objs ← planService env c i versions svc
    let rest ← planEach env c i versions svcs
    return objs ++ rest

def planServices (env : PassEnv) (c : Cluster) (i : TemplateInputs) (versions : List (Service × String)) :
    Except GoErr (List Planned) := do
  let objs ← planEach env c i versions (enabledServices c.spec)
  return [.configSecret, .dynamicConfigMap] ++ objs

/-- `status.services[s] = ss`. -/
def setServiceStatus (st : ClusterStatus) (s : Service) (ss : ServiceStatus) : ClusterStatus :=
  { st with services := (s, ss) :: st.services.filter (·.1 ≠ s) }

def setAvailable (c : Cluster) (st : ClusterStatus) (allReady : Bool) : ClusterStatus :=
  st.setCondition
    { type := .available
      status := if allReady then .true else .false
      reason := if allReady then "AllServicesReady" else "RolloutInProgress"
      message := if allReady then "all services are ready" else "waiting for all services to become ready"
      observedGeneration := c.generation }

/-- The loop of `rollupServiceStatus`: the status so far, and whether every service read has a ready replica. -/
def rollupLoop (env : PassEnv) (c : Cluster) : ClusterStatus → Bool → List ServiceInfo → Pass (ClusterStatus × Bool)
  | st, allReady, [] => pure (st, allReady)
  | st, allReady, svc :: svcs =>
    match env.rollup svc.name with
    | .error e => .fail e
    | .ok dep => do
      Act.emit (.readinessSeen svc.name dep.readyReplicas)
      rollupLoop env c
        (setServiceStatus st svc.name
          { ready := dep.readyReplicas, desired := dep.replicas.getD 1, version := c.spec.version })
        (allReady && !(dep.readyReplicas < 1)) svcs

def rollupServiceStatus (env : PassEnv) (c : Cluster) (st : ClusterStatus) : Pass ClusterStatus := do
  let (st, allReady) ← rollupLoop env c st true (enabledServices c.spec)
  return setAvailable c st allReady

def reconcileServices (env : PassEnv) (c : Cluster) (st : ClusterStatus) (versions : List (Service × String)) :
    Pass ClusterStatus :=
  if !st.holds .schemaReady then pure st
  else do
    let _ ← Act.lift (renderConfig env c)
    let planned ← Act.lift (planServices env c (templateInputs env c) versions)
    Act.each (applyObject env) (planned.map (wireAzure c))
    rollupServiceStatus env c st

/-! ## UI and monitoring -/

def planUI (spec : ClusterSpec) : List Planned :=
  match spec.ui with
  | none => []
  | some ui =>
    if !ui.enabled then []
    else
      (if mTLSEnabled spec then [.uiClientCertificate] else []) ++ [.uiDeployment, .uiService] ++
        (if ui.ingress = some true then [.uiIngress] else [])

def reconcileUI (env : PassEnv) (c : Cluster) : Pass Unit := Act.each (applyObject env) (planUI c.spec)

def planMonitoring (spec : ClusterSpec) : List Planned :=
  if spec.metrics.bind MetricsSpec.serviceMonitor = some true then [.serviceMonitor] else []

def reconcileMonitoring (env : PassEnv) (c : Cluster) : Pass Unit :=
  if env.serviceMonitorCRDInstalled then Act.each (applyObject env) (planMonitoring c.spec) else pure ()

/-! ## Readiness -/

/-- Persistence is reachable, the schema ready, the services available and, with mTLS, the certificates ready. -/
def clusterReady (c : Cluster) (st : ClusterStatus) : Bool :=
  st.holds .persistenceReachable && st.holds .schemaReady && st.holds .available &&
    (!mTLSEnabled c.spec || st.holds .mtlsReady)

def clusterPhase (st : ClusterStatus) : String :=
  if !st.holds .persistenceReachable then "Pending"
  else if !st.holds .schemaReady then "ProvisioningSchema"
  else if st.upgrade.isSome then "Upgrading"
  else if !st.holds .available then "DeployingServices"
  else "Ready"

/-- The status `computeReadyAndPhase` leaves; the version is stamped when no upgrade is in progress. -/
def withReady (c : Cluster) (st : ClusterStatus) : ClusterStatus :=
  let ready := clusterReady c st
  { st with
    phase := clusterPhase st
    version := if ready && st.upgrade.isNone then c.spec.version else st.version }.setCondition
    { type := .ready
      status := if ready then .true else .false
      reason := if ready then "AllServicesReady" else "Reconciling"
      message := if ready then "cluster is ready" else "cluster is not yet ready"
      observedGeneration := c.generation }

def announceReady (ready wasReady : Bool) : Pass Unit :=
  if ready && !wasReady then Act.emit (.recorded "ClusterReady" "TemporalCluster is ready") else pure ()

def computeReadyAndPhase (c : Cluster) (st : ClusterStatus) : Pass ClusterStatus := do
  announceReady (clusterReady c st) (st.holds .ready)
  return withReady c st

/-! ## What the certificates leave -/

theorem emits_applyObject {env : PassEnv} {obj : Planned} {p : Event → Prop} (h : p (.applied obj)) :
    (applyObject env obj).Emits p := by
  refine Act.emits_bind (Act.emits_emit h) fun _ => ?_
  split
  · exact Act.emits_fail _
  · exact Act.emits_pure _

theorem applied_mem_applyObject (env : PassEnv) (obj : Planned) :
    Event.applied obj ∈ (applyObject env obj).log := by
  simp [applyObject]

theorem applyObject_ok {env : PassEnv} {obj : Planned} (h : (applyObject env obj).res = .ok ()) :
    env.applyErr obj = none := by
  rw [applyObject, Act.res_bind_eq_ok] at h
  obtain ⟨_, -, h⟩ := h
  cases he : env.applyErr obj with
  | none => rfl
  | some e =>
    rw [he] at h
    cases h

theorem applied_of_each {env : PassEnv} {objs : List Planned} (h : (Act.each (applyObject env) objs).res = .ok ())
    {obj : Planned} (hobj : obj ∈ objs) :
    Event.applied obj ∈ (Act.each (applyObject env) objs).log ∧ env.applyErr obj = none := by
  obtain ⟨hres, hlog⟩ := Act.res_each_ok h obj hobj
  exact ⟨hlog _ (applied_mem_applyObject env obj), applyObject_ok hres⟩

theorem applied_mem_each {env : PassEnv} {objs : List Planned} {obj : Planned}
    (h : Event.applied obj ∈ (Act.each (applyObject env) objs).log) : obj ∈ objs := by
  obtain ⟨obj', hobj', hmem⟩ := Act.mem_log_each h
  have he : Event.applied obj = .applied obj' := emits_applyObject (p := fun e => e = .applied obj') rfl _ hmem
  rwa [Event.applied.inj he]

theorem mem_planMTLS {spec : ClusterSpec} {obj : Planned} :
    obj ∈ planMTLS spec ↔ mTLSEnabled spec = true ∧ (obj = .internodeCertificate ∨ obj = .frontendCertificate) := by
  unfold planMTLS
  cases mTLSEnabled spec <;> simp

theorem emits_reconcileMTLS (env : PassEnv) (c : Cluster) (st : ClusterStatus) :
    (reconcileMTLS env c st).Emits (·.stage = .objects) := by
  unfold reconcileMTLS
  split
  · exact Act.emits_pure _
  · refine Act.emits_bind (Act.emits_each fun obj hobj => emits_applyObject ?_) fun _ => ?_
    · rcases mem_planMTLS.mp hobj with ⟨-, rfl | rfl⟩ <;> rfl
    · dsimp only
      split
      · exact Act.emits_pure _
      · split <;> exact Act.emits_pure _

theorem holds_setMTLSReady (c : Cluster) (st : ClusterStatus) (b : Bool) (r m : String) {t : ConditionType}
    (ht : t ≠ .mtlsReady) : (setMTLSReady c st b r m).holds t = st.holds t := by
  rw [setMTLSReady, holds_setCondition, if_neg ht]

theorem reconcileMTLS_res {env : PassEnv} {c : Cluster} {st st' : ClusterStatus}
    (h : (reconcileMTLS env c st).res = .ok st') :
    st'.progress = st.progress ∧ ∀ t, t ≠ .mtlsReady → st'.holds t = st.holds t := by
  unfold reconcileMTLS at h
  split at h
  · obtain rfl := Except.ok.inj h
    exact ⟨rfl, fun _ _ => rfl⟩
  · rw [Act.res_bind_eq_ok] at h
    obtain ⟨_, -, h⟩ := h
    simp only at h
    split at h
    · obtain rfl := Except.ok.inj h
      exact ⟨rfl, fun t ht => holds_setMTLSReady c st _ _ _ ht⟩
    · split at h
      · obtain rfl := Except.ok.inj h
        exact ⟨rfl, fun t ht => holds_setMTLSReady c st _ _ _ ht⟩
      · obtain rfl := Except.ok.inj h
        exact ⟨rfl, fun t ht => holds_setMTLSReady c st _ _ _ ht⟩

/-! ## What the services leave -/

inductive PlannedFor (env : PassEnv) (c : Cluster) (i : TemplateInputs) (versions : List (Service × String))
    (svc : ServiceInfo) : Planned → Prop
  | deployment (d : Deployment) (h : buildDeploymentFrom env c svc i ((versions.lookup svc.name).getD "") = .ok d) :
      PlannedFor env c i versions svc (.deployment svc.name ((versions.lookup svc.name).getD "") d)
  | headlessService : PlannedFor env c i versions svc (.headlessService svc.name)
  | podDisruptionBudget : PlannedFor env c i versions svc (.podDisruptionBudget svc.name)
  | frontendService (h : svc.name = .frontend) : PlannedFor env c i versions svc .frontendService

section
variable {env : PassEnv} {c : Cluster} {i : TemplateInputs} {versions : List (Service × String)} {objs : List Planned}

theorem planService_eq_ok {svc : ServiceInfo} (h : planService env c i versions svc = .ok objs) :
    (∃ d, buildDeploymentFrom env c svc i ((versions.lookup svc.name).getD "") = .ok d) ∧
      ∀ obj, obj ∈ objs ↔ PlannedFor env c i versions svc obj := by
  unfold planService at h
  cases hb : buildDeploymentFrom env c svc i ((versions.lookup svc.name).getD "") with
  | error e => simp [hb, bind, Except.bind] at h
  | ok d =>
    simp only [hb, bind, Except.bind, pure, Except.pure, Except.ok.injEq] at h
    subst h
    refine ⟨⟨d, rfl⟩, fun obj => ⟨fun hobj => ?_, fun hobj => ?_⟩⟩
    · simp only [List.mem_append, List.mem_cons, List.not_mem_nil, or_false] at hobj
      rcases hobj with (rfl | rfl | rfl) | hobj
      · exact .deployment d hb
      · exact .headlessService
      · exact .podDisruptionBudget
      · split at hobj
        · obtain rfl := List.mem_singleton.mp hobj
          exact .frontendService ‹_›
        · cases hobj
    · cases hobj with
      | deployment d' h' =>
        obtain rfl := Except.ok.inj (hb.symm.trans h')
        simp
      | frontendService hs => simp [hs]
      | _ => simp

theorem planEach_eq_ok {svcs : List ServiceInfo} (h : planEach env c i versions svcs = .ok objs) :
    (∀ svc ∈ svcs, ∃ d, buildDeploymentFrom env c svc i ((versions.lookup svc.name).getD "") = .ok d) ∧
      ∀ obj, obj ∈ objs ↔ ∃ svc ∈ svcs, PlannedFor env c i versions svc obj := by
  induction svcs generalizing objs with
  | nil =>
    obtain rfl := Except.ok.inj h
    simp
  | cons svc svcs ih =>
    rw [planEach] at h
    cases hs : planService env c i versions svc with
    | error e => simp [hs, bind, Except.bind] at h
    | ok own =>
      cases hr : planEach env c i versions svcs with
      | error e => simp [hs, hr, bind, Except.bind] at h
      | ok rest =>
        simp only [hs, hr, bind, Except.bind, pure, Except.pure, Except.ok.injEq] at h
        subst h
        obtain ⟨hbuilt, hown⟩ := planService_eq_ok hs
        obtain ⟨hbuilts, hrest⟩ := ih hr
        refine ⟨List.forall_mem_cons.mpr ⟨hbuilt, hbuilts⟩, fun obj => ?_⟩
        rw [List.mem_append, hown, hrest, List.exists_mem_cons_iff]

theorem planServices_eq_ok (h : planServices env c i versions = .ok objs) :
    (∀ svc ∈ enabledServices c.spec, ∃ d,
        buildDeploymentFrom env c svc i ((versions.lookup svc.name).getD "") = .ok d) ∧
      ∀ obj, obj ∈ objs ↔ obj = .configSecret ∨ obj = .dynamicConfigMap ∨
        ∃ svc ∈ enabledServices c.spec, PlannedFor env c i versions svc obj := by
  unfold planServices at h
  cases hp : planEach env c i versions (enabledServices c.spec) with
  | error e => simp [hp, bind, Except.bind] at h
  | ok own =>
    simp only [hp, bind, Except.bind, pure, Except.pure, Except.ok.injEq] at h
    subst h
    obtain ⟨hbuilt, hown⟩ := planEach_eq_ok hp
    refine ⟨hbuilt, fun obj => ?_⟩
    rw [List.mem_append, List.mem_pair, hown, or_assoc]

theorem deployment_mem_planServices (h : planServices env c i versions = .ok objs) {s : Service} {v : String}
    {d : Deployment} (hd : Planned.deployment s v d ∈ objs) :
    v = (versions.lookup s).getD "" ∧
      ∃ svc ∈ enabledServices c.spec, svc.name = s ∧ buildDeploymentFrom env c svc i v = .ok d := by
  rcases ((planServices_eq_ok h).2 _).mp hd with hobj | hobj | ⟨svc, hsvc, hobj⟩
  · cases hobj
  · cases hobj
  · cases hobj with
    | deployment d hb => exact ⟨rfl, svc, hsvc, rfl, hb⟩

theorem mem_planServices (h : planServices env c i versions = .ok objs) :
    (∀ s, Enabled c.spec s → ∃ d, Planned.deployment s ((versions.lookup s).getD "") d ∈ objs) ∧
      ∀ s v d, Planned.deployment s v d ∈ objs → Enabled c.spec s ∧ v = (versions.lookup s).getD "" := by
  obtain ⟨hbuilt, hmem⟩ := planServices_eq_ok h
  constructor
  · intro s hs
    obtain ⟨svc, hsvc, rfl⟩ := List.mem_map.mp hs
    obtain ⟨d, hd⟩ := hbuilt svc hsvc
    exact ⟨d, (hmem _).mpr (.inr (.inr ⟨svc, hsvc, .deployment d hd⟩))⟩
  · intro s v d hd
    obtain ⟨hv, svc, hsvc, hname, -⟩ := deployment_mem_planServices h hd
    exact ⟨List.mem_map.mpr ⟨svc, hsvc, hname⟩, hv⟩

end

theorem rollupLoop_res {env : PassEnv} {c : Cluster} {st st' : ClusterStatus} {allReady allReady' : Bool}
    {svcs : List ServiceInfo} (h : (rollupLoop env c st allReady svcs).res = .ok (st', allReady')) :
    st'.progress = st.progress ∧ st'.conditions = st.conditions ∧
      (allReady' = true → allReady = true ∧ ∀ s ∈ svcs.map ServiceInfo.name, ∃ n : Int, 1 ≤ n ∧
        Event.readinessSeen s n ∈ (rollupLoop env c st allReady svcs).log) := by
  induction svcs generalizing st allReady with
  | nil =>
    obtain ⟨rfl, rfl⟩ := Prod.mk.inj (Except.ok.inj h)
    exact ⟨rfl, rfl, fun hr => ⟨hr, by simp⟩⟩
  | cons svc svcs ih =>
    rw [rollupLoop] at h ⊢
    cases hd : env.rollup svc.name with
    | error e =>
      simp only [hd] at h
      cases h
    | ok dep =>
      simp only [hd] at h ⊢
      rw [Act.bind_of_ok (Act.res_emit _)] at h ⊢
      obtain ⟨hprog, hcond, hready⟩ := ih h
      refine ⟨hprog, hcond, fun hr => ?_⟩
      obtain ⟨hall, hsvcs⟩ := hready hr
      rw [Bool.and_eq_true, Bool.not_eq_true', decide_eq_false_iff_not, Int.not_lt] at hall
      refine ⟨hall.1, fun s hs => ?_⟩
      rcases List.mem_cons.mp hs with rfl | hs
      · exact ⟨dep.readyReplicas, hall.2, by simp⟩
      · obtain ⟨n, hn, hmem⟩ := hsvcs s hs
        exact ⟨n, hn, List.mem_append_right _ hmem⟩

theorem emits_rollupServiceStatus (env : PassEnv) (c : Cluster) (st : ClusterStatus) :
    (rollupServiceStatus env c st).Emits fun e => ∃ s n, e = .readinessSeen s n := by
  have hloop : ∀ svcs st allReady, (rollupLoop env c st allReady svcs).Emits fun e => ∃ s n, e = .readinessSeen s n := by
    intro svcs
    induction svcs with
    | nil => exact fun st allReady => Act.emits_pure _
    | cons svc svcs ih =>
      intro st allReady
      rw [rollupLoop]
      split
      · exact Act.emits_fail _
      · exact Act.emits_bind (Act.emits_emit ⟨_, _, rfl⟩) fun _ => ih _ _
  exact Act.emits_bind (hloop _ _ _) fun _ => Act.emits_pure _

/-- What `reconcileServices` leaves: only `Available` changes, and with the schema ready it says that every enabled
service was applied and has a ready replica. -/
structure ServicesStep (c : Cluster) (st : ClusterStatus) (versions : List (Service × String)) (log : List Event)
    (st' : ClusterStatus) : Prop where
  progress : st'.progress = st.progress
  holds : ∀ t, t ≠ .available → st'.holds t = st.holds t
  available : st.holds .schemaReady = true → st'.holds .available = true → ∀ s, Enabled c.spec s →
    (∃ n : Int, 1 ≤ n ∧ Event.readinessSeen s n ∈ log) ∧
      ∃ d, Event.applied (.deployment s ((versions.lookup s).getD "") d) ∈ log

theorem holds_setAvailable (c : Cluster) (st : ClusterStatus) (b : Bool) (t : ConditionType) :
    (setAvailable c st b).holds t = if t = .available then b else st.holds t := by
  rw [setAvailable, holds_setCondition]
  cases b <;> rfl

theorem reconcileServices_step {env : PassEnv} {c : Cluster} {st st' : ClusterStatus}
    {versions : List (Service × String)} (h : (reconcileServices env c st versions).res = .ok st') :
    ServicesStep c st versions (reconcileServices env c st versions).log st' := by
  unfold reconcileServices at h ⊢
  cases hr : st.holds .schemaReady with
  | false =>
    simp only [hr, Bool.not_false, if_true] at h ⊢
    obtain rfl := Except.ok.inj h
    exact ⟨rfl, fun _ _ => rfl, fun hs => by rw [hr] at hs; cases hs⟩
  | true =>
    simp only [hr, Bool.not_true, Bool.false_eq_true, if_false, Act.res_bind_eq_ok, rollupServiceStatus] at h
    obtain ⟨_, hrender, planned, hplan, _, heach, ⟨st₁, allReady⟩, hloop, h⟩ := h
    obtain rfl := Except.ok.inj h
    obtain ⟨hprog, hcond, hready⟩ := rollupLoop_res hloop
    have hplanned := (mem_planServices hplan).1
    refine ⟨hprog, fun t ht => ?_, fun _ hav s hs => ?_⟩
    · rw [holds_setAvailable, if_neg ht]
      exact holds_of_conditions hcond t
    · rw [holds_setAvailable, if_pos rfl] at hav
      obtain ⟨n, hn, hmem⟩ := (hready hav).2 s hs
      obtain ⟨d, hd⟩ := hplanned s hs
      have happ := (Act.res_each_ok heach _ (List.mem_map_of_mem hd)).2 _ (applied_mem_applyObject env _)
      simp only [Bool.not_true, Bool.false_eq_true, if_false, Act.mem_log_bind, rollupServiceStatus]
      exact ⟨⟨n, hn, .inr ⟨_, hrender, .inr ⟨_, hplan, .inr ⟨_, heach, .inl hmem⟩⟩⟩⟩,
        _, .inr ⟨_, hrender, .inr ⟨_, hplan, .inl happ⟩⟩⟩

/-- What is applied for the services is planned, and only with the schema ready and the config rendered. -/
theorem applied_mem_reconcileServices {env : PassEnv} {c : Cluster} {st : ClusterStatus}
    {versions : List (Service × String)} {obj : Planned}
    (h : Event.applied obj ∈ (reconcileServices env c st versions).log) :
    st.holds .schemaReady = true ∧ (∃ rendered, renderConfig env c = .ok rendered) ∧
      ∃ planned, planServices env c (templateInputs env c) versions = .ok planned ∧
        ∃ obj₀ ∈ planned, wireAzure c obj₀ = obj := by
  unfold reconcileServices at h
  cases hr : st.holds .schemaReady with
  | false =>
    rw [hr] at h
    cases h
  | true =>
    simp only [hr, Bool.not_true, Bool.false_eq_true, if_false, Act.mem_log_bind] at h
    refine ⟨rfl, ?_⟩
    rcases h with h | ⟨rendered, hrender, h | ⟨planned, hplan, h | ⟨_, -, h⟩⟩⟩
    · cases h
    · cases h
    · exact ⟨⟨rendered, hrender⟩, planned, hplan, List.mem_map.mp (applied_mem_each h)⟩
    · obtain ⟨_, _, he⟩ := emits_rollupServiceStatus env c st _ h
      cases he

theorem applyErr_of_reconcileServices {env : PassEnv} {c : Cluster} {st st' : ClusterStatus}
    {versions : List (Service × String)} {obj : Planned} (h : (reconcileServices env c st versions).res = .ok st')
    (hobj : Event.applied obj ∈ (reconcileServices env c st versions).log) : env.applyErr obj = none := by
  obtain ⟨hready, -, planned, hplan, obj₀, hobj₀, rfl⟩ := applied_mem_reconcileServices hobj
  unfold reconcileServices at h
  simp only [hready, Bool.not_true, Bool.false_eq_true, if_false, Act.res_bind_eq_ok] at h
  obtain ⟨_, -, planned', hplan', _, heach, -⟩ := h
  obtain rfl := Except.ok.inj (hplan.symm.trans hplan')
  exact (applied_of_each heach (List.mem_map_of_mem hobj₀)).2

theorem deployment_mem_reconcileServices {env : PassEnv} {c : Cluster} {st : ClusterStatus}
    {versions : List (Service × String)} {s : Service} {v : String} {d : Deployment}
    (h : Event.applied (.deployment s v d) ∈ (reconcileServices env c st versions).log) :
    st.holds .schemaReady = true ∧ Enabled c.spec s ∧ v = (versions.lookup s).getD "" := by
  obtain ⟨hready, -, planned, hplan, obj₀, hobj₀, hwired⟩ := applied_mem_reconcileServices h
  obtain ⟨d₀, rfl, -⟩ := wireAzure_eq_deployment hwired
  exact ⟨hready, (mem_planServices hplan).2 s v d₀ hobj₀⟩

theorem deployment_built_reconcileServices {env : PassEnv} {c : Cluster} {st : ClusterStatus}
    {versions : List (Service × String)} {s : Service} {v : String} {d : Deployment}
    (h : Event.applied (.deployment s v d) ∈ (reconcileServices env c st versions).log) :
    ∃ svc ∈ enabledServices c.spec, svc.name = s ∧ ∃ d₀, buildDeployment env c svc v = .ok d₀ ∧
      d = { d₀ with template := wiredTemplate c d₀.template } := by
  obtain ⟨-, -, planned, hplan, obj₀, hobj₀, hwired⟩ := applied_mem_reconcileServices h
  obtain ⟨d₀, rfl, hd⟩ := wireAzure_eq_deployment hwired
  obtain ⟨-, svc, hsvc, hname, hbuilt⟩ := deployment_mem_planServices hplan hobj₀
  exact ⟨svc, hsvc, hname, d₀, hbuilt, hd⟩

theorem emits_reconcileServices (env : PassEnv) (c : Cluster) (st : ClusterStatus)
    (versions : List (Service × String)) :
    (reconcileServices env c st versions).Emits fun e => e.stage = .services ∨ e.stage = .objects := by
  unfold reconcileServices
  split
  · exact Act.emits_pure _
  · refine Act.emits_bind (Act.emits_lift _) fun _ => Act.emits_bind (Act.emits_lift _) fun planned => ?_
    refine Act.emits_bind (Act.emits_each fun obj _ => emits_applyObject ?_) fun _ => ?_
    · cases obj <;> simp [Event.stage]
    · refine (emits_rollupServiceStatus env c st).mono ?_
      rintro e ⟨s, n, rfl⟩
      exact .inl rfl

/-! ## What the rest of a pass leaves -/

theorem emits_reconcileUI (env : PassEnv) (c : Cluster) : (reconcileUI env c).Emits (·.stage = .objects) := by
  refine Act.emits_each fun obj hobj => emits_applyObject ?_
  unfold planUI at hobj
  split at hobj
  · cases hobj
  · split at hobj
    · cases hobj
    · simp only [List.mem_append, List.mem_cons, List.not_mem_nil, or_false] at hobj
      rcases hobj with (h | rfl | rfl) | h
      · split at h <;> simp at h
        subst h
        rfl
      · rfl
      · rfl
      · split at h <;> simp at h
        subst h
        rfl

theorem emits_reconcileMonitoring (env : PassEnv) (c : Cluster) :
    (reconcileMonitoring env c).Emits (·.stage = .objects) := by
  unfold reconcileMonitoring
  split
  · refine Act.emits_each fun obj hobj => emits_applyObject ?_
    unfold planMonitoring at hobj
    split at hobj <;> simp at hobj
    subst hobj
    rfl
  · exact Act.emits_pure _

theorem computeReadyAndPhase_res {c : Cluster} {st st' : ClusterStatus}
    (h : (computeReadyAndPhase c st).res = .ok st') :
    st'.upgrade = st.upgrade ∧
      st'.version = (if clusterReady c st && st.upgrade.isNone then c.spec.version else st.version) ∧
      ∀ t, t ≠ .ready → st'.holds t = st.holds t := by
  rw [computeReadyAndPhase, Act.res_bind_eq_ok] at h
  obtain ⟨_, -, h⟩ := h
  obtain rfl := Except.ok.inj h
  refine ⟨rfl, rfl, fun t ht => ?_⟩
  rw [withReady, holds_setCondition, if_neg ht]
  rfl

theorem emits_computeReadyAndPhase (c : Cluster) (st : ClusterStatus) :
    (computeReadyAndPhase c st).Emits (·.stage = .note) := by
  refine Act.emits_bind ?_ fun _ => Act.emits_pure _
  unfold announceReady
  split
  · exact Act.emits_emit rfl
  · exact Act.emits_pure _

end TemporalOperator
