import TemporalOperator.Cluster.Environment

/-!
# Built objects

`internal/resources/{services,deployment,labels,azureidentity}.go`: the enabled services, the Deployment of a service, the
Azure wiring of its pods. The strategic merge of an override is the environment's.

* `generatedTemplate` : the pod template of a service before the overrides; `applyPodTemplate` : one override;
* `buildDeployment` : the Deployment a pass builds for a service; `wiredTemplate` : its template as it is applied.
-/

namespace TemporalOperator
open Lib Persistence

/-! ## Services -/

structure ServiceInfo where
  name : Service
  spec : Option ServiceSpec
  deriving DecidableEq, Repr

def internalFrontendEnabled (spec : ClusterSpec) : Bool :=
  match spec.services.internalFrontend with
  | some f => f.enabled
  | none => false

def enabledServices (spec : ClusterSpec) : List ServiceInfo :=
  let svcs := spec.services
  let core : List ServiceInfo :=
    [⟨.frontend, svcs.frontend⟩, ⟨.history, svcs.history⟩, ⟨.matching, svcs.matching⟩, ⟨.worker, svcs.worker⟩]
  match svcs.internalFrontend with
  | some f =>
    if f.enabled then
      core ++ [⟨.internalFrontend, f.replicas.map fun r => { replicas := some r, resources := f.resources }⟩]
    else core
  | none => core

def Enabled (spec : ClusterSpec) (s : Service) : Prop := s ∈ (enabledServices spec).map ServiceInfo.name

instance (spec : ClusterSpec) (s : Service) : Decidable (Enabled spec s) :=
  inferInstanceAs (Decidable (s ∈ _))

theorem enabled_iff (spec : ClusterSpec) (s : Service) :
    Enabled spec s ↔ s ≠ .internalFrontend ∨ internalFrontendEnabled spec = true := by
  unfold Enabled enabledServices internalFrontendEnabled
  cases hf : spec.services.internalFrontend with
  | none => cases s <;> simp [hf]
  | some f => cases he : f.enabled <;> cases s <;> simp [hf, he]

theorem enabledServices_nodup (spec : ClusterSpec) : ((enabledServices spec).map ServiceInfo.name).Nodup := by
  unfold enabledServices
  cases hf : spec.services.internalFrontend with
  | none => simp [hf]
  | some f => cases he : f.enabled <;> simp [hf, he]

theorem enabledServices_unique {spec : ClusterSpec} {svc svc' : ServiceInfo} (h : svc ∈ enabledServices spec)
    (h' : svc' ∈ enabledServices spec) (hname : svc.name = svc'.name) : svc = svc' :=
  List.inj_on_of_nodup_map (enabledServices_nodup spec) h h' hname

/-! ## Labels and templates -/

def labelVersion : String := "temporal.bmor10.com/version"

def serverContainerName : String := "temporal"

def schemaContainerName : String := "schema"

def setLabel (m : List (String × String)) (kv : String × String) : List (String × String) :=
  match m with
  | [] => [kv]
  | e :: es => if e.1 = kv.1 then kv :: es else e :: setLabel es kv

def setLabels (m labels : List (String × String)) : List (String × String) := labels.foldl setLabel m

theorem lookup_cons_eq {β : Type} (key : String) (value : β) (m : List (String × β)) (k : String) :
    List.lookup k ((key, value) :: m) = if k = key then some value else m.lookup k := by
  rw [List.lookup_cons]
  by_cases hk : k = key
  · simp [hk]
  · rw [beq_eq_false_iff_ne.mpr hk, if_neg hk]

theorem lookup_of_mem {β : Type} {m : List (String × β)} (hm : (m.map Prod.fst).Nodup) {kv : String × β} (h : kv ∈ m) :
    m.lookup kv.1 = some kv.2 := by
  induction m with
  | nil => cases h
  | cons e es ih =>
    obtain ⟨key, value⟩ := e
    rw [List.map_cons, List.nodup_cons] at hm
    rw [lookup_cons_eq]
    rcases List.mem_cons.mp h with rfl | h
    · rw [if_pos rfl]
    · have hne : kv.1 ≠ key := fun hk => hm.1 (List.mem_map.mpr ⟨kv, h, hk⟩)
      rw [if_neg hne, ih hm.2 h]

theorem lookup_reverse_of_mem {β : Type} {m : List (String × β)} (hm : (m.map Prod.fst).Nodup) {kv : String × β}
    (h : kv ∈ m) : m.reverse.lookup kv.1 = some kv.2 := by
  refine lookup_of_mem ?_ (List.mem_reverse.mpr h)
  rw [List.map_reverse]
  exact List.nodup_reverse.mpr hm

theorem lookup_setLabel (m : List (String × String)) (key value k : String) :
    (setLabel m (key, value)).lookup k = if k = key then some value else m.lookup k := by
  induction m with
  | nil => exact lookup_cons_eq key value [] k
  | cons e es ih =>
    obtain ⟨key', value'⟩ := e
    by_cases he : key' = key
    · subst he
      simp only [setLabel, if_pos, lookup_cons_eq]
      split <;> rfl
    · simp only [setLabel, if_neg he, lookup_cons_eq, ih]
      by_cases hk : k = key'
      · rw [if_pos hk, if_neg (hk ▸ he), if_pos hk]
      · rw [if_neg hk, if_neg hk]

theorem lookup_setLabels (m labels : List (String × String)) (k : String) :
    (setLabels m labels).lookup k = (labels.reverse.lookup k).or (m.lookup k) := by
  induction labels generalizing m with
  | nil => simp [setLabels]
  | cons e es ih =>
    obtain ⟨key, value⟩ := e
    rw [setLabels, List.foldl_cons, ← setLabels, ih, lookup_setLabel, List.reverse_cons, List.lookup_append,
      Option.or_assoc, lookup_cons_eq]
    by_cases hk : k = key
    · simp [hk]
    · simp [hk]

/-- `SelectorLabels`, which reads only the cluster's name. -/
def clusterSelector (owner component : String) : List (String × String) :=
  [("app.kubernetes.io/name", "temporal"), ("app.kubernetes.io/instance", owner),
    ("app.kubernetes.io/component", component), ("temporal.bmor10.com/cluster", owner)]

def selectorLabels (c : Cluster) (component : String) : List (String × String) := clusterSelector c.name component

def standardLabels (c : Cluster) (component : String) : List (String × String) :=
  let labels := setLabel (selectorLabels c component) ("app.kubernetes.io/managed-by", "temporal-operator")
  if c.spec.version ≠ "" then setLabel labels (labelVersion, c.spec.version) else labels

def applyPodTemplate (env : PassEnv) (tmpl : PodTemplate) (override : Option PodTemplateOverride)
    (selector : List (String × String)) : Except GoErr PodTemplate :=
  match override with
  | none => .ok tmpl
  | some o => do
    let spec ← match o.spec with
      | some raw =>
        if raw = "" then pure tmpl.spec
        else (env.merge tmpl.spec raw).mapError MergeErr.wrapped
      | none => pure tmpl.spec
    return {
      labels := setLabels (setLabels tmpl.labels o.labels) selector
      spec := spec
      annotations := setLabels tmpl.annotations o.annotations }

/-- The template an override leaves: its labels and annotations, and the spec of the template or what the patch made of
it. -/
theorem applyPodTemplate_eq_ok {env : PassEnv} {tmpl t : PodTemplate} {o : PodTemplateOverride}
    {selector : List (String × String)} (h : applyPodTemplate env tmpl (some o) selector = .ok t) :
    t.labels = setLabels (setLabels tmpl.labels o.labels) selector ∧
      t.annotations = setLabels tmpl.annotations o.annotations ∧
      (t.spec = tmpl.spec ∧ (∀ raw, o.spec = some raw → raw = "") ∨
        ∃ raw, o.spec = some raw ∧ raw ≠ "" ∧ env.merge tmpl.spec raw = .ok t.spec) := by
  unfold applyPodTemplate at h
  cases hs : o.spec with
  | none =>
    simp only [hs, bind, Except.bind, pure, Except.pure, Except.ok.injEq] at h
    subst h
    exact ⟨rfl, rfl, .inl ⟨rfl, by simp⟩⟩
  | some raw =>
    by_cases hraw : raw = ""
    · simp only [hs, hraw, if_pos, bind, Except.bind, pure, Except.pure, Except.ok.injEq] at h
      subst h
      exact ⟨rfl, rfl, .inl ⟨rfl, by simp [hraw]⟩⟩
    · cases hmerge : env.merge tmpl.spec raw with
      | error e => simp [hs, hraw, hmerge, bind, Except.bind, Except.mapError] at h
      | ok spec' =>
        simp only [hs, if_neg hraw, hmerge, Except.mapError, bind, Except.bind, pure, Except.pure,
          Except.ok.injEq] at h
        subst h
        exact ⟨rfl, rfl, .inr ⟨raw, rfl, hraw, hmerge⟩⟩

/-! ## Deployments -/

def serverImage (spec : ClusterSpec) (version : String) : String :=
  if spec.image ≠ "" ∧ ¬ isDefaultServerImage spec.image then spec.image
  else serverImageOf (if version = "" then spec.version else version)

/-- `temporal.DefaultServicePorts()[name]`, a table of its own beside that of the config. -/
def servicePort : Service → Config.ServicePort
  | .frontend => { grpcPort := 7233, membershipPort := 6933, httpPort := 7243 }
  | .internalFrontend => { grpcPort := 7236, membershipPort := 6936, httpPort := 7246 }
  | .matching => { grpcPort := 7235, membershipPort := 6935 }
  | .history => { grpcPort := 7234, membershipPort := 6934 }
  | .worker => { grpcPort := 7239, membershipPort := 6939 }

/-- `HasHTTP` of a service; the same services mount the frontend certificate. -/
def servesFrontend : Service → Bool
  | .frontend | .internalFrontend => true
  | _ => false

def metricsPort : Int := 9090

def containerPorts (s : Service) : List (String × Int) :=
  let ports := servicePort s
  [("grpc", ports.grpcPort), ("membership", ports.membershipPort), ("metrics", metricsPort)] ++
    if servesFrontend s && ports.httpPort ≠ 0 then [("http", ports.httpPort)] else []

/-- With mTLS the gRPC prober has no client certificate, so that a TCP probe takes its place. -/
def serviceProbe (port : Int) (mtlsEnabled : Bool) : Probe :=
  { handler := if mtlsEnabled then .tcpSocket port else .grpc port }

/-- What a pass computes for all services before it builds their Deployments. -/
structure TemplateInputs where
  configHash : String := ""
  dynamicConfigHash : String := ""
  mtls : Option MTLSMounts := none
  deriving DecidableEq, Repr

/-- `mtls != nil && mtls.Enabled`. -/
def TemplateInputs.mounts (i : TemplateInputs) : Option MTLSMounts := i.mtls.filter (·.enabled)

def configHashAnnotationKey : String := "temporal.bmor10.com/config-hash"

def dynamicConfigHashAnnotationKey : String := "temporal.bmor10.com/dynamicconfig-hash"

def certHashAnnotationKey : String := "temporal.bmor10.com/cert-hash"

/-- The annotation for the certificates, which is left out when there is no hash. -/
def TemplateInputs.certAnnotationValue (i : TemplateInputs) : Option String :=
  (i.mounts.map MTLSMounts.certHash).filter (· ≠ "")

def podAnnotations (i : TemplateInputs) : List (String × String) :=
  [(configHashAnnotationKey, i.configHash), (dynamicConfigHashAnnotationKey, i.dynamicConfigHash)] ++
    (i.certAnnotationValue.map fun hash => (certHashAnnotationKey, hash)).toList

def certMounts (s : Service) : List VolumeMount :=
  [{ name := "internode-certs", mountPath := Config.internodeCertDir, readOnly := true }] ++
    if servesFrontend s then [{ name := "frontend-certs", mountPath := Config.frontendCertDir, readOnly := true }]
    else []

def certVolumes (s : Service) (m : MTLSMounts) : List Volume :=
  [{ name := "internode-certs", source := .secret m.internodeSecret }] ++
    if servesFrontend s then [{ name := "frontend-certs", source := .secret m.frontendSecret }] else []

/-- The loader of the config does not replace the pod's address, so that a shell does it on a copy. -/
def serverScript (s : Service) : String :=
  "cp -r /etc/temporal/config /tmp/temporal/temporal-config && " ++
    "sed -i \"s/\\$\x7bPOD_IP\x7d/$POD_IP/g\" /tmp/temporal/temporal-config/*.yaml && " ++
    "exec temporal-server " ++
    "--root /tmp/temporal --config temporal-config --env config " ++
    "start --service " ++ s.name

/-- A probe of the container, which the worker does not have. -/
def probeOf (s : Service) (probe : Probe) : Option Probe := if s = .worker then none else some probe

def serverContainer (c : Cluster) (svc : ServiceInfo) (i : TemplateInputs) (version : String) : Container :=
  let probe := serviceProbe (servicePort svc.name).grpcPort i.mounts.isSome
  { name := serverContainerName
    image := serverImage c.spec version
    command := ["/bin/sh", "-c"]
    args := [serverScript svc.name]
    env := [("POD_IP", .fieldRef "status.podIP")]
    ports := containerPorts svc.name
    resources := (svc.spec.map ServiceSpec.resources).getD ""
    volumeMounts :=
      [{ name := "config", mountPath := "/etc/temporal/config", readOnly := true },
        { name := "dynamicconfig", mountPath := "/etc/temporal/dynamicconfig", readOnly := true },
        { name := "processed-config", mountPath := "/tmp/temporal" }] ++
      if i.mounts.isSome then certMounts svc.name else []
    livenessProbe := probeOf svc.name probe
    readinessProbe := probeOf svc.name { probe with timeoutSeconds := 3 }
    startupProbe := probeOf svc.name { probe with failureThreshold := 30, periodSeconds := 5 } }

def serverVolumes (c : Cluster) (svc : ServiceInfo) (i : TemplateInputs) : List Volume :=
  [{ name := "config", source := .secret (configSecretName c.name) },
    { name := "dynamicconfig", source := .configMap (dynamicConfigMapName c.name) },
    { name := "processed-config", source := .emptyDir }] ++
  match i.mounts with
  | some m => certVolumes svc.name m
  | none => []

def topologySpread (c : Cluster) (svc : ServiceInfo) : TopologySpread :=
  match (svc.spec.map ServiceSpec.topologySpreadConstraints).getD [] with
  | [] => .byZone (selectorLabels c svc.name.name)
  | constraints => .given constraints

def generatedTemplate (c : Cluster) (svc : ServiceInfo) (i : TemplateInputs) (version : String) : PodTemplate :=
  { labels :=
      if version ≠ "" then setLabel (standardLabels c svc.name.name) (labelVersion, version)
      else standardLabels c svc.name.name
    annotations := podAnnotations i
    spec :=
      { imagePullSecrets := c.spec.imagePullSecrets
        nodeSelector := (svc.spec.map ServiceSpec.nodeSelector).getD []
        tolerations := (svc.spec.map ServiceSpec.tolerations).getD []
        affinity := svc.spec.bind ServiceSpec.affinity
        topologySpread := topologySpread c svc
        containers := [serverContainer c svc i version]
        volumes := serverVolumes c svc i } }

/-- `BuildDeployment` on given inputs. -/
def buildDeploymentFrom (env : PassEnv) (c : Cluster) (svc : ServiceInfo) (i : TemplateInputs) (version : String) :
    Except GoErr Deployment := do
  let selector := selectorLabels c svc.name.name
  let shared ← (applyPodTemplate env (generatedTemplate c svc i version) (c.spec.services.overrides.bind id)
    selector).mapError fun e => e.wrap ("applying shared podTemplate for " ++ svc.name.name)
  let own ← (applyPodTemplate env shared (svc.spec.bind ServiceSpec.podTemplate) selector).mapError fun e =>
    e.wrap ("applying podTemplate for " ++ svc.name.name)
  return { replicas := some ((svc.spec.bind ServiceSpec.replicas).getD 1), selector := selector, template := own }

/-- The hashes and mounts of a pass, once its config is rendered; a hash of the dynamic config is never computed. -/
def templateInputs (env : PassEnv) (c : Cluster) : TemplateInputs :=
  { configHash := env.hash ((renderConfig env c).toOption.elim "" RenderedConfig.config), mtls := mtlsMounts env c }

theorem templateInputs_mounts (env : PassEnv) (c : Cluster) : (templateInputs env c).mounts = mtlsMounts env c := by
  change (mtlsMounts env c).filter (·.enabled) = mtlsMounts env c
  unfold mtlsMounts
  split <;> rfl

def buildDeployment (env : PassEnv) (c : Cluster) (svc : ServiceInfo) (version : String) : Except GoErr Deployment :=
  buildDeploymentFrom env c svc (templateInputs env c) version

def sharedOverride (spec : ClusterSpec) : Option PodTemplateOverride := spec.services.overrides.bind id

theorem buildDeploymentFrom_eq_ok {env : PassEnv} {c : Cluster} {svc : ServiceInfo} {i : TemplateInputs}
    {version : String} {dep : Deployment} (h : buildDeploymentFrom env c svc i version = .ok dep) :
    ∃ shared, applyPodTemplate env (generatedTemplate c svc i version) (sharedOverride c.spec)
        (selectorLabels c svc.name.name) = .ok shared ∧
      applyPodTemplate env shared (svc.spec.bind ServiceSpec.podTemplate) (selectorLabels c svc.name.name) =
        .ok dep.template ∧
      dep =
        { replicas := some ((svc.spec.bind ServiceSpec.replicas).getD 1)
          selector := selectorLabels c svc.name.name
          template := dep.template } := by
  change (applyPodTemplate env (generatedTemplate c svc i version) (sharedOverride c.spec)
    (selectorLabels c svc.name.name)).mapError _ >>= _ = _ at h
  cases hshared : applyPodTemplate env (generatedTemplate c svc i version) (sharedOverride c.spec)
      (selectorLabels c svc.name.name) with
  | error e =>
    rw [hshared] at h
    cases h
  | ok shared =>
    refine ⟨shared, rfl, ?_⟩
    simp only [hshared, Except.mapError, bind, Except.bind] at h
    cases hown : applyPodTemplate env shared (svc.spec.bind ServiceSpec.podTemplate)
        (selectorLabels c svc.name.name) with
    | error e =>
      rw [hown] at h
      cases h
    | ok own =>
      rw [hown] at h
      obtain rfl := Except.ok.inj h
      exact ⟨rfl, rfl⟩

theorem buildDeployment_eq_ok {env : PassEnv} {c : Cluster} {svc : ServiceInfo} {version : String} {dep : Deployment}
    (h : buildDeployment env c svc version = .ok dep) :
    ∃ shared, applyPodTemplate env (generatedTemplate c svc (templateInputs env c) version) (sharedOverride c.spec)
        (selectorLabels c svc.name.name) = .ok shared ∧
      applyPodTemplate env shared (svc.spec.bind ServiceSpec.podTemplate) (selectorLabels c svc.name.name) =
        .ok dep.template ∧
      dep =
        { replicas := some ((svc.spec.bind ServiceSpec.replicas).getD 1)
          selector := selectorLabels c svc.name.name
          template := dep.template } :=
  buildDeploymentFrom_eq_ok h

def containerRunsImage (containers : List Container) (name image : String) : Bool :=
  match containers.find? fun c => c.name = name with
  | some c => c.image = image
  | none => false

def deploymentRunsImage (dep : Deployment) (image : String) : Bool :=
  containerRunsImage dep.template.spec.containers serverContainerName image

/-! ## Azure Workload Identity -/

def defaultAzureCLIImage : String := "mcr.microsoft.com/azure-cli:2.87.0"

def defaultAzureScope : String := "https://ossrdbms-aad.database.windows.net/.default"

/-- The parts the scripts of both token containers share. -/
def azureLogin : String :=
  "set -e\naz login --service-principal \\\n  -u \"$AZURE_CLIENT_ID\" \\\n  --tenant \"$AZURE_TENANT_ID\" \\\n" ++
    "  --federated-token \"$(cat \"$AZURE_FEDERATED_TOKEN_FILE\")\" \\\n  --allow-no-subscriptions\n"

def azureScope (wi : AzureWorkloadIdentitySpec) : String := if wi.scope ≠ "" then wi.scope else defaultAzureScope

def azureTokenContainer (wi : AzureWorkloadIdentitySpec) (name script : String) : Container :=
  { name := name
    image := if wi.image ≠ "" then wi.image else defaultAzureCLIImage
    command := ["/bin/sh", "-c"]
    args := [script]
    volumeMounts := [{ name := "azure-token", mountPath := "/azure" }] }

def azureTokenInitContainer (wi : AzureWorkloadIdentitySpec) : Container :=
  azureTokenContainer wi "azure-token" (azureLogin ++
    "az account get-access-token --scope " ++ azureScope wi ++ " \\\n  --query accessToken -o tsv > /azure/pgpass")

def azureTokenRefresherSidecar (wi : AzureWorkloadIdentitySpec) : Container :=
  let seconds : Int := match wi.refreshInterval with
    | some d => d.tdiv 1000000000
    | none => 1800
  azureTokenContainer wi "azure-token-refresher" (azureLogin ++
    "while true; do\n  az account get-access-token --scope " ++ azureScope wi ++
    " \\\n    --query accessToken -o tsv > /azure/pgpass.tmp\n  mv /azure/pgpass.tmp /azure/pgpass\n  sleep " ++
    toString seconds ++ "\ndone")

def ensureNamedContainer (containers : List Container) (container : Container) : List Container :=
  if containers.any (·.name = container.name) then containers else containers ++ [container]

def ensureAzureTokenVolume (volumes : List Volume) : List Volume :=
  if volumes.any (·.name = "azure-token") then volumes
  else volumes ++ [{ name := "azure-token", source := .emptyDir }]

def withAzureTokenMount (c : Container) : Container :=
  if c.volumeMounts.any (·.name = "azure-token") then c
  else { c with volumeMounts := c.volumeMounts ++ [{ name := "azure-token", mountPath := "/azure" }] }

/-- The first container called `name` gets the token mount, unless it has one. -/
def ensureAzureTokenMount (name : String) : List Container → List Container
  | [] => []
  | c :: cs => if c.name = name then withAzureTokenMount c :: cs else c :: ensureAzureTokenMount name cs

def azureServiceAccountName (c : Cluster) : String :=
  match c.spec.persistence.azureWorkloadIdentity with
  | some wi => if wi.serviceAccountName ≠ "" then wi.serviceAccountName else c.name ++ "-azure"
  | none => c.name ++ "-azure"

def applyAzureTokenBase (c : Cluster) (tmpl : PodTemplate) (mainContainer : String) : PodTemplate :=
  { tmpl with
    labels := setLabel tmpl.labels ("azure.workload.identity/use", "true")
    spec := { tmpl.spec with
      serviceAccountName := azureServiceAccountName c
      volumes := ensureAzureTokenVolume tmpl.spec.volumes
      containers := ensureAzureTokenMount mainContainer tmpl.spec.containers } }

def applyAzureServerWorkloadIdentity (c : Cluster) (wi : AzureWorkloadIdentitySpec) (tmpl : PodTemplate) :
    PodTemplate :=
  let base := applyAzureTokenBase c tmpl serverContainerName
  { base with
    spec := { base.spec with
      containers := ensureNamedContainer base.spec.containers (azureTokenRefresherSidecar wi)
      initContainers := ensureNamedContainer base.spec.initContainers (azureTokenInitContainer wi) } }

def applyAzureSchemaWorkloadIdentity (c : Cluster) (wi : AzureWorkloadIdentitySpec) (tmpl : PodTemplate)
    (mainContainer : String) : PodTemplate :=
  let base := applyAzureTokenBase c tmpl mainContainer
  { base with
    spec := { base.spec with
      initContainers := ensureNamedContainer base.spec.initContainers (azureTokenInitContainer wi) } }

def wiredTemplate (c : Cluster) (tmpl : PodTemplate) : PodTemplate :=
  match c.spec.persistence.azureWorkloadIdentity with
  | some wi => applyAzureServerWorkloadIdentity c wi tmpl
  | none => tmpl

@[simp] theorem withAzureTokenMount_name (c : Container) : (withAzureTokenMount c).name = c.name := by
  unfold withAzureTokenMount
  split <;> rfl

@[simp] theorem withAzureTokenMount_image (c : Container) : (withAzureTokenMount c).image = c.image := by
  unfold withAzureTokenMount
  split <;> rfl

theorem find?_ensureAzureTokenMount (name : String) (cs : List Container) :
    (ensureAzureTokenMount name cs).find? (fun c => c.name = name) =
      (cs.find? fun c => c.name = name).map withAzureTokenMount := by
  induction cs with
  | nil => rfl
  | cons c cs ih =>
    unfold ensureAzureTokenMount
    by_cases hc : c.name = name
    · simp [hc]
    · simp [hc, ih]

theorem find?_ensureNamedContainer {cs : List Container} {container : Container} {name : String}
    (h : container.name ≠ name) :
    (ensureNamedContainer cs container).find? (fun c => c.name = name) = cs.find? fun c => c.name = name := by
  unfold ensureNamedContainer
  split
  · rfl
  · simp [List.find?_append, h]

theorem wiredTemplate_server (c : Cluster) (tmpl : PodTemplate) :
    (wiredTemplate c tmpl).spec.containers.find? (fun k => k.name = serverContainerName) =
      (tmpl.spec.containers.find? fun k => k.name = serverContainerName).map
        (if azureWorkloadIdentityEnabled c.spec then withAzureTokenMount else id) := by
  unfold wiredTemplate azureWorkloadIdentityEnabled
  cases c.spec.persistence.azureWorkloadIdentity with
  | none => simp
  | some wi =>
    have hname : (azureTokenRefresherSidecar wi).name ≠ serverContainerName := by
      change "azure-token-refresher" ≠ serverContainerName
      decide
    simp [applyAzureServerWorkloadIdentity, applyAzureTokenBase, find?_ensureNamedContainer hname,
      find?_ensureAzureTokenMount]

def wireAzure (c : Cluster) : Planned → Planned
  | .deployment s v d => .deployment s v { d with template := wiredTemplate c d.template }
  | obj => obj

theorem wireAzure_eq_deployment {c : Cluster} {obj : Planned} {s : Service} {v : String} {d : Deployment}
    (h : wireAzure c obj = .deployment s v d) :
    ∃ d', obj = .deployment s v d' ∧ d = { d' with template := wiredTemplate c d'.template } := by
  cases obj with
  | deployment s' v' d' =>
    obtain ⟨rfl, rfl, rfl⟩ := Planned.deployment.inj h
    exact ⟨d', rfl, rfl⟩
  | _ => cases h

end TemporalOperator
