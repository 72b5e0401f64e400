import TemporalOperator.Cluster.Ports
import TemporalOperator.Cluster.Selectors
import TemporalOperator.Lib.ObjectStore
import TemporalOperator.Target
import TemporalOperator.Versions.Listing

/-!
# Objects of a dev server

`api/v1alpha1/temporaldevserver_types.go` and `internal/resources/devserver.go`: a `TemporalDevServer` and the objects
that are built for it. The namespace of the object, which never changes, is a parameter.

* `devServerImage`, `devServerServerVersion` : what is run;
* `buildDevServerPVC`, `buildDevServerService`, `buildDevServerDeployment` : the objects;
* `DevServerWired` : Service, Deployment and arguments fit together; `flagArgs_injective` : the arguments are those of one
  list of settings only.
-/

namespace TemporalOperator
open Lib

/-! ## The resource -/

structure DevServerStorageSpec where
  type : String := ""
  size : Option String := none
  storageClassName : Option String := none
  deriving DecidableEq, Repr

structure ServiceExposureSpec where
  type : String := ""
  annotations : List (String × String) := []
  deriving DecidableEq, Repr

structure TemporalDevServerSpec where
  version : String := ""
  image : String := ""
  imagePullSecrets : List String := []
  namespaces : List String := []
  /-- `ui.enabled`, where `ui` is given. -/
  ui : Option Bool := none
  storage : Option DevServerStorageSpec := none
  service : Option ServiceExposureSpec := none
  resources : String := ""
  nodeSelector : List (String × String) := []
  tolerations : List String := []
  affinity : Option String := none
  workflowRunPolicy : Option WorkflowRunPolicy := none
  deriving DecidableEq, Repr

structure DevServerEndpoints where
  frontend : String := ""
  ui : String := ""
  deriving DecidableEq, Repr

structure TemporalDevServerStatus where
  phase : String := ""
  observedGeneration : Nat := 0
  conditions : List (Condition ConditionType) := []
  endpoints : DevServerEndpoints := {}
  version : String := ""
  deriving DecidableEq, Repr

abbrev TemporalDevServer := Object TemporalDevServerSpec TemporalDevServerStatus

/-- `dev.Spec.UI == nil || dev.Spec.UI.Enabled`. -/
def TemporalDevServerSpec.uiEnabled (spec : TemporalDevServerSpec) : Bool := spec.ui.getD true

/-- `dev.Spec.Storage != nil && dev.Spec.Storage.Type == "Persistent"`. -/
def TemporalDevServerSpec.persistent (spec : TemporalDevServerSpec) : Bool :=
  match spec.storage with
  | some storage => storage.type = "Persistent"
  | none => false

/-- What `resolveTarget` reads of a dev server. -/
def TemporalDevServer.target (ns : String) (dev : TemporalDevServer) : DevServer where
  name := dev.name
  namespace_ := ns
  workflowRunPolicy := dev.spec.workflowRunPolicy
  conditions := dev.status.conditions

/-! ## Versions -/

def devServerCLIVersion (matrix : List VersionInfo) (serverVersion : String) : String :=
  match lookupVersion matrix serverVersion with
  | .ok info => info.devServerCLIVersion
  | .error _ => ""

section Versions
variable (slice : SortSlice) (matrix : List VersionInfo)

def devServerImage (spec : TemporalDevServerSpec) : Except String String :=
  if spec.image ≠ "" then .ok spec.image
  else
    let version := if spec.version = "" then latestSupportedVersion slice matrix else spec.version
    let cli := devServerCLIVersion matrix version
    if cli = "" then
      .error ("unsupported dev server version " ++ GoText.quote version ++ ": not in the supported matrix [" ++
        " ".intercalate (supportedVersionsBy slice matrix) ++ "]")
    else .ok ("temporalio/temporal:" ++ cli)

def devServerServerVersion (spec : TemporalDevServerSpec) : String :=
  if spec.image ≠ "" then ""
  else if spec.version ≠ "" then spec.version
  else latestSupportedVersion slice matrix

end Versions

/-! ## Builders -/

def devServerFrontendPort : Int := 7233

def devServerUIPort : Int := 8233

def devServerDataPath : String := "/data"

def devServerVolumeName : String := "data"

def devServerFrontendServiceName (name : String) : String := name ++ "-devserver"

def devServerPVCName (name : String) : String := name ++ "-devserver-data"

structure PersistentVolumeClaim where
  name : String
  namespace_ : String
  labels : List (String × String)
  accessModes : List String
  storageClassName : Option String
  size : String
  deriving DecidableEq, Repr

inductive DevServerVolumeSource
  | persistentVolumeClaim (claimName : String)
  | emptyDir
  deriving DecidableEq, Repr

inductive DeploymentStrategyType
  | recreate
  | rollingUpdate
  deriving DecidableEq, Repr

structure DevServerPod where
  labels : List (String × String)
  fsGroup : Option Int
  imagePullSecrets : List String
  nodeSelector : List (String × String)
  tolerations : List String
  affinity : Option String
  containers : List Container
  volumes : List (String × DevServerVolumeSource)
  deriving DecidableEq, Repr

structure DevServerDeployment where
  name : String
  namespace_ : String
  labels : List (String × String)
  replicas : Int
  selector : List (String × String)
  strategy : DeploymentStrategyType
  template : DevServerPod
  deriving DecidableEq, Repr

structure DevServerService where
  name : String
  namespace_ : String
  labels : List (String × String)
  annotations : List (String × String)
  type : String
  selector : List (String × String)
  ports : List KubeServicePort
  deriving DecidableEq, Repr

def devServerArgs (spec : TemporalDevServerSpec) : List String :=
  ["server", "start-dev", "--ip", "0.0.0.0", "--port", toString devServerFrontendPort,
      "--db-filename", devServerDataPath ++ "/temporal.db"] ++
    (if spec.uiEnabled then ["--ui-ip", "0.0.0.0", "--ui-port", toString devServerUIPort] else ["--headless"]) ++
    spec.namespaces.flatMap fun ns => ["--namespace", ns]

def devServerVolume (dev : TemporalDevServer) : String × DevServerVolumeSource :=
  (devServerVolumeName,
    if dev.spec.persistent then .persistentVolumeClaim (devServerPVCName dev.name) else .emptyDir)

def devServerContainer (dev : TemporalDevServer) (image : String) : Container where
  name := "temporal"
  image := image
  command := ["temporal"]
  args := devServerArgs dev.spec
  ports := [("grpc", devServerFrontendPort)] ++ if dev.spec.uiEnabled then [("ui", devServerUIPort)] else []
  resources := dev.spec.resources
  readinessProbe := some { handler := .tcpSocket devServerFrontendPort }
  volumeMounts := [{ name := devServerVolumeName, mountPath := devServerDataPath }]

def buildDevServerDeployment (ns : String) (dev : TemporalDevServer) (image : String) : DevServerDeployment where
  name := dev.name
  namespace_ := ns
  labels := devServerLabels dev.name
  replicas := 1
  selector := devServerSelectorLabels dev.name
  -- SQLite cannot be shared across pods
  strategy := .recreate
  template :=
    { labels := devServerLabels dev.name
      fsGroup := some 1000
      imagePullSecrets := dev.spec.imagePullSecrets
      nodeSelector := dev.spec.nodeSelector
      tolerations := dev.spec.tolerations
      affinity := dev.spec.affinity
      containers := [devServerContainer dev image]
      volumes := [devServerVolume dev] }

def buildDevServerService (ns : String) (dev : TemporalDevServer) : DevServerService where
  name := devServerFrontendServiceName dev.name
  namespace_ := ns
  labels := devServerLabels dev.name
  annotations := (dev.spec.service.map ServiceExposureSpec.annotations).getD []
  type :=
    match dev.spec.service with
    | some service => if service.type ≠ "" then service.type else "ClusterIP"
    | none => "ClusterIP"
  selector := devServerSelectorLabels dev.name
  ports := [samePort "grpc" devServerFrontendPort] ++
    if dev.spec.uiEnabled then [samePort "ui" devServerUIPort] else []

def buildDevServerPVC (ns : String) (dev : TemporalDevServer) : Option PersistentVolumeClaim :=
  match dev.spec.storage with
  | some storage =>
    if storage.type = "Persistent" then
      some
        { name := devServerPVCName dev.name
          namespace_ := ns
          labels := devServerLabels dev.name
          accessModes := ["ReadWriteOnce"]
          storageClassName := storage.storageClassName
          size := storage.size.getD "1Gi" }
    else none
  | none => none

def devServerEndpoint (ns : String) (dev : TemporalDevServer) (port : Int) : String :=
  devServerFrontendServiceName dev.name ++ "." ++ ns ++ ".svc:" ++ toString port

/-- The address that `resolveTarget` gives is that of the frontend port. -/
theorem devServerFrontendEndpoint_target (ns : String) (dev : TemporalDevServer) :
    devServerFrontendEndpoint (dev.target ns) = devServerEndpoint ns dev devServerFrontendPort := by
  have hname : "-devserver." = "-devserver" ++ "." := by decide
  have hport : ".svc:7233" = ".svc:" ++ toString devServerFrontendPort := by decide
  change dev.name ++ "-devserver." ++ ns ++ ".svc:7233" = dev.name ++ "-devserver" ++ "." ++ ns ++ ".svc:" ++ _
  rw [hname, hport]
  simp only [String.append_assoc]

theorem buildDevServerPVC_eq_none {ns : String} {dev : TemporalDevServer} (h : buildDevServerPVC ns dev = none) :
    dev.spec.persistent = false := by
  unfold buildDevServerPVC at h
  unfold TemporalDevServerSpec.persistent
  cases hs : dev.spec.storage with
  | none => rfl
  | some storage =>
    rw [hs] at h
    by_cases ht : storage.type = "Persistent"
    · simp [ht] at h
    · exact decide_eq_false ht

theorem buildDevServerPVC_name {ns : String} {dev : TemporalDevServer} {claim : PersistentVolumeClaim}
    (h : buildDevServerPVC ns dev = some claim) : claim.name = devServerPVCName dev.name := by
  unfold buildDevServerPVC at h
  split at h
  · split at h
    · obtain rfl := Option.some.inj h
      rfl
    · cases h
  · cases h

def DevServerDeployment.claims (d : DevServerDeployment) : List String :=
  d.template.volumes.filterMap fun v =>
    match v.2 with
    | .persistentVolumeClaim claimName => some claimName
    | .emptyDir => none

theorem claims_buildDevServerDeployment (ns : String) (dev : TemporalDevServer) (image : String) :
    (buildDevServerDeployment ns dev image).claims =
      if dev.spec.persistent then [devServerPVCName dev.name] else [] := by
  unfold DevServerDeployment.claims buildDevServerDeployment devServerVolume
  split <;> rfl

/-! ## How the objects fit together -/

/-- A flag with its value, as arguments. -/
def flagArgs (setting : String × Option String) : List String := setting.1 :: setting.2.toList

/-- What is asked of the dev server by its command line. -/
def devServerSettings (spec : TemporalDevServerSpec) : List (String × Option String) :=
  [("--ip", some "0.0.0.0"), ("--port", some (toString devServerFrontendPort)),
    ("--db-filename", some (devServerDataPath ++ "/temporal.db"))] ++
    (if spec.uiEnabled then [("--ui-ip", some "0.0.0.0"), ("--ui-port", some (toString devServerUIPort))]
      else [("--headless", none)]) ++
    spec.namespaces.map fun ns => ("--namespace", some ns)

theorem devServerArgs_eq (spec : TemporalDevServerSpec) :
    devServerArgs spec = ["server", "start-dev"] ++ (devServerSettings spec).flatMap flagArgs := by
  unfold devServerArgs devServerSettings
  rw [List.flatMap_append, List.flatMap_append, List.flatMap_map]
  cases spec.uiEnabled <;> rfl

/-- The Service, the Deployment and the command line of a dev server agree. -/
structure DevServerWired (spec : TemporalDevServerSpec) (svc : DevServerService) (dep : DevServerDeployment)
    (settings : List (String × Option String)) : Prop where
  /-- The containers are started with these settings. -/
  started : ∀ c ∈ dep.template.containers, c.args = ["server", "start-dev"] ++ settings.flatMap flagArgs
  /-- One flag has no value, so that the arguments are the writing of no other settings. -/
  valued : ∀ s ∈ settings, s.2 = none ↔ s.1 = "--headless"
  /-- The Service and the Deployment select the pods. -/
  selects : Selects svc.selector dep.template.labels ∧ Selects dep.selector dep.template.labels
  /-- Every port of the Service is one of a container that is told to listen there, for gRPC or for the UI. -/
  listens : ∀ p ∈ svc.ports, ∃ c ∈ dep.template.containers, (p.name, p.targetPort) ∈ c.ports ∧
    (p.name = "grpc" ∧ ("--port", some (toString p.targetPort)) ∈ settings ∨
      p.name = "ui" ∧ ("--ui-port", some (toString p.targetPort)) ∈ settings)
  /-- The UI has a port exactly when it is served. -/
  ui : (∃ p ∈ svc.ports, p.name = "ui") ↔ ("--headless", none) ∉ settings
  /-- A pod is ready when its frontend port is open. -/
  probed : ∀ c ∈ dep.template.containers, ∃ probe, c.readinessProbe = some probe ∧
    ∀ p ∈ svc.ports, p.name = "grpc" → probe.handler = .tcpSocket p.targetPort
  /-- The database is on the volume. -/
  stored : ∃ c ∈ dep.template.containers, ∃ m ∈ c.volumeMounts, m.name ∈ dep.template.volumes.map Prod.fst ∧
    ("--db-filename", some (m.mountPath ++ "/temporal.db")) ∈ settings
  /-- The namespaces are those of the spec, in their order. -/
  namespaces : (settings.filter fun s => s.1 = "--namespace").map Prod.snd = spec.namespaces.map some

/-- Settings in which only `--headless` has no value are read off their writing. -/
theorem flagArgs_injective {settings settings' : List (String × Option String)}
    (hvalued : ∀ s ∈ settings, s.2 = none ↔ s.1 = "--headless")
    (hvalued' : ∀ s ∈ settings', s.2 = none ↔ s.1 = "--headless")
    (h : settings.flatMap flagArgs = settings'.flatMap flagArgs) : settings = settings' := by
  induction settings generalizing settings' with
  | nil =>
    cases settings' with
    | nil => rfl
    | cons s' settings' => cases h
  | cons s settings ih =>
    cases settings' with
    | nil => cases h
    | cons s' settings' =>
      obtain ⟨flag, value⟩ := s
      obtain ⟨flag', value'⟩ := s'
      rw [List.forall_mem_cons] at hvalued hvalued'
      simp only [List.flatMap_cons, flagArgs, List.cons_append, List.cons.injEq] at h
      obtain ⟨rfl, h⟩ := h
      -- both flags stand alone, or both take the next argument
      have hnone : value = none ↔ value' = none := hvalued.1.trans hvalued'.1.symm
      cases value with
      | none =>
        obtain rfl := hnone.mp rfl
        rw [ih hvalued.2 hvalued'.2 h]
      | some v =>
        cases value' with
        | none => cases hnone.mpr rfl
        | some v' =>
          simp only [Option.toList_some, List.cons_append, List.nil_append, List.cons.injEq] at h
          rw [h.1, ih hvalued.2 hvalued'.2 h.2]

theorem selects_devServer (name : String) : Selects (devServerSelectorLabels name) (devServerLabels name) :=
  Selects.setLabel (selects_self (by simp [devServerSelectorLabels])) (by simp [devServerSelectorLabels]) _

theorem devServerSettings_namespaces (spec : TemporalDevServerSpec) :
    ((devServerSettings spec).filter fun s => s.1 = "--namespace").map Prod.snd = spec.namespaces.map some := by
  have hnamespaces : ∀ namespaces : List String,
      ((namespaces.map fun ns => ("--namespace", some ns)).filter fun s => s.1 = "--namespace").map Prod.snd =
        namespaces.map some := by
    intro namespaces
    rw [List.filter_eq_self.mpr (by simp), List.map_map]
    rfl
  unfold devServerSettings
  rw [List.filter_append, List.map_append, hnamespaces]
  cases spec.uiEnabled <;> rfl

theorem devServerSettings_valued (spec : TemporalDevServerSpec) :
    ∀ s ∈ devServerSettings spec, s.2 = none ↔ s.1 = "--headless" := by
  have hnamespaces : ∀ s ∈ spec.namespaces.map fun ns => ("--namespace", some ns), s.2 = none ↔ s.1 = "--headless" := by
    simp
  unfold devServerSettings
  rw [List.forall_mem_append]
  refine ⟨?_, hnamespaces⟩
  cases spec.uiEnabled <;> simp

theorem headless_mem_devServerSettings (spec : TemporalDevServerSpec) :
    ("--headless", none) ∈ devServerSettings spec ↔ spec.uiEnabled = false := by
  unfold devServerSettings
  cases spec.uiEnabled <;> simp

theorem mem_devServerPorts {ns : String} {dev : TemporalDevServer} {p : KubeServicePort} :
    p ∈ (buildDevServerService ns dev).ports ↔
      p = samePort "grpc" devServerFrontendPort ∨ dev.spec.uiEnabled = true ∧ p = samePort "ui" devServerUIPort := by
  unfold buildDevServerService
  cases dev.spec.uiEnabled <;> simp

theorem devServerWired_built (ns : String) (dev : TemporalDevServer) (image : String) :
    DevServerWired dev.spec (buildDevServerService ns dev) (buildDevServerDeployment ns dev image)
      (devServerSettings dev.spec) where
  started c hc := by
    obtain rfl := List.mem_singleton.mp hc
    exact devServerArgs_eq dev.spec
  valued := devServerSettings_valued dev.spec
  selects := ⟨selects_devServer dev.name, selects_devServer dev.name⟩
  listens p hp := by
    refine ⟨_, List.mem_singleton_self _, ?_⟩
    unfold devServerContainer devServerSettings
    rcases mem_devServerPorts.mp hp with rfl | ⟨hui, rfl⟩
    · simp [samePort]
    · simp [samePort, hui]
  ui := by
    rw [headless_mem_devServerSettings, Bool.not_eq_false]
    constructor
    · rintro ⟨p, hp, hname⟩
      rcases mem_devServerPorts.mp hp with rfl | ⟨hui, -⟩
      · exact absurd hname (by decide)
      · exact hui
    · intro hui
      exact ⟨_, mem_devServerPorts.mpr (.inr ⟨hui, rfl⟩), rfl⟩
  probed c hc := by
    obtain rfl := List.mem_singleton.mp hc
    refine ⟨_, rfl, fun p hp hname => ?_⟩
    rcases mem_devServerPorts.mp hp with rfl | ⟨-, rfl⟩
    · rfl
    · exact absurd hname (by decide)
  stored := by
    refine ⟨_, List.mem_singleton_self _, _, List.mem_singleton_self _, List.mem_singleton_self _, ?_⟩
    simp [devServerSettings]
  namespaces := devServerSettings_namespaces dev.spec

end TemporalOperator
