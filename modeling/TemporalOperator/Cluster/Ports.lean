import TemporalOperator.Cluster.Overrides
import TemporalOperator.Cluster.Runs
import TemporalOperator.Config.Tree

/-!
# Ports

The ports of a service stand in the rendered config, on its container, in its probes and on the Services in front of
it. The config takes them from `defaultServices` and the metrics port from the spec, the builders of
`internal/resources` take them from `DefaultServicePorts` and a constant.

* `Listens` : the rendered config makes a service listen on a port;
* `buildHeadlessService`, `buildFrontendService` : the Services;
* `PortsAgree` : all of them name the ports of the config (`ports_agree_iff`).
-/

namespace TemporalOperator
open Lib Lib.Yaml

/-! ## Services -/

structure KubeServicePort where
  name : String
  port : Int
  targetPort : Int
  deriving DecidableEq, Repr

inductive KubeServiceType
  | clusterIP
  | headless
  deriving DecidableEq, Repr

structure KubeService where
  name : String
  namespace_ : String
  labels : List (String × String)
  type : KubeServiceType
  publishNotReadyAddresses : Bool := false
  selector : List (String × String)
  ports : List KubeServicePort
  deriving DecidableEq, Repr

/-- A port that is passed on under its own number. -/
def samePort (name : String) (port : Int) : KubeServicePort := { name, port, targetPort := port }

def buildHeadlessService (c : Cluster) (svc : ServiceInfo) : KubeService :=
  let ports := servicePort svc.name
  { name := headlessServiceName c.name svc.name.name
    namespace_ := c.namespace_
    labels := standardLabels c svc.name.name
    type := .headless
    publishNotReadyAddresses := true
    selector := selectorLabels c svc.name.name
    ports :=
      [samePort "grpc" ports.grpcPort, samePort "membership" ports.membershipPort, samePort "metrics" metricsPort] }

def buildFrontendService (c : Cluster) (frontend : ServiceInfo) : KubeService :=
  let ports := servicePort frontend.name
  { name := frontendServiceName c.name
    namespace_ := c.namespace_
    labels := standardLabels c Service.frontend.name
    type := .clusterIP
    selector := selectorLabels c Service.frontend.name
    ports := [samePort "grpc" ports.grpcPort] ++
      if ports.httpPort ≠ 0 then [samePort "http" ports.httpPort] else [] }

/-! ## The config -/

inductive PortName
  | grpc
  | membership
  | http
  | metrics
  deriving DecidableEq, Repr

def PortName.text : PortName → String
  | .grpc => "grpc"
  | .membership => "membership"
  | .http => "http"
  | .metrics => "metrics"

def PortName.path (s : Service) : PortName → List String
  | .grpc => ["services", s.name, "rpc", "grpcPort"]
  | .membership => ["services", s.name, "rpc", "membershipPort"]
  | .http => ["services", s.name, "rpc", "httpPort"]
  | .metrics => ["global", "metrics", "prometheus", "listenAddress"]

/-- The metrics are served on an address, the rest on a port of the address that `bindOnIP` gives. -/
def PortName.node (port : Int) : PortName → Node
  | .metrics => Config.text ("0.0.0.0:" ++ toString port)
  | _ => Config.number port

def Listens (doc : Node) (s : Service) (name : PortName) (port : Int) : Prop :=
  doc.at? (name.path s) = some (name.node port)

def Config.ServicePorts.of (ports : Config.ServicePorts) : Service → Config.ServicePort
  | .frontend => ports.frontend
  | .internalFrontend => ports.internalFrontend
  | .matching => ports.matching
  | .history => ports.history
  | .worker => ports.worker

theorem defaultServices_of (s : Service) : Config.defaultServices.of s = servicePort s := by
  cases s <;> rfl

/-- The document gives each service that is deployed its ports from the table of the config. -/
def rpcEntries (d : Config.ConfigData) (s : Service) : List (String × Node) :=
  let port := d.services.of s
  Config.serviceEntries port d.bindOnIP ++ if servesFrontend s then [("httpPort", Config.number port.httpPort)] else []

theorem at?_rpc {d : Config.ConfigData} {s : Service} (hs : s = .internalFrontend → d.useInternalFrontend = true)
    (key : String) : (Config.configTree d).at? ["services", s.name, "rpc", key] = (rpcEntries d s).lookup key := by
  have hservices : (Config.configEntries d).lookup "services" = some (Config.servicesTree d) := rfl
  have hservice : (Config.servicesEntries d).lookup s.name = some (.map [("rpc", .map (rpcEntries d s))]) := by
    cases s with
    | frontend => rfl
    | internalFrontend => simp only [Config.servicesEntries, hs rfl, if_true]; rfl
    | matching | history | worker => cases h : d.useInternalFrontend <;> simp only [Config.servicesEntries, h] <;> rfl
  rw [Config.configTree, Node.at?, hservices, Option.bind_some, Config.servicesTree, Node.at?, hservice, Option.bind_some]
  change ((rpcEntries d s).lookup key).bind (Node.at? []) = _
  cases (rpcEntries d s).lookup key <;> rfl

theorem at?_metrics (d : Config.ConfigData) :
    (Config.configTree d).at? ["global", "metrics", "prometheus", "listenAddress"] =
      if d.metrics.enabled then some (Config.text d.metrics.listenAddress) else none := by
  have hglobal : (Config.configEntries d).lookup "global" = some (Config.globalTree d) := rfl
  rw [Config.configTree, Node.at?, hglobal, Option.bind_some, Config.globalTree, Node.at?]
  cases htls : d.mtls.enabled <;> cases hmetrics : d.metrics.enabled <;> cases d.authorization <;>
    simp only [Config.globalEntries, Config.mtlsEntries, Config.metricsEntries, htls, hmetrics] <;> rfl

/-- The port for metrics that the spec asks for, when they are enabled. -/
def metricsPortOf (spec : ClusterSpec) : Option Int :=
  match spec.metrics with
  | none => some 9090
  | some m => if m.enabled then some (Config.orDefault m.port 9090) else none

theorem buildMetrics_eq (c : Cluster) :
    Config.buildMetrics c =
      (metricsPortOf c.spec).elim {} fun port =>
        { enabled := true, listenAddress := "0.0.0.0:" ++ toString port } := by
  unfold Config.buildMetrics metricsPortOf
  cases hm : c.spec.metrics with
  | none => rfl
  | some m => cases he : m.enabled <;> simp [he]

/-- The ports under which the builders know a service. -/
def builtPort (s : Service) : PortName → Option Int
  | .grpc => some (servicePort s).grpcPort
  | .membership => some (servicePort s).membershipPort
  | .http => if servesFrontend s then some (servicePort s).httpPort else none
  | .metrics => some metricsPort

/-- The same, but for the metrics port, which is the spec's. -/
def listenPort (spec : ClusterSpec) (s : Service) : PortName → Option Int
  | .metrics => metricsPortOf spec
  | name => builtPort s name

theorem useInternalFrontend_eq (c : Cluster) : Config.useInternalFrontend c = internalFrontendEnabled c.spec := by
  unfold Config.useInternalFrontend internalFrontendEnabled
  cases c.spec.services.internalFrontend <;> rfl

section
variable {lib : Config.YamlLib} {c : Cluster} {opts : Config.BuildOptions} {d : Config.ConfigData} {s : Service}

/-- **What the config of a cluster makes its services listen on.** -/
theorem listens_iff (hd : Config.buildConfigData lib c opts = .ok d) (hs : Enabled c.spec s) (name : PortName)
    (port : Int) : Listens (Config.configTree d) s name port ↔ listenPort c.spec s name = some port := by
  have hdata := Config.buildConfigData_eq_ok hd
  have hinternal : s = .internalFrontend → d.useInternalFrontend = true := by
    rintro rfl
    rw [hdata.useInternalFrontend, useInternalFrontend_eq]
    exact ((enabled_iff c.spec .internalFrontend).mp hs).resolve_left fun hne => hne rfl
  have hport : d.services.of s = servicePort s := by rw [hdata.services, defaultServices_of]
  have hnumber (p : Int) : some (Config.number p) = some (Config.number port) ↔ some p = some port := by
    rw [Option.some.injEq, Option.some.injEq, Config.number_inj]
  unfold Listens
  cases name with
  | grpc =>
    rw [PortName.path, at?_rpc hinternal]
    simp only [rpcEntries, hport]
    exact hnumber _
  | membership =>
    rw [PortName.path, at?_rpc hinternal]
    simp only [rpcEntries, hport]
    exact hnumber _
  | http =>
    rw [PortName.path, at?_rpc hinternal]
    simp only [rpcEntries, hport, listenPort, builtPort]
    cases servesFrontend s with
    | true => exact hnumber _
    | false => exact ⟨nofun, nofun⟩
  | metrics =>
    rw [PortName.path, at?_metrics, hdata.metrics, buildMetrics_eq]
    simp only [listenPort, PortName.node]
    cases metricsPortOf c.spec with
    | none => exact ⟨nofun, nofun⟩
    | some p =>
      simp only [Option.elim_some, if_true, Option.some.injEq, Config.text_inj]
      rw [String.append_right_inj, GoText.toString_inj]

end

/-! ## Agreement -/

/-- The ports under these names are the ones the document makes the service listen on; of the metrics only when the
spec asks for them. -/
def Agree (spec : ClusterSpec) (doc : Node) (s : Service) (names : List PortName) (named : String → Int → Prop) : Prop :=
  ∀ name ∈ names, (name = .metrics → metricsPortOf spec ≠ none) →
    ∀ port, named name.text port ↔ Listens doc s name port

/-- What a Service exposes under a name and passes on to the same port. -/
def KubeService.port? (s : KubeService) (name : String) : Option Int :=
  (s.ports.find? fun p => p.name = name ∧ p.targetPort = p.port).map KubeServicePort.port

/-- The container, its probes and the Services in front of it name the ports that the document makes the service listen
on. -/
structure PortsAgree (c : Cluster) (doc : Node) (svc : ServiceInfo) (container : Container) : Prop where
  declared : Agree c.spec doc svc.name [.grpc, .membership, .http, .metrics] fun name port =>
    container.portName port = some name
  probed : ∀ probe port, container.probePort probe = some port → Listens doc svc.name .grpc port
  headless : Agree c.spec doc svc.name [.grpc, .membership, .metrics] fun name port =>
    (buildHeadlessService c svc).port? name = some port
  frontend : svc.name = .frontend → Agree c.spec doc svc.name [.grpc, .http] fun name port =>
    (buildFrontendService c svc).port? name = some port

/-- Metrics are off, or served on the port that the builders take for granted. -/
def MetricsOnDefaultPort (spec : ClusterSpec) : Prop :=
  ∀ m ∈ spec.metrics, m.enabled = true → m.port = 0 ∨ m.port = metricsPort

instance (spec : ClusterSpec) : Decidable (MetricsOnDefaultPort spec) :=
  inferInstanceAs (Decidable (∀ m ∈ spec.metrics, _))

theorem metricsOnDefaultPort_iff (spec : ClusterSpec) :
    MetricsOnDefaultPort spec ↔ ∀ port ∈ metricsPortOf spec, port = metricsPort := by
  unfold MetricsOnDefaultPort metricsPortOf Config.orDefault metricsPort
  cases hm : spec.metrics with
  | none => simp
  | some m =>
    cases he : m.enabled with
    | false => simp [he]
    | true =>
      by_cases hp : m.port = 0
      · simp [he, hp]
      · simp [he, hp]

theorem listenPort_eq {spec : ClusterSpec} (hdefault : MetricsOnDefaultPort spec) (s : Service) {name : PortName}
    (hon : name = .metrics → metricsPortOf spec ≠ none) : listenPort spec s name = builtPort s name := by
  cases name with
  | metrics =>
    obtain ⟨port, hport⟩ := Option.ne_none_iff_exists'.mp (hon rfl)
    rw [listenPort, hport, (metricsOnDefaultPort_iff spec).mp hdefault port hport, builtPort]
  | _ => rfl

section
variable {spec : ClusterSpec} {doc : Node} {s : Service} {names : List PortName} {named : String → Int → Prop}
  (hlistens : ∀ name port, Listens doc s name port ↔ listenPort spec s name = some port)
include hlistens

/-- With the metrics on the default port, what agrees with the document is what has the builders' numbers. -/
theorem agree_iff (hdefault : MetricsOnDefaultPort spec) :
    Agree spec doc s names named ↔ ∀ name ∈ names, (name = .metrics → metricsPortOf spec ≠ none) →
      ∀ port, named name.text port ↔ builtPort s name = some port := by
  refine forall₃_congr fun name _ hon => forall_congr' fun port => ?_
  rw [hlistens, listenPort_eq hdefault s hon]

/-- What has the builders' number for the metrics agrees with the document only if they are on the default port. -/
theorem Agree.metricsOnDefaultPort (h : Agree spec doc s names named) (hmem : .metrics ∈ names)
    (hnamed : named PortName.metrics.text metricsPort) : MetricsOnDefaultPort spec := by
  rw [metricsOnDefaultPort_iff]
  intro port hspec
  have hon : metricsPortOf spec ≠ none := by
    rw [hspec]
    exact Option.some_ne_none port
  have hport := (hlistens _ _).mp ((h .metrics hmem (fun _ => hon) metricsPort).mp hnamed)
  exact Option.some.inj (hspec.symm.trans hport)

end

/-! ## What the builders declare -/

def generatedPortName (s : Service) (port : Int) : Option String :=
  ((containerPorts s).find? fun p => p.2 = port).map Prod.fst

theorem generatedPortName_iff (s : Service) (name : PortName) (port : Int) :
    generatedPortName s port = some name.text ↔ builtPort s name = some port := by
  have hmem : (name.text, port) ∈ containerPorts s ↔ builtPort s name = some port := by
    cases s <;> cases name <;>
      simp [containerPorts, builtPort, PortName.text, servicePort, servesFrontend, metricsPort, eq_comm]
  have hnodup : ((containerPorts s).map Prod.snd).Nodup := by cases s <;> decide
  rw [← hmem, generatedPortName, Option.map_eq_some_iff]
  constructor
  · rintro ⟨⟨name', port'⟩, hfind, rfl⟩
    obtain rfl : port' = port := by simpa using List.find?_some hfind
    exact List.mem_of_find?_eq_some hfind
  · intro hport
    obtain ⟨p, hp⟩ : ∃ p, (containerPorts s).find? (fun p => p.2 = port) = some p :=
      Option.isSome_iff_exists.mp (List.find?_isSome.mpr ⟨_, hport, by simp⟩)
    have heq : p = (name.text, port) :=
      List.inj_on_of_nodup_map hnodup (List.mem_of_find?_eq_some hp) hport (by simpa using List.find?_some hp)
    exact ⟨p, hp, congrArg Prod.fst heq⟩

def generatedProbePort (s : Service) : Option Int := if s = .worker then none else some (servicePort s).grpcPort

section
variable (c : Cluster) (svc : ServiceInfo) (i : TemplateInputs) (version : String)

theorem generatedTemplate_server :
    (generatedTemplate c svc i version).spec.server = some (serverContainer c svc i version) := by
  simp [PodSpec.server, generatedTemplate, serverContainer]

theorem generatedTemplate_portName (port : Int) :
    (generatedTemplate c svc i version).spec.portName port = generatedPortName svc.name port := by
  rw [PodSpec.portName, generatedTemplate_server]
  rfl

theorem generatedTemplate_probePort (probe : ProbeName) :
    (generatedTemplate c svc i version).spec.probePort probe = generatedProbePort svc.name := by
  have hport (mtls : Bool) : (serviceProbe (servicePort svc.name).grpcPort mtls).handler.port =
      (servicePort svc.name).grpcPort := by
    cases mtls <;> rfl
  rw [PodSpec.probePort, generatedTemplate_server, Option.bind_some, generatedProbePort]
  by_cases hworker : svc.name = .worker
  · cases probe <;> simp [Container.probePort, Container.probe, serverContainer, probeOf, hworker]
  · cases probe <;> simp [Container.probePort, Container.probe, serverContainer, probeOf, hworker, hport]

end

theorem buildHeadlessService_port? (c : Cluster) (svc : ServiceInfo) {name : PortName} (hname : name ≠ .http) :
    (buildHeadlessService c svc).port? name.text = builtPort svc.name name := by
  cases name with
  | http => exact absurd rfl hname
  | grpc | membership | metrics =>
    simp [KubeService.port?, buildHeadlessService, samePort, PortName.text, builtPort]

theorem buildFrontendService_port? (c : Cluster) {svc : ServiceInfo} (hfrontend : svc.name = .frontend) {name : PortName}
    (hname : name = .grpc ∨ name = .http) : (buildFrontendService c svc).port? name.text = builtPort svc.name name := by
  unfold buildFrontendService
  rcases hname with rfl | rfl <;> rw [hfrontend] <;> rfl

/-! ## Overrides -/

/-- The overrides leave the named ports of the server container as they are generated, give no other port such a name,
and leave its probes no other port than gRPC. Of the metrics nothing is asked when they are off. -/
structure OverridesKeepPorts (patchOf : String → ServerPatch) (spec : ClusterSpec) (svc : ServiceInfo) : Prop where
  declared : ∀ name : PortName, (name = .metrics → metricsPortOf spec ≠ none) → ∀ port,
    overridden (fun raw => (patchOf raw).port port) spec svc (generatedPortName svc.name port) = some name.text ↔
      builtPort svc.name name = some port
  probed : ∀ probe port, overridden (fun raw => (patchOf raw).probe probe) spec svc (generatedProbePort svc.name) =
    some port → port = (servicePort svc.name).grpcPort

theorem wiredTemplate_ports (c : Cluster) (tmpl : PodTemplate) :
    (∀ port, (wiredTemplate c tmpl).spec.portName port = tmpl.spec.portName port) ∧
      ∀ probe, (wiredTemplate c tmpl).spec.probePort probe = tmpl.spec.probePort probe := by
  have hserver : (wiredTemplate c tmpl).spec.server = tmpl.spec.server.map _ := wiredTemplate_server c tmpl
  have hread {α : Type} (read : Container → Option α) (hmount : ∀ k, read (withAzureTokenMount k) = read k) :
      (wiredTemplate c tmpl).spec.server.bind read = tmpl.spec.server.bind read := by
    rw [hserver]
    cases tmpl.spec.server with
    | none => rfl
    | some k =>
      rw [Option.map_some, Option.bind_some, Option.bind_some]
      split
      · exact hmount k
      · rfl
  refine ⟨fun port => hread _ fun k => ?_, fun probe => hread _ fun k => ?_⟩
  · unfold withAzureTokenMount
    split <;> rfl
  · unfold withAzureTokenMount
    split <;> cases probe <;> rfl

section
variable {env : PassEnv} {patchOf : String → ServerPatch} {c : Cluster} {lib : Config.YamlLib}
  {opts : Config.BuildOptions} {d : Config.ConfigData} {svc : ServiceInfo} {v : String} {dep : Deployment}

/-- The ports and probes of a Deployment that a pass applies: what the overrides make of the generated ones. -/
theorem applied_ports (hm : MergesServer env.merge patchOf) (hsvc : svc ∈ enabledServices c.spec)
    (happlied : Event.applied (.deployment svc.name v dep) ∈ (reconcile env c).log) :
    (∀ port, dep.template.spec.portName port =
        overridden (fun raw => (patchOf raw).port port) c.spec svc (generatedPortName svc.name port)) ∧
      ∀ probe, dep.template.spec.probePort probe =
        overridden (fun raw => (patchOf raw).probe probe) c.spec svc (generatedProbePort svc.name) := by
  obtain ⟨-, svc', hsvc', hname, d₀, hb, ht⟩ := applied_built happlied
  obtain rfl := enabledServices_unique hsvc' hsvc hname
  rw [ht]
  constructor
  · intro port
    rw [(wiredTemplate_ports c d₀.template).1,
      buildDeployment_entry (fun spec raw spec' h => (hm spec raw spec' h).port port) hb, generatedTemplate_portName]
  · intro probe
    rw [(wiredTemplate_ports c d₀.template).2,
      buildDeployment_entry (fun spec raw spec' h => (hm spec raw spec' h).probe probe) hb, generatedTemplate_probePort]

end

def metricsAt (port : Int) : Cluster :=
  let spec := sampleSpec "1.31.0"
  ClusterWebhook.default { name := "temporal", spec := { spec with metrics := some { port := port } } }

end TemporalOperator
