import TemporalOperator.Cluster.Resources
import TemporalOperator.Lib.KeyedMerge

/-!
# Overrides

A `podTemplate` patch is merged into the generated pod spec by a library. Containers and volumes are merged by name,
ports by number, mounts by path. The library is a parameter, with a description of what each patch says about the
entries that the other modules look at.

* `MergesByName` : what a patch says about the images of containers;
* `ServerPatch`, `MergesServer` : what it says about the server container and the volumes;
* `overridden` : what the two overrides of a service make of an entry; `buildDeployment_entry` : it is what is built.
-/

namespace TemporalOperator
open Lib

/-! ## Entries of a pod spec -/

def containerImage (containers : List Container) (name : String) : Option String :=
  (containers.find? fun c => c.name = name).map Container.image

def PodSpec.server (spec : PodSpec) : Option Container :=
  spec.containers.find? fun c => c.name = serverContainerName

def Container.portName (c : Container) (port : Int) : Option String :=
  (c.ports.find? fun p => p.2 = port).map Prod.fst

inductive ProbeName
  | liveness
  | readiness
  | startup
  deriving DecidableEq, Repr

def Container.probe (c : Container) : ProbeName → Option Probe
  | .liveness => c.livenessProbe
  | .readiness => c.readinessProbe
  | .startup => c.startupProbe

def ProbeHandler.port : ProbeHandler → Int
  | .grpc port => port
  | .tcpSocket port => port
  | .httpGet _ port => port

def Container.probePort (c : Container) (name : ProbeName) : Option Int :=
  (c.probe name).map fun probe => probe.handler.port

def Container.mountAt (c : Container) (path : String) : Option String :=
  (c.volumeMounts.find? fun m => m.mountPath = path).map VolumeMount.name

namespace PodSpec

def portName (spec : PodSpec) (port : Int) : Option String := spec.server.bind (·.portName port)

def probePort (spec : PodSpec) (name : ProbeName) : Option Int := spec.server.bind (·.probePort name)

def mountAt (spec : PodSpec) (path : String) : Option String := spec.server.bind (·.mountAt path)

def volume (spec : PodSpec) (name : String) : Option VolumeSource :=
  (spec.volumes.find? fun v => v.name = name).map Volume.source

end PodSpec

/-! ## Patches -/

/-- Kubernetes takes a volume without a source for an `emptyDir`. -/
instance : Inhabited VolumeSource := ⟨.emptyDir⟩

/-- `StrategicMergePatch` merges containers by name; `patchOf raw name` is what the patch `raw` says about the image of
the container `name`. -/
structure MergesByName (merge : PodSpec → String → Except MergeErr PodSpec)
    (patchOf : String → String → EntryPatch String) : Prop where
  image : ∀ spec raw spec', merge spec raw = .ok spec' → ∀ name,
    containerImage spec'.containers name = (patchOf raw name).apply (containerImage spec.containers name)

/-- What a patch says about the server container, by port number, probe and mount path, and about the volumes. A patch
that removes the container removes all of it. -/
structure ServerPatch where
  port : Int → EntryPatch String
  probe : ProbeName → EntryPatch Int
  mount : String → EntryPatch String
  volume : String → EntryPatch VolumeSource

/-- A patch has made `spec'` of `spec`. -/
structure ServerPatch.Takes (p : ServerPatch) (spec spec' : PodSpec) : Prop where
  port : ∀ port, spec'.portName port = (p.port port).apply (spec.portName port)
  probe : ∀ name, spec'.probePort name = (p.probe name).apply (spec.probePort name)
  mount : ∀ path, spec'.mountAt path = (p.mount path).apply (spec.mountAt path)
  volume : ∀ name, spec'.volume name = (p.volume name).apply (spec.volume name)

/-- `StrategicMergePatch`, where `patchOf raw` describes the patch `raw`. -/
def MergesServer (merge : PodSpec → String → Except MergeErr PodSpec) (patchOf : String → ServerPatch) : Prop :=
  ∀ spec raw spec', merge spec raw = .ok spec' → (patchOf raw).Takes spec spec'

/-! ## Overrides -/

section
variable {α : Type}

/-- What an override says about an entry. -/
def overridePatch (patch : String → EntryPatch α) (override : Option PodTemplateOverride) : EntryPatch α :=
  match override.bind PodTemplateOverride.spec with
  | some raw => if raw = "" then .silent else patch raw
  | none => .silent

variable [Inhabited α]

/-- What the overrides of a service, the shared one and over it its own, make of an entry. -/
def overridden (patch : String → EntryPatch α) (spec : ClusterSpec) (svc : ServiceInfo) (value : Option α) : Option α :=
  (overridePatch patch (svc.spec.bind ServiceSpec.podTemplate)).apply
    ((overridePatch patch (sharedOverride spec)).apply value)

theorem overridden_silent (spec : ClusterSpec) (svc : ServiceInfo) (value : Option α) :
    overridden (fun _ => .silent) spec svc value = value := by
  have hsilent (override : Option PodTemplateOverride) :
      overridePatch (fun _ => (.silent : EntryPatch α)) override = .silent := by
    unfold overridePatch
    split
    · split <;> rfl
    · rfl
  rw [overridden, hsilent, hsilent]
  rfl

variable {env : PassEnv} {entry : PodSpec → Option α} {patch : String → EntryPatch α}

theorem applyPodTemplate_entry {tmpl t : PodTemplate} {override : Option PodTemplateOverride}
    {selector : List (String × String)}
    (hm : ∀ spec raw spec', env.merge spec raw = .ok spec' → entry spec' = (patch raw).apply (entry spec))
    (h : applyPodTemplate env tmpl override selector = .ok t) :
    entry t.spec = (overridePatch patch override).apply (entry tmpl.spec) := by
  cases override with
  | none =>
    obtain rfl := Except.ok.inj h
    rfl
  | some o =>
    unfold overridePatch
    obtain ⟨-, -, ⟨hspec, hempty⟩ | ⟨raw, hs, hraw, hmerge⟩⟩ := applyPodTemplate_eq_ok h
    · rw [hspec]
      cases hs : o.spec with
      | none => simp [hs, EntryPatch.apply]
      | some raw => simp [hs, hempty raw hs, EntryPatch.apply]
    · simp only [Option.bind_some, hs, if_neg hraw]
      exact hm _ _ _ hmerge

theorem buildDeployment_entry {c : Cluster} {svc : ServiceInfo} {version : String} {dep : Deployment}
    (hm : ∀ spec raw spec', env.merge spec raw = .ok spec' → entry spec' = (patch raw).apply (entry spec))
    (h : buildDeployment env c svc version = .ok dep) :
    entry dep.template.spec =
      overridden patch c.spec svc (entry (generatedTemplate c svc (templateInputs env c) version).spec) := by
  obtain ⟨shared, hshared, hown, -⟩ := buildDeployment_eq_ok h
  rw [applyPodTemplate_entry hm hown, applyPodTemplate_entry hm hshared]
  rfl

end

/-! ## Patches for examples -/

theorem mergesServer_none : MergesServer (fun spec _ => .ok spec) fun _ =>
    { port := fun _ => .silent, probe := fun _ => .silent, mount := fun _ => .silent, volume := fun _ => .silent } := by
  intro spec raw spec' h
  obtain rfl := Except.ok.inj h
  exact ⟨fun _ => rfl, fun _ => rfl, fun _ => rfl, fun _ => rfl⟩

def imagePatch (container image : String) : String :=
  "\x7b\"containers\":[\x7b\"name\":\"" ++ container ++ "\",\"image\":\"" ++ image ++ "\"\x7d]\x7d"

def setImage (container image : String) (spec : PodSpec) (_ : String) : Except MergeErr PodSpec :=
  .ok { spec with
    containers := mergeEntry Container.name container (fun c => { c with image := image })
      { name := container, image := image } spec.containers }

theorem setImage_mergesByName (container image : String) :
    MergesByName (setImage container image) fun _ name => if name = container then .merge (some image) else .silent := by
  refine ⟨fun spec raw spec' h name => ?_⟩
  obtain rfl := Except.ok.inj h
  exact map_find?_mergeEntry Container.image spec.containers name (by simp) (by simp)

/-- The server container is changed, or added. -/
def mergeServer (change : Container → Container) (spec : PodSpec) : PodSpec :=
  { spec with
    containers := mergeEntry Container.name serverContainerName change
      (change { name := serverContainerName, image := "" }) spec.containers }

section
variable {change : Container → Container} (hname : ∀ c, (change c).name = c.name) (spec : PodSpec)
include hname

theorem mergeServer_server :
    (mergeServer change spec).server =
      some (change (spec.server.getD { name := serverContainerName, image := "" })) := by
  have hfind := find?_mergeEntry hname (hname { name := serverContainerName, image := "" }) spec.containers
    serverContainerName
  rw [if_pos rfl] at hfind
  refine hfind.trans ?_
  unfold PodSpec.server
  cases spec.containers.find? fun c => c.name = serverContainerName <;> rfl

theorem mergeServer_read {α : Type} [Inhabited α] {read : Container → Option α} {p : EntryPatch α}
    (hread : ∀ c, read (change c) = p.apply (read c)) (hnew : read { name := serverContainerName, image := "" } = none) :
    (mergeServer change spec).server.bind read = p.apply (spec.server.bind read) := by
  rw [mergeServer_server hname, Option.bind_some, hread]
  cases spec.server with
  | none => exact congrArg p.apply hnew
  | some c => rfl

theorem ServerPatch.takes_mergeServer {p : ServerPatch} {volumes : List Volume}
    (hport : ∀ c port, (change c).portName port = (p.port port).apply (c.portName port))
    (hprobe : ∀ c name, (change c).probePort name = (p.probe name).apply (c.probePort name))
    (hmount : ∀ c path, (change c).mountAt path = (p.mount path).apply (c.mountAt path))
    (hvolume : ∀ name, (volumes.find? fun v => v.name = name).map Volume.source =
      (p.volume name).apply (spec.volume name)) :
    p.Takes spec { mergeServer change spec with volumes := volumes } where
  port port := mergeServer_read hname spec (fun c => hport c port) rfl
  probe name := mergeServer_read hname spec (fun c => hprobe c name) (by cases name <;> rfl)
  mount path := mergeServer_read hname spec (fun c => hmount c path) rfl
  volume := hvolume

end

/-- A port and a mount for plugins; `pluginsPatch` adds them, and the volume. -/
def withPlugins (c : Container) : Container :=
  { c with
    ports := mergeEntry Prod.snd 6060 (fun p => ("pprof", p.2)) ("pprof", 6060) c.ports
    volumeMounts := mergeEntry VolumeMount.mountPath "/plugins" (fun m => { m with name := "plugins" })
      { name := "plugins", mountPath := "/plugins" } c.volumeMounts }

def pluginsPatch : String :=
  "\x7b\"containers\":[\x7b\"name\":\"temporal\",\"ports\":[\x7b\"name\":\"pprof\",\"containerPort\":6060\x7d]," ++
    "\"volumeMounts\":[\x7b\"name\":\"plugins\",\"mountPath\":\"/plugins\"\x7d]\x7d]," ++
    "\"volumes\":[\x7b\"name\":\"plugins\",\"emptyDir\":\x7b\x7d\x7d]\x7d"

def withPluginsPatch (c : Cluster) : Cluster :=
  { c with
    spec := { c.spec with services := { c.spec.services with overrides := some (some { spec := some pluginsPatch }) } } }

def addPlugins (spec : PodSpec) (_ : String) : Except MergeErr PodSpec :=
  .ok { mergeServer withPlugins spec with
    volumes := mergeEntry Volume.name "plugins" (fun v => { v with source := .emptyDir })
      { name := "plugins", source := .emptyDir } spec.volumes }

def addPluginsPatch : ServerPatch where
  port port := if port = 6060 then .merge (some "pprof") else .silent
  probe _ := .silent
  mount path := if path = "/plugins" then .merge (some "plugins") else .silent
  volume name := if name = "plugins" then .merge (some .emptyDir) else .silent

theorem addPlugins_mergesServer : MergesServer addPlugins fun _ => addPluginsPatch := by
  intro spec raw spec' h
  obtain rfl := Except.ok.inj h
  refine ServerPatch.takes_mergeServer (by intro; rfl) spec (fun c port => ?_) (fun c name => ?_) (fun c path => ?_)
    fun name => ?_
  · exact map_find?_mergeEntry Prod.fst c.ports port (by simp) (by simp)
  · cases name <;> rfl
  · exact map_find?_mergeEntry VolumeMount.name c.volumeMounts path (by simp) (by simp)
  · exact map_find?_mergeEntry Volume.source spec.volumes name (by simp) (by simp)

end TemporalOperator
