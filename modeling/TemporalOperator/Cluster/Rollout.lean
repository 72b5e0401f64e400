import TemporalOperator.Cluster.Overrides
import TemporalOperator.Cluster.Runs

/-!
# What the rollout check proves

`serviceRolledOut` compares counters of a Deployment's status with the replicas its spec asks for, and the label and
image of its template with values recomputed from the cluster's spec. The first is about pods, the second about what
`BuildDeployment` and the overrides laid over it have built.

* `Pods` : the pods behind the counters of a status; `serviceRolledOut_sound_iff` : the check vouches for them exactly
  when no pod is left over beside the desired ones;
* `OverridesAgree` : the overrides leave version label and image as the check recomputes them
  (`built_deployment_rolls_out_iff`).
-/

namespace TemporalOperator
open Lib

/-- The checks of `serviceRolledOut`, one by one. -/
theorem rolledOutAt_iff (spec : ClusterSpec) (dep : Deployment) (version : String) :
    rolledOutAt spec dep version = true ↔
      (dep.template.labels.lookup labelVersion).getD "" = version ∧
        deploymentRunsImage dep (serverImage spec version) = true ∧ dep.generation = dep.observedGeneration ∧
        dep.updatedReplicas = dep.replicas.getD 1 ∧ dep.readyReplicas = dep.replicas.getD 1 := by
  simp only [rolledOutAt, Bool.and_eq_true, decide_eq_true_eq, and_assoc]

/-! ## Counters and pods -/

/-- The pods behind a status that was observed for the current generation: of the updated ones and of those of older
templates, how many are ready. -/
structure Pods (dep : Deployment) where
  readyUpdated : Nat
  readyOld : Nat
  observed : dep.observedGeneration = dep.generation
  updated_le : dep.updatedReplicas ≤ dep.statusReplicas
  ready : dep.readyReplicas = readyUpdated + readyOld
  readyUpdated_le : readyUpdated ≤ dep.updatedReplicas
  readyOld_le : readyOld ≤ dep.statusReplicas - dep.updatedReplicas

/-- **What a positive answer says about the pods**: all desired pods run the new template and are ready, and no older
one is left, exactly when there are no more pods than desired. -/
theorem serviceRolledOut_sound_iff {env : PassEnv} {spec : ClusterSpec} {s : Service} {version : String}
    {dep : Deployment} (hget : env.rollout s = .ok dep) (pods : Pods dep)
    (h : serviceRolledOut env spec s version = true) :
    ((pods.readyUpdated : Int) = dep.replicas.getD 1 ∧ dep.statusReplicas = dep.updatedReplicas) ↔
      dep.statusReplicas ≤ dep.replicas.getD 1 := by
  simp only [serviceRolledOut, hget, rolledOutAt_iff] at h
  obtain ⟨-, -, -, hupdated, hready⟩ := h
  have hready' := pods.ready
  have hle := pods.updated_le
  have hold := pods.readyOld_le
  constructor
  · rintro ⟨-, hall⟩
    omega
  · intro hno
    constructor <;> omega

/-- A settled rollout: two pods of the new template, both ready. -/
theorem serviceRolledOut_sound_settled :
    let dep : Deployment := { deployedAt "1.31.0" with
      replicas := some 2, statusReplicas := 2, updatedReplicas := 2, readyReplicas := 2 }
    let env : PassEnv := { rollout := fun _ => .ok dep }
    serviceRolledOut env (sampleSpec "1.31.0") .history "1.31.0" = true ∧
      ((2 : Int) = dep.replicas.getD 1 ∧ dep.statusReplicas = dep.updatedReplicas) := by
  intro dep env
  have h : serviceRolledOut env (sampleSpec "1.31.0") .history "1.31.0" = true := by decide
  let pods : Pods dep :=
    { readyUpdated := 2, readyOld := 0, observed := rfl, updated_le := by decide, ready := rfl,
      readyUpdated_le := by decide, readyOld_le := by decide }
  exact ⟨h, (serviceRolledOut_sound_iff rfl pods h).mpr (by decide)⟩

/-- The new pod of a single-replica service is created and not ready, the old one still serves: the check says that
the service is rolled out. -/
theorem serviceRolledOut_counts_old_pod :
    let dep : Deployment := { deployedAt "1.31.0" with statusReplicas := 2 }
    let env : PassEnv := { rollout := fun _ => .ok dep }
    serviceRolledOut env (sampleSpec "1.31.0") .worker "1.31.0" = true ∧
      ∃ pods : Pods dep, pods.readyUpdated = 0 ∧ pods.readyOld = 1 ∧ dep.statusReplicas ≠ dep.updatedReplicas := by
  intro dep env
  let pods : Pods dep :=
    { readyUpdated := 0, readyOld := 1, observed := rfl, updated_le := by decide, ready := rfl,
      readyUpdated_le := by decide, readyOld_le := by decide }
  exact ⟨by decide, pods, rfl, rfl, by decide⟩

/-! ## Overrides -/

/-- The label an override sets; of several entries for a key the last one wins. -/
def overrideLabel (override : Option PodTemplateOverride) (key : String) : Option String :=
  override.bind fun o => o.labels.reverse.lookup key

/-- The overrides of a service, the shared one and over it its own, leave the version label and the image of the
server container as `serviceRolledOut` recomputes them. -/
structure OverridesAgree (patchOf : String → String → EntryPatch String) (shared own : Option PodTemplateOverride)
    (version image : String) : Prop where
  label : ∀ l, (overrideLabel own labelVersion).or (overrideLabel shared labelVersion) = some l → l = version
  image : overridePatch (patchOf · serverContainerName) own = .merge (some image) ∨
    (overridePatch (patchOf · serverContainerName) own).LeavesValue ∧
      (overridePatch (patchOf · serverContainerName) shared).Keeps image

theorem deploymentRunsImage_iff (dep : Deployment) (image : String) :
    deploymentRunsImage dep image = true ↔
      containerImage dep.template.spec.containers serverContainerName = some image := by
  unfold deploymentRunsImage containerRunsImage containerImage
  cases dep.template.spec.containers.find? fun c => c.name = serverContainerName <;> simp

theorem applyPodTemplate_label {env : PassEnv} {tmpl t : PodTemplate} {override : Option PodTemplateOverride}
    {selector : List (String × String)} (h : applyPodTemplate env tmpl override selector = .ok t) {key : String}
    (hkey : selector.reverse.lookup key = none) :
    t.labels.lookup key = (overrideLabel override key).or (tmpl.labels.lookup key) := by
  cases override with
  | none =>
    obtain rfl := Except.ok.inj h
    rfl
  | some o =>
    obtain ⟨hlabels, -, -⟩ := applyPodTemplate_eq_ok h
    rw [hlabels, lookup_setLabels, hkey, Option.none_or, lookup_setLabels]
    rfl

theorem generatedTemplate_label (c : Cluster) (svc : ServiceInfo) (i : TemplateInputs) {version : String}
    (hv : version ≠ "") : (generatedTemplate c svc i version).labels.lookup labelVersion = some version := by
  simp [generatedTemplate, hv, lookup_setLabel]

theorem generatedTemplate_image (c : Cluster) (svc : ServiceInfo) (i : TemplateInputs) (version : String) :
    containerImage (generatedTemplate c svc i version).spec.containers serverContainerName =
      some (serverImage c.spec version) := by
  simp [generatedTemplate, serverContainer, containerImage]

theorem buildDeployment_label {env : PassEnv} {c : Cluster} {svc : ServiceInfo} {version : String} {dep : Deployment}
    (hv : version ≠ "") (h : buildDeployment env c svc version = .ok dep) :
    dep.template.labels.lookup labelVersion =
      ((overrideLabel (svc.spec.bind ServiceSpec.podTemplate) labelVersion).or
        (overrideLabel (sharedOverride c.spec) labelVersion)).or (some version) := by
  have hselector : (selectorLabels c svc.name.name).reverse.lookup labelVersion = none := by
    simp [selectorLabels, clusterSelector, labelVersion, List.lookup_cons]
  obtain ⟨shared, hshared, hown, -⟩ := buildDeployment_eq_ok h
  rw [applyPodTemplate_label hown hselector, applyPodTemplate_label hshared hselector,
    generatedTemplate_label c svc _ hv, Option.or_assoc]

theorem buildDeployment_image {env : PassEnv} {patchOf : String → String → EntryPatch String} {c : Cluster}
    {svc : ServiceInfo} {version : String} {dep : Deployment} (hm : MergesByName env.merge patchOf)
    (h : buildDeployment env c svc version = .ok dep) :
    containerImage dep.template.spec.containers serverContainerName =
      overridden (patchOf · serverContainerName) c.spec svc (some (serverImage c.spec version)) := by
  rw [← generatedTemplate_image c svc (templateInputs env c) version]
  exact buildDeployment_entry (fun spec raw spec' h => hm.image spec raw spec' h serverContainerName) h

theorem wiredTemplate_keeps (c : Cluster) (tmpl : PodTemplate) :
    (wiredTemplate c tmpl).labels.lookup labelVersion = tmpl.labels.lookup labelVersion ∧
      containerImage (wiredTemplate c tmpl).spec.containers serverContainerName =
        containerImage tmpl.spec.containers serverContainerName := by
  constructor
  · unfold wiredTemplate
    split
    · simp [applyAzureServerWorkloadIdentity, applyAzureTokenBase, lookup_setLabel, labelVersion]
    · rfl
  · rw [containerImage, wiredTemplate_server, containerImage, Option.map_map]
    congr 1
    funext c
    split
    · exact withAzureTokenMount_image c
    · rfl

theorem append_ne_empty {a : String} (ha : a ≠ "") (b : String) : a ++ b ≠ "" :=
  fun h => ha (String.append_eq_empty_iff.mp h).1

theorem serverImage_ne_empty (spec : ClusterSpec) (version : String) : serverImage spec version ≠ "" := by
  unfold serverImage
  split
  · rename_i h
    exact h.1
  · exact append_ne_empty (append_ne_empty (by decide) _) _

/-- A built Deployment as it is applied, with a status that was observed for its generation and says that all desired
replicas are updated and ready. -/
def settled (c : Cluster) (dep : Deployment) (generation : Int) : Deployment :=
  { dep with
    template := wiredTemplate c dep.template
    generation := generation
    observedGeneration := generation
    statusReplicas := dep.replicas.getD 1
    updatedReplicas := dep.replicas.getD 1
    readyReplicas := dep.replicas.getD 1 }

/-- **Builder and rollout check**: what is built for a supported version, applied and rolled out, satisfies the check
for that version exactly when the overrides keep the version label and the server image. -/
theorem built_deployment_rolls_out_iff {env env' : PassEnv} {patchOf : String → String → EntryPatch String}
    {c : Cluster} {svc : ServiceInfo} {version : String} {dep : Deployment} {generation : Int}
    (hm : MergesByName env.merge patchOf) (hv : isSupported supportedVersions version = true)
    (hb : buildDeployment env c svc version = .ok dep)
    (hget : env'.rollout svc.name = .ok (settled c dep generation)) :
    serviceRolledOut env' c.spec svc.name version = true ↔
      OverridesAgree patchOf (sharedOverride c.spec) (svc.spec.bind ServiceSpec.podTemplate) version
        (serverImage c.spec version) := by
  have hne : version ≠ "" := by
    rintro rfl
    exact absurd hv (by decide)
  obtain ⟨hwlabel, hwimage⟩ := wiredTemplate_keeps c dep.template
  have hchecks : serviceRolledOut env' c.spec svc.name version = true ↔
      (dep.template.labels.lookup labelVersion).getD "" = version ∧
        containerImage dep.template.spec.containers serverContainerName = some (serverImage c.spec version) := by
    simp only [serviceRolledOut, hget, rolledOutAt_iff, deploymentRunsImage_iff, settled, hwlabel, hwimage, and_true]
  rw [hchecks, buildDeployment_label hne hb, buildDeployment_image hm hb, overridden,
    EntryPatch.apply_apply_eq_iff (serverImage_ne_empty _ _)]
  constructor
  · rintro ⟨hl, hi⟩
    refine ⟨fun l hl' => ?_, hi⟩
    rwa [hl'] at hl
  · rintro ⟨hl, hi⟩
    refine ⟨?_, hi⟩
    cases hor : (overrideLabel (svc.spec.bind ServiceSpec.podTemplate) labelVersion).or
        (overrideLabel (sharedOverride c.spec) labelVersion) with
    | none => rfl
    | some l => exact hl l hor

/-- A cluster whose shared override states version label and image as they are generated. -/
def statedOverride : Cluster :=
  let spec := sampleSpec "1.31.0"
  let override : PodTemplateOverride :=
    { labels := [(labelVersion, "1.31.0")], spec := some (imagePatch serverContainerName (serverImage spec "1.31.0")) }
  ClusterWebhook.default { name := "temporal", spec := { spec with services := { overrides := some (some override) } } }

/-- The frontend built for it passes the check once it is rolled out. -/
theorem built_deployment_rolls_out_stated :
    let env : PassEnv := { merge := setImage serverContainerName (serverImage statedOverride.spec "1.31.0") }
    ∃ dep, buildDeployment env statedOverride ⟨.frontend, none⟩ "1.31.0" = .ok dep ∧
      serviceRolledOut { rollout := fun _ => .ok (settled statedOverride dep 3) } statedOverride.spec .frontend
        "1.31.0" = true := by
  intro env
  refine ⟨_, rfl, ?_⟩
  have hb : buildDeployment env statedOverride ⟨.frontend, none⟩ "1.31.0" = .ok _ := rfl
  refine (built_deployment_rolls_out_iff (setImage_mergesByName _ _) (by decide) hb rfl).mpr ⟨?_, ?_⟩
  · intro l hl
    have hstated : overrideLabel (sharedOverride statedOverride.spec) labelVersion = some "1.31.0" := by decide +kernel
    exact Option.some.inj (hl.symm.trans hstated)
  · exact .inr ⟨.inl rfl, .inl rfl⟩

def pinnedLabel : Cluster :=
  let spec := sampleSpec "1.31.0"
  ClusterWebhook.default
    { name := "temporal"
      spec := { spec with services := { overrides := some (some { labels := [(labelVersion, "pinned")] }) } } }

/-- The webhook admits it, the Deployment is built, and rolled out it never satisfies the check. -/
theorem pinned_label_never_rolls_out :
    ClusterWebhook.validateCreate pinnedLabel = [] ∧
      ∃ dep, buildDeployment {} pinnedLabel ⟨.frontend, none⟩ "1.31.0" = .ok dep ∧
        serviceRolledOut { rollout := fun _ => .ok (settled pinnedLabel dep 3) } pinnedLabel.spec .frontend
          "1.31.0" = false := by
  exact ⟨by decide +kernel, _, rfl, by decide⟩

end TemporalOperator
