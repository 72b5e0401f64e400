import TemporalOperator.Cluster.InspectArgs
import TemporalOperator.Cluster.Rollout
import TemporalOperator.Cluster.UI

/-!
# Selectors and pod labels

`internal/resources/{labels,deployment,ui,schemajob,inspectorjob,service,pdb,devserver}.go`: the pod templates the
operator builds, and the selectors of its Deployments, Services and PodDisruptionBudgets. Objects of one namespace are
told apart by the name of the cluster or dev server they are built for and by their component.

* `PodTemplateOf`, `SelectorOf` : every template and every selector, with its owner and component;
* `applyPodTemplate_selects` : an override does not take a template out of the selector that is re-asserted over it;
* `selectors_isolate` : a selector selects the pods of its own component and no others, and never changes.
-/

namespace TemporalOperator
open Lib

/-! ## Selection -/

def Selects (selector labels : List (String × String)) : Prop := ∀ kv ∈ selector, labels.lookup kv.1 = some kv.2

instance (selector labels : List (String × String)) : Decidable (Selects selector labels) :=
  inferInstanceAs (Decidable (∀ kv ∈ selector, _))

theorem selects_setLabels {selector : List (String × String)} (hs : (selector.map Prod.fst).Nodup)
    (m : List (String × String)) : Selects selector (setLabels m selector) := by
  intro kv hkv
  rw [lookup_setLabels, lookup_reverse_of_mem hs hkv]
  rfl

theorem Selects.setLabel {selector m : List (String × String)} (h : Selects selector m) {key : String}
    (hk : key ∉ selector.map Prod.fst) (value : String) : Selects selector (setLabel m (key, value)) := by
  intro kv hkv
  have hne : kv.1 ≠ key := fun he => hk (List.mem_map.mpr ⟨kv, hkv, he⟩)
  rw [lookup_setLabel, if_neg hne]
  exact h kv hkv

theorem applyPodTemplate_selects {env : PassEnv} {tmpl t : PodTemplate} {override : Option PodTemplateOverride}
    {selector : List (String × String)} (hs : (selector.map Prod.fst).Nodup) (hsel : Selects selector tmpl.labels)
    (h : applyPodTemplate env tmpl override selector = .ok t) : Selects selector t.labels := by
  cases override with
  | none =>
    obtain rfl := Except.ok.inj h
    exact hsel
  | some o =>
    rw [(applyPodTemplate_eq_ok h).1]
    exact selects_setLabels hs _

/-! ## Components -/

/-- What pods are run for. -/
inductive Workload
  | service (s : Service)
  | ui
  | schema
  | inspector
  | devServer
  deriving DecidableEq, Repr

/-- The value of the component label. -/
def Workload.name : Workload → String
  | .service s => s.name
  | .ui => "ui"
  | .schema => "schema"
  | .inspector => "inspector"
  | .devServer => "devserver"

theorem Workload.name_injective {w d : Workload} (h : w.name = d.name) : w = d := by
  cases w with
  | service s =>
    cases d with
    | service t => cases s <;> cases t <;> first | rfl | exact absurd h (by decide)
    | _ => cases s <;> exact absurd h (by decide)
  | _ =>
    cases d with
    | service t => cases t <;> exact absurd h (by decide)
    | _ => first | rfl | exact absurd h (by decide)

theorem clusterSelector_nodup (owner component : String) : ((clusterSelector owner component).map Prod.fst).Nodup := by
  simp only [clusterSelector, List.map_cons, List.map_nil]
  decide

theorem standardLabels_selects (c : Cluster) (component : String) :
    Selects (clusterSelector c.name component) (standardLabels c component) := by
  have hself : Selects (clusterSelector c.name component) (selectorLabels c component) :=
    fun kv hkv => lookup_of_mem (clusterSelector_nodup _ _) hkv
  have hmanaged : Selects (clusterSelector c.name component)
      (setLabel (selectorLabels c component) ("app.kubernetes.io/managed-by", "temporal-operator")) :=
    hself.setLabel (by simp [clusterSelector]) _
  unfold standardLabels
  split
  · exact hmanaged.setLabel (by simp [clusterSelector, labelVersion]) _
  · exact hmanaged

/-! ## Pod templates -/

def devServerSelectorLabels (name : String) : List (String × String) :=
  [("app.kubernetes.io/name", "temporal"), ("app.kubernetes.io/instance", name),
    ("app.kubernetes.io/component", "devserver")]

def devServerLabels (name : String) : List (String × String) :=
  setLabel (devServerSelectorLabels name) ("app.kubernetes.io/managed-by", "temporal-operator")

/-- `PodTemplateOf env owner w labels`: for its component `w`, the operator builds a pod template with these labels for
the cluster, or the dev server, called `owner`. -/
inductive PodTemplateOf (env : PassEnv) : String → Workload → List (String × String) → Prop
  /-- A service Deployment at any version, as it is applied. -/
  | service {c : Cluster} {svc : ServiceInfo} {version : String} {dep : Deployment}
      (hb : buildDeployment env c svc version = .ok dep) :
      PodTemplateOf env c.name (.service svc.name) (wiredTemplate c dep.template).labels
  | ui (c : Cluster) : PodTemplateOf env c.name .ui (buildUIDeployment c).template.labels
  | schemaJob {p : SchemaJobParams} {job : Job} (hb : buildSchemaJob env p = .ok job) :
      PodTemplateOf env p.cluster.name .schema job.template.labels
  /-- A schema Job with Azure Workload Identity. -/
  | schemaJobAzure {p : SchemaJobParams} {job : Job} (wi : AzureWorkloadIdentitySpec)
      (hb : buildSchemaJob env p = .ok job) :
      PodTemplateOf env p.cluster.name .schema
        (applyAzureSchemaWorkloadIdentity p.cluster wi job.template schemaContainerName).labels
  | inspectorJob (c : Cluster) (store : SchemaStore) (spec : SQLDatastoreSpec) (operatorImage : String) :
      PodTemplateOf env c.name .inspector (buildInspectorJob c store spec operatorImage).template.labels
  | devServer (name : String) : PodTemplateOf env name .devServer (devServerLabels name)

/-- `SelectorOf env owner w selector`: a Deployment, Service or PodDisruptionBudget built for the component `w` of
`owner` has this selector. -/
inductive SelectorOf (env : PassEnv) : String → Workload → List (String × String) → Prop
  | deployment {c : Cluster} {svc : ServiceInfo} {version : String} {dep : Deployment}
      (hb : buildDeployment env c svc version = .ok dep) : SelectorOf env c.name (.service svc.name) dep.selector
  | headlessService (c : Cluster) (svc : ServiceInfo) :
      SelectorOf env c.name (.service svc.name) (selectorLabels c svc.name.name)
  | podDisruptionBudget (c : Cluster) (svc : ServiceInfo) :
      SelectorOf env c.name (.service svc.name) (selectorLabels c svc.name.name)
  | frontendService (c : Cluster) : SelectorOf env c.name (.service .frontend) (selectorLabels c "frontend")
  | uiDeployment (c : Cluster) : SelectorOf env c.name .ui (buildUIDeployment c).selector
  | uiService (c : Cluster) : SelectorOf env c.name .ui (selectorLabels c "ui")
  | devServerDeployment (name : String) : SelectorOf env name .devServer (devServerSelectorLabels name)
  | devServerService (name : String) : SelectorOf env name .devServer (devServerSelectorLabels name)

def selectorFor (owner : String) : Workload → List (String × String)
  | .devServer => devServerSelectorLabels owner
  | w => clusterSelector owner w.name

theorem SelectorOf.eq {env : PassEnv} {owner : String} {w : Workload} {selector : List (String × String)}
    (h : SelectorOf env owner w selector) : selector = selectorFor owner w := by
  cases h with
  | deployment hb =>
    obtain ⟨-, -, -, hdep⟩ := buildDeployment_eq_ok hb
    rw [hdep]
    rfl
  | _ => rfl

/-! ## What the labels of a template say -/

theorem Selects.mono {selector selector' labels : List (String × String)} (h : Selects selector labels)
    (hsub : selector' ⊆ selector) : Selects selector' labels :=
  fun kv hkv => h kv (hsub hkv)

theorem selects_self {labels : List (String × String)} (h : (labels.map Prod.fst).Nodup) : Selects labels labels :=
  fun _ hkv => lookup_of_mem h hkv

theorem Selects.azure {selector : List (String × String)} {tmpl : PodTemplate} (h : Selects selector tmpl.labels)
    (hk : "azure.workload.identity/use" ∉ selector.map Prod.fst) (c : Cluster) (mainContainer : String) :
    Selects selector (applyAzureTokenBase c tmpl mainContainer).labels :=
  h.setLabel hk _

theorem serviceTemplate_selects {env : PassEnv} {c : Cluster} {svc : ServiceInfo} {version : String}
    {dep : Deployment} (hb : buildDeployment env c svc version = .ok dep) :
    Selects (clusterSelector c.name svc.name.name) (wiredTemplate c dep.template).labels := by
  obtain ⟨shared, hshared, hown, -⟩ := buildDeployment_eq_ok hb
  have hnodup := clusterSelector_nodup c.name svc.name.name
  have hgenerated : Selects (clusterSelector c.name svc.name.name)
      (generatedTemplate c svc (templateInputs env c) version).labels := by
    have hstandard := standardLabels_selects c svc.name.name
    unfold generatedTemplate
    dsimp only
    split
    · exact hstandard.setLabel (by simp [clusterSelector, labelVersion]) _
    · exact hstandard
  have hdep := applyPodTemplate_selects hnodup (applyPodTemplate_selects hnodup hgenerated hshared) hown
  unfold wiredTemplate
  split
  · exact hdep.azure (by simp [clusterSelector]) c serverContainerName
  · exact hdep

theorem schemaJob_selects {env : PassEnv} {p : SchemaJobParams} {job : Job} (hb : buildSchemaJob env p = .ok job) :
    Selects (schemaJobLabels p) job.template.labels := by
  have hnodup : ((schemaJobLabels p).map Prod.fst).Nodup := by
    simp only [schemaJobLabels, List.map_cons, List.map_nil]
    decide
  obtain ⟨exec, -, ht⟩ := buildSchemaJob_eq_ok hb
  exact applyPodTemplate_selects hnodup (selects_self hnodup) ht

/-- The labels by which an owner's component is told from every other. -/
def identity (owner : String) (w : Workload) : List (String × String) :=
  [("app.kubernetes.io/instance", owner), ("app.kubernetes.io/component", w.name)]

/-- Every template carries the identity of its owner and component, and is in the selector of its component. -/
theorem PodTemplateOf.selects {env : PassEnv} {owner : String} {w : Workload} {labels : List (String × String)}
    (h : PodTemplateOf env owner w labels) :
    Selects (identity owner w) labels ∧
      (w ≠ .schema → w ≠ .inspector → Selects (selectorFor owner w) labels) := by
  cases h with
  | service hb =>
    have hsel := serviceTemplate_selects hb
    exact ⟨hsel.mono (by simp [identity, clusterSelector, Workload.name]), fun _ _ => hsel⟩
  | ui c =>
    have hsel := standardLabels_selects c "ui"
    exact ⟨hsel.mono (by simp [identity, clusterSelector, Workload.name]), fun _ _ => hsel⟩
  | schemaJob hb =>
    have hsel := schemaJob_selects hb
    exact ⟨hsel.mono (by simp [identity, schemaJobLabels, Workload.name]), fun hw => absurd rfl hw⟩
  | @schemaJobAzure p job wi hb =>
    have hwired := (schemaJob_selects hb).azure (by simp [schemaJobLabels]) p.cluster schemaContainerName
    exact ⟨hwired.mono (by simp [identity, schemaJobLabels, Workload.name]), fun hw => absurd rfl hw⟩
  | inspectorJob c store spec operatorImage =>
    refine ⟨?_, fun _ hw => absurd rfl hw⟩
    unfold buildInspectorJob
    dsimp only
    split
    · refine (?_ : Selects (identity c.name .inspector) _).azure (by simp [identity]) c "inspect"
      simp [Selects, identity, Workload.name, lookup_cons_eq]
    · simp [Selects, identity, Workload.name, lookup_cons_eq]
  | devServer name =>
    have hself : Selects (devServerSelectorLabels owner) (devServerLabels owner) :=
      Selects.setLabel (selects_self (by simp [devServerSelectorLabels])) (by simp [devServerSelectorLabels]) _
    exact ⟨hself.mono (by simp [identity, devServerSelectorLabels, Workload.name]), fun _ _ => hself⟩

theorem identity_subset_selectorFor (owner : String) (w : Workload) : identity owner w ⊆ selectorFor owner w := by
  cases w <;> simp [identity, selectorFor, clusterSelector, devServerSelectorLabels, Workload.name]

theorem selects_identity {owner : String} {w : Workload} {labels : List (String × String)} :
    Selects (identity owner w) labels ↔ labels.lookup "app.kubernetes.io/instance" = some owner ∧
      labels.lookup "app.kubernetes.io/component" = some w.name := by
  simp [Selects, identity]

theorem identity_eq_of_selects {a b : String} {w d : Workload} {labels : List (String × String)}
    (h : Selects (identity a w) labels) (h' : Selects (identity b d) labels) : a = b ∧ w = d := by
  obtain ⟨hinstance, hcomponent⟩ := selects_identity.mp h
  obtain ⟨hinstance', hcomponent'⟩ := selects_identity.mp h'
  exact ⟨Option.some.inj (hinstance.symm.trans hinstance'),
    Workload.name_injective (Option.some.inj (hcomponent.symm.trans hcomponent'))⟩

theorem SelectorOf.deployed {env : PassEnv} {owner : String} {w : Workload} {selector : List (String × String)}
    (h : SelectorOf env owner w selector) : w ≠ .schema ∧ w ≠ .inspector := by
  cases h <;> exact ⟨by simp, by simp⟩

/-- **Clusters of one namespace are isolated by selector**: the labels of a pod template satisfy a selector exactly
when both are built for the same component of the same owner, whatever overrides, specs, versions and wiring they are
built with; and the selectors of a component are all the same. -/
theorem selectors_isolate {env env' : PassEnv} {a b : String} {w d : Workload} {labels selector : List (String × String)}
    (hp : PodTemplateOf env a w labels) (hs : SelectorOf env' b d selector) :
    (Selects selector labels ↔ a = b ∧ w = d) ∧
      ∀ env'' selector', SelectorOf env'' b d selector' → selector' = selector := by
  refine ⟨⟨fun h => ?_, ?_⟩, fun env'' selector' hs' => hs'.eq.trans hs.eq.symm⟩
  · rw [hs.eq] at h
    exact identity_eq_of_selects hp.selects.1 (h.mono (identity_subset_selectorFor b d))
  · rintro ⟨rfl, rfl⟩
    rw [hs.eq]
    exact hp.selects.2 hs.deployed.1 hs.deployed.2

/-- An override that tries to move the frontend's pods to another cluster's history service. -/
theorem selectors_isolate_spoofed :
    let spoof : PodTemplateOverride :=
      { labels := [("app.kubernetes.io/instance", "other"), ("app.kubernetes.io/component", "history"),
          ("temporal.bmor10.com/cluster", "other")] }
    ∃ dep, buildDeployment {} (sampleCluster "1.31.0") ⟨.frontend, some { podTemplate := some spoof }⟩ "1.31.0" =
        .ok dep ∧
      ¬ Selects (clusterSelector "other" "history") (wiredTemplate (sampleCluster "1.31.0") dep.template).labels ∧
      Selects (clusterSelector "temporal" "frontend")
        (wiredTemplate (sampleCluster "1.31.0") dep.template).labels := by
  intro spoof
  have hb : buildDeployment {} (sampleCluster "1.31.0") ⟨.frontend, some { podTemplate := some spoof }⟩ "1.31.0" =
    .ok _ := rfl
  refine ⟨_, hb, fun h => ?_, ?_⟩
  · have hother : SelectorOf {} "other" (.service .history) _ :=
      .headlessService { sampleCluster "1.31.0" with name := "other" } ⟨.history, none⟩
    obtain ⟨-, hw⟩ := (selectors_isolate (.service hb) hother).1.mp h
    cases hw
  · have hown : SelectorOf {} "temporal" (.service .frontend) _ := .frontendService (sampleCluster "1.31.0")
    exact (selectors_isolate (.service hb) hown).1.mpr ⟨rfl, rfl⟩

end TemporalOperator
