import Mathlib.Data.List.Forall2
import TemporalOperator.Cluster.Plan
import TemporalOperator.Lib.Result

/-!
# The preview and the passes

`PlanFromSpec` shows a cluster from its spec alone. A pass plans with the same builders but with inputs of its own: the
credentials, the hash over the certificate Secrets, the versions of an upgrade, and the Azure wiring that it lays over the
planned Deployments.

* `writes_reconcile` : what a pass applies, in order: the certificates, the services once the schema is ready, the UI and
  the ServiceMonitor; a pass that fails has applied a beginning of it;
* `Shows` : a shown object is the picture of an applied one; `shows_deployment` : of a Deployment all but the hashes and
  the wiring;
* `preview_shows_pass` : a pass applies nothing that the preview does not show, and all of it when it comes to its end.
-/

namespace TemporalOperator
open Lib

/-! ## What a pass applies -/

def Event.applied? : Event → Option Planned
  | .applied obj => some obj
  | _ => none

def appliedObjects (log : List Event) : List Planned := log.filterMap Event.applied?

theorem mem_appliedObjects {log : List Event} {obj : Planned} : obj ∈ appliedObjects log ↔ .applied obj ∈ log := by
  unfold appliedObjects
  rw [List.mem_filterMap]
  constructor
  · rintro ⟨e, he, hobj⟩
    cases e with
    | applied obj' =>
      obtain rfl := Option.some.inj hobj
      exact he
    | _ => cases hobj
  · exact fun h => ⟨_, h, rfl⟩

theorem Event.applied?_eq_none {e : Event} (h : e.stage ≠ .services) (h' : e.stage ≠ .objects) : e.applied? = none := by
  cases e with
  | applied obj => cases obj <;> first | exact absurd rfl h | exact absurd rfl h'
  | _ => rfl

def servicesToApply (env : PassEnv) (c : Cluster) (st : ClusterStatus) (versions : List (Service × String)) :
    List Planned :=
  if !st.holds .schemaReady then []
  else
    match renderConfig env c >>= fun _ => planServices env c (templateInputs env c) versions with
    | .ok planned => planned.map (wireAzure c)
    | .error _ => []

def monitoringToApply (env : PassEnv) (c : Cluster) : List Planned :=
  if env.serviceMonitorCRDInstalled then planMonitoring c.spec else []

section
variable (env : PassEnv) (c : Cluster) (st : ClusterStatus)

theorem writes_applyObjects (objs : List Planned) :
    (Act.each (applyObject env) objs).Writes Event.applied? objs := by
  have hone : ∀ obj ∈ objs, (applyObject env obj).Writes Event.applied? [obj] := by
    intro obj _
    have hemit : (Act.emit (.applied obj) : Pass Unit).Writes Event.applied? [obj] := Act.writes_emit rfl
    refine hemit.then_silent fun _ => ?_
    split
    · exact Act.emits_fail _
    · exact Act.emits_pure _
  have heach := Act.writes_each (g := id) hone
  rwa [List.map_id] at heach

theorem writes_reconcileMTLS : (reconcileMTLS env c st).Writes Event.applied? (planMTLS c.spec) := by
  unfold reconcileMTLS
  cases hmtls : mTLSEnabled c.spec with
  | false =>
    rw [planMTLS, hmtls]
    exact Act.writes_nil (Act.emits_pure _)
  | true =>
    refine (writes_applyObjects env _).then_silent fun _ => ?_
    dsimp only
    split
    · exact Act.emits_pure _
    · split <;> exact Act.emits_pure _

theorem writes_reconcileServices (versions : List (Service × String)) :
    (reconcileServices env c st versions).Writes Event.applied? (servicesToApply env c st versions) := by
  unfold reconcileServices servicesToApply
  by_cases hready : (!st.holds .schemaReady) = true
  · rw [if_pos hready, if_pos hready]
    exact Act.writes_nil (Act.emits_pure _)
  rw [if_neg hready, if_neg hready]
  refine Act.writes_of_silent (Act.emits_lift _) fun r hr => ?_
  refine Act.writes_of_silent (Act.emits_lift _) fun planned hplanned => ?_
  have hplan :
      (renderConfig env c >>= fun _ => planServices env c (templateInputs env c) versions) = .ok planned :=
    bind_eq_ok.mpr ⟨r, hr, hplanned⟩
  rw [hplan]
  refine (writes_applyObjects env _).then_silent fun _ => (emits_rollupServiceStatus env c st).mono ?_
  rintro e ⟨s, n, rfl⟩
  rfl

theorem servicesToApply_ne_nil {env : PassEnv} {c : Cluster} {st served : ClusterStatus}
    {versions : List (Service × String)} (hready : st.holds .schemaReady = true)
    (h : (reconcileServices env c st versions).res = .ok served) : servicesToApply env c st versions ≠ [] := by
  unfold reconcileServices at h
  unfold servicesToApply
  rw [hready, Bool.not_true, if_neg Bool.false_ne_true] at h ⊢
  simp only [Act.res_bind_eq_ok, Act.res_lift] at h
  obtain ⟨r, hr, planned, hplanned, -⟩ := h
  have hplan :
      (renderConfig env c >>= fun _ => planServices env c (templateInputs env c) versions) = .ok planned :=
    bind_eq_ok.mpr ⟨r, hr, hplanned⟩
  obtain ⟨objs, -, hobjs⟩ := bind_eq_ok.mp hplanned
  obtain rfl := Except.ok.inj hobjs
  rw [hplan]
  exact List.cons_ne_nil _ _

theorem writes_reconcileMonitoring : (reconcileMonitoring env c).Writes Event.applied? (monitoringToApply env c) := by
  unfold reconcileMonitoring monitoringToApply
  split
  · exact writes_applyObjects env _
  · exact Act.writes_nil (Act.emits_pure _)

end

/-- What a pass applies; `services` is what it applies for the services if it comes to them. -/
theorem writes_reconcile {env : PassEnv} {c : Cluster} {services : List Planned}
    (h : ∀ st, AtUpgrade env c st → servicesToApply env c (upgradeOutcome env c.spec st)
      (serviceVersions c.spec (upgradeOutcome env c.spec st)) = services) :
    (reconcile env c).Writes Event.applied?
      (planMTLS c.spec ++ (services ++ (planUI c.spec ++ monitoringToApply env c))) := by
  rw [reconcile_eq]
  refine Act.writes_of_silent (Act.emits_lift _) fun _ hget => ?_
  refine Act.writes_of_silent ?_ fun st₁ hp => ?_
  · refine (emits_reconcilePersistence env c c.status).mono fun e he => ?_
    rcases he with he | he <;> exact e.applied?_eq_none (by rw [he]; decide) (by rw [he]; decide)
  refine (writes_reconcileMTLS env c st₁).bind fun st hm => ?_
  refine Act.writes_of_silent ?_ ?_
  · refine (emits_reconcileUpgrade env c.spec st).mono fun e he => ?_
    rcases he with he | he <;> exact e.applied?_eq_none (by rw [he]; decide) (by rw [he]; decide)
  rintro ⟨out, versions⟩ hu
  rw [reconcileUpgrade_res] at hu
  obtain ⟨rfl, rfl⟩ := Prod.mk.inj (Except.ok.inj hu)
  rw [← h st ⟨hget, st₁, hp, hm⟩]
  refine (writes_reconcileServices env c _ _).bind fun st₃ _ => ?_
  refine (writes_applyObjects env (planUI c.spec)).bind fun _ _ => ?_
  refine (writes_reconcileMonitoring env c).then_silent fun _ => Act.emits_bind ?_ fun _ => Act.emits_lift _
  exact (emits_computeReadyAndPhase c st₃).mono fun e he =>
    e.applied?_eq_none (by rw [he]; decide) (by rw [he]; decide)

/-! ## Templates without a version -/

theorem setLabel_setLabel (m : List (String × String)) (e : String × String) : setLabel (setLabel m e) e = setLabel m e := by
  induction m with
  | nil => simp only [setLabel, if_pos]
  | cons e' es ih =>
    by_cases he : e'.1 = e.1
    · simp only [setLabel, if_pos he, if_pos]
    · simp only [setLabel, if_neg he, ih]

/-- A service that is assigned the version of the spec is built as one that is assigned none. -/
theorem buildDeploymentFrom_specVersion (env : PassEnv) (c : Cluster) (svc : ServiceInfo) (i : TemplateInputs) :
    buildDeploymentFrom env c svc i c.spec.version = buildDeploymentFrom env c svc i "" := by
  have htemplate : generatedTemplate c svc i c.spec.version = generatedTemplate c svc i "" := by
    by_cases hv : c.spec.version = ""
    · rw [hv]
    · have hlabels : setLabel (standardLabels c svc.name.name) (labelVersion, c.spec.version) =
          standardLabels c svc.name.name := by
        simp only [standardLabels, if_pos (show c.spec.version ≠ "" from hv), setLabel_setLabel]
      have hcontainer : serverContainer c svc i c.spec.version = serverContainer c svc i "" := by
        simp only [serverContainer, serverImage, ite_self, if_true]
      simp only [generatedTemplate, hlabels, hcontainer, ite_self, ne_eq, not_true, if_false]
  unfold buildDeploymentFrom
  rw [htemplate]

/-- The template for another version: the label, and the image of the server container. -/
def PodTemplate.atVersion (c : Cluster) (version : String) (tmpl : PodTemplate) : PodTemplate :=
  { tmpl with
    labels := setLabel tmpl.labels (labelVersion, version)
    spec := { tmpl.spec with
      containers := tmpl.spec.containers.map fun k =>
        if k.name = serverContainerName then { k with image := serverImage c.spec version } else k } }

/-- Of the generated template only the version label and the image depend on the version. -/
theorem generatedTemplate_atVersion (c : Cluster) (svc : ServiceInfo) (i : TemplateInputs) {version : String}
    (hv : version ≠ "") :
    generatedTemplate c svc i version = (generatedTemplate c svc i "").atVersion c version := by
  simp [generatedTemplate, PodTemplate.atVersion, hv, serverContainer]

section
variable {env : PassEnv} {c : Cluster} {svc : ServiceInfo} {i j : TemplateInputs} {version : String}

theorem applyPodTemplate_ok_of_spec {tmpl tmpl' t : PodTemplate} {override : Option PodTemplateOverride}
    {selector : List (String × String)} (hs : tmpl.spec = tmpl'.spec)
    (h : applyPodTemplate env tmpl override selector = .ok t) :
    ∃ t', applyPodTemplate env tmpl' override selector = .ok t' := by
  cases override with
  | none => exact ⟨tmpl', rfl⟩
  | some o =>
    unfold applyPodTemplate at h ⊢
    rw [hs] at h
    cases ho : o.spec with
    | none =>
      simp only [ho]
      exact ⟨_, rfl⟩
    | some raw =>
      by_cases hraw : raw = ""
      · simp only [ho, if_pos hraw]
        exact ⟨_, rfl⟩
      · simp only [ho, if_neg hraw] at h ⊢
        obtain ⟨spec, hspec, -⟩ := bind_eq_ok.mp h
        exact ⟨_, bind_eq_ok.mpr ⟨spec, hspec, rfl⟩⟩

theorem buildDeploymentFrom_ok_of_unhashed (hinputs : i.unhashed = j.unhashed) {d : Deployment}
    (h : buildDeploymentFrom env c svc i version = .ok d) : ∃ d', buildDeploymentFrom env c svc j version = .ok d' := by
  obtain ⟨shared, hshared, hown, -⟩ := buildDeploymentFrom_eq_ok h
  obtain ⟨hl, hs⟩ := generatedTemplate_agree hinputs c svc version
  obtain ⟨shared', hshared'⟩ := applyPodTemplate_ok_of_spec hs hshared
  obtain ⟨-, hs⟩ := applyPodTemplate_agree rfl hl hs hshared hshared'
  obtain ⟨own', hown'⟩ := applyPodTemplate_ok_of_spec hs hown
  refine ⟨_, bind_eq_ok.mpr ⟨shared', mapError_eq_ok.mpr hshared', bind_eq_ok.mpr ⟨own', mapError_eq_ok.mpr hown', rfl⟩⟩⟩

end

end TemporalOperator

namespace TemporalOperator.Plan
open Lib Config

/-! ## Pictures of objects -/

/-- No store has a credential, so that the pass renders the config that the preview does. -/
def Uncredentialed (env : PassEnv) (c : Cluster) : Prop :=
  azureWorkloadIdentityEnabled c.spec = false ∧ ∀ store, credential env c store = .ok {}

/-- The applied Deployment is the built one with the Azure wiring; of the annotations those with a hash over what the
preview does not know may differ. -/
structure ShowsDeployment (env : PassEnv) (c : Cluster) (applied shown : Deployment) : Prop where
  replicas : applied.replicas = shown.replicas
  selector : applied.selector = shown.selector
  labels : applied.template.labels = (wiredTemplate c shown.template).labels
  podSpec : applied.template.spec = (wiredTemplate c shown.template).spec
  annotations : ∀ key, key ≠ dynamicConfigHashAnnotationKey → key ≠ certHashAnnotationKey →
    (key = configHashAnnotationKey → Uncredentialed env c) →
    applied.template.annotations.lookup key = shown.template.annotations.lookup key

/-- The text of the dynamic config; a spec without values is not encoded at all. -/
def dynamicText (dynamicYaml : List (String × List DynamicConfigEntry) → String)
    (doc : List (String × List DynamicConfigEntry)) : String :=
  if doc.isEmpty then "" else dynamicYaml doc

/-- The shown object is the picture of the applied one. -/
inductive Shows (env : PassEnv) (dynamicYaml : List (String × List DynamicConfigEntry) → String) (c : Cluster) :
    Planned → Object → Prop
  | internodeCertificate {cert : Certificate} (h : buildInternodeCertificate c = some cert) :
      Shows env dynamicYaml c .internodeCertificate (.certificate cert)
  | frontendCertificate {cert : Certificate} (h : buildFrontendCertificate c = some cert) :
      Shows env dynamicYaml c .frontendCertificate (.certificate cert)
  | configSecret {text : String} (h : ∀ r, renderConfig env c = .ok r → Uncredentialed env c → text = r.config) :
      Shows env dynamicYaml c .configSecret (.configSecret text)
  | dynamicConfigMap {obj : Object}
      (h : ∀ r, renderConfig env c = .ok r → obj = buildDynamicConfigMap (dynamicText dynamicYaml r.dynamicConfig)) :
      Shows env dynamicYaml c .dynamicConfigMap obj
  /-- A service that an upgrade has not come to yet is shown at the version it will have. What is applied is pictured by
  what is built from the same inputs for the version it is applied at: over a template with another label and image
  (`generatedTemplate_atVersion`). -/
  | deployment {svc : ServiceInfo} {version : String} {i : TemplateInputs} {applied built shown : Deployment}
      (hshown : buildDeploymentFrom env c svc i "" = .ok shown)
      (hbuilt : buildDeploymentFrom env c svc i version = .ok built) (h : ShowsDeployment env c applied built)
      (hspec : version = c.spec.version → built = shown) :
      Shows env dynamicYaml c (.deployment svc.name version applied)
        (.deployment (deploymentName c.name svc.name.name) shown)
  | headlessService {svc : ServiceInfo} (h : svc ∈ enabledServices c.spec) :
      Shows env dynamicYaml c (.headlessService svc.name) (.service (buildHeadlessService c svc))
  | podDisruptionBudget {s : Service} :
      Shows env dynamicYaml c (.podDisruptionBudget s)
        (.podDisruptionBudget (pdbName c.name s.name) (selectorLabels c s.name))
  | frontendService {svc : ServiceInfo} (h : svc ∈ enabledServices c.spec) (hname : svc.name = .frontend) :
      Shows env dynamicYaml c .frontendService (.service (buildFrontendService c svc))
  | uiClientCertificate {cert : Certificate} (h : buildUIClientCertificate c = .ok cert) :
      Shows env dynamicYaml c .uiClientCertificate (.certificate cert)
  | uiDeployment : Shows env dynamicYaml c .uiDeployment (.deployment (uiName c.name) (buildUIDeployment c))
  | uiService : Shows env dynamicYaml c .uiService (.service (buildUIService c))
  | uiIngress : Shows env dynamicYaml c .uiIngress .uiIngress
  | serviceMonitor : Shows env dynamicYaml c .serviceMonitor .serviceMonitor

/-- What the preview shows beside the schema Jobs, which it plans as if the stores were empty. -/
def shownObjects (plan : List PlannedObject) : List Object :=
  (plan.filter (·.phase ≠ .persistenceSchema)).map PlannedObject.object

theorem shownObjects_append (plan plan' : List PlannedObject) :
    shownObjects (plan ++ plan') = shownObjects plan ++ shownObjects plan' := by
  simp only [shownObjects, List.filter_append, List.map_append]

theorem shownObjects_tag (phase : Phase) (objs : List Object) :
    shownObjects (tag phase objs) = if phase = .persistenceSchema then [] else objs := by
  by_cases hphase : phase = .persistenceSchema
  · simp [shownObjects, tag, List.filter_map, hphase, Function.comp_def]
  · simp [shownObjects, tag, List.filter_map, hphase, Function.comp_def]

section
variable {env : PassEnv} {dynamicYaml : List (String × List DynamicConfigEntry) → String} {c : Cluster}

theorem deref_eq_ok {α : Type} {x : Option α} {a : α} : deref x = .ok a ↔ x = some a := by
  cases x with
  | none => exact ⟨nofun, nofun⟩
  | some b => exact ⟨fun h => congrArg some (Except.ok.inj h), fun h => congrArg Except.ok (Option.some.inj h)⟩

/-! ## The inputs -/

theorem renderConfig_dynamicConfig {r : RenderedConfig} (h : TemporalOperator.renderConfig env c = .ok r) :
    dynamicConfigDocument c.spec = .ok r.dynamicConfig := by
  obtain ⟨defCred, -, h⟩ := bind_eq_ok.mp h
  obtain ⟨visCred, -, h⟩ := bind_eq_ok.mp h
  obtain ⟨config, -, h⟩ := bind_eq_ok.mp h
  obtain ⟨doc, hdoc, h⟩ := bind_eq_ok.mp h
  obtain rfl := Except.ok.inj h
  exact mapError_eq_ok.mp hdoc

/-- What the preview plans the services with, beside a pass that renders `r`. -/
structure InputFor (env : PassEnv) (dynamicYaml : List (String × List DynamicConfigEntry) → String) (c : Cluster)
    (i : ServicesInput) : Prop where
  config : ∀ r, TemporalOperator.renderConfig env c = .ok r → Uncredentialed env c → i.renderedConfig = r.config
  dynamicConfig : ∀ r, TemporalOperator.renderConfig env c = .ok r →
    i.renderedDynamicConfig = dynamicText dynamicYaml r.dynamicConfig
  hash : i.configHash = env.hash i.renderedConfig
  mtls : i.templateInputs.unhashed = (templateInputs env c).unhashed
  versions : i.serviceVersions = []

theorem buildOptions_uncredentialed (h : azureWorkloadIdentityEnabled c.spec = false) :
    buildOptions c {} {} = previewOptions c := by
  simp only [buildOptions, previewOptions, h]
  rfl

theorem servicesInput_eq_ok {i : ServicesInput} (h : servicesInput env dynamicYaml c = .ok i) :
    InputFor env dynamicYaml c i := by
  obtain ⟨text, htext, h⟩ := bind_eq_ok.mp h
  obtain ⟨doc, hdoc, h⟩ := bind_eq_ok.mp h
  obtain rfl := Except.ok.inj h
  have htext := mapError_eq_ok.mp (call_eq_ok.mp htext)
  have hdoc := mapError_eq_ok.mp (call_eq_ok.mp hdoc)
  refine ⟨fun r hr hnone => ?_, fun r hr => ?_, rfl, ?_, rfl⟩
  · obtain ⟨defCred, visCred, hdef, hvis, hconfig⟩ := renderConfig_eq_ok hr
    obtain rfl := Except.ok.inj (hdef.symm.trans (hnone.2 .default))
    obtain rfl := Except.ok.inj (hvis.symm.trans (hnone.2 .visibility))
    rw [buildOptions_uncredentialed hnone.1] at hconfig
    exact Except.ok.inj (htext.symm.trans hconfig)
  · obtain rfl := Except.ok.inj (hdoc.symm.trans (renderConfig_dynamicConfig hr))
    rfl
  · unfold TemplateInputs.unhashed
    rw [templateInputs_mounts, mtlsMounts]
    cases mTLSEnabled c.spec <;> rfl

/-! ## Services -/

/-- A Deployment is applied as it is built from the inputs of the preview, but for the hashes and the wiring. -/
theorem shows_deployment {i : ServicesInput} (hi : InputFor env dynamicYaml c i) {svc : ServiceInfo}
    {r : RenderedConfig} (hr : TemporalOperator.renderConfig env c = .ok r) {version : String}
    {applied built : Deployment} (happlied : buildDeployment env c svc version = .ok applied)
    (hbuilt : buildDeploymentFrom env c svc i.templateInputs version = .ok built) :
    ShowsDeployment env c { applied with template := wiredTemplate c applied.template } built := by
  unfold buildDeployment at happlied
  obtain ⟨hlabels, hspec⟩ := buildDeploymentFrom_agree rfl hi.mtls.symm happlied hbuilt
  obtain ⟨hwiredLabels, hwiredSpec⟩ := wiredTemplate_agree c hlabels hspec
  obtain ⟨-, -, -, hd⟩ := buildDeploymentFrom_eq_ok happlied
  obtain ⟨-, -, -, hd'⟩ := buildDeploymentFrom_eq_ok hbuilt
  refine ⟨?_, ?_, hwiredLabels, hwiredSpec, fun key hdyn hcert hconfig => ?_⟩
  · rw [hd, hd']
  · rw [hd, hd']
  · rw [wiredTemplate_annotations, buildDeploymentFrom_annotations happlied, buildDeploymentFrom_annotations hbuilt,
      lookup_podAnnotations, lookup_podAnnotations, if_neg hdyn, if_neg hcert, if_neg hdyn, if_neg hcert]
    by_cases hkey : key = configHashAnnotationKey
    · have htext := hi.config r hr (hconfig hkey)
      rw [if_pos hkey, if_pos hkey, templateInputs_of_rendered hr, ServicesInput.templateInputs, hi.hash, htext]
    · rw [if_neg hkey, if_neg hkey]

theorem enabledService_eq {spec : ClusterSpec} {svc : ServiceInfo} (h : svc ∈ enabledServices spec) :
    enabledService spec svc.name = svc := by
  unfold enabledService
  cases hfind : (enabledServices spec).find? fun svc' => svc'.name = svc.name with
  | none => simpa using List.find?_eq_none.mp hfind svc h
  | some svc' =>
    exact enabledServices_unique (List.mem_of_find?_eq_some hfind) h (by simpa using List.find?_some hfind)

theorem frontend_mem_enabledServices (spec : ClusterSpec) : ⟨.frontend, spec.services.frontend⟩ ∈ enabledServices spec := by
  unfold enabledServices
  dsimp only
  split
  · split <;> simp
  · simp

/-- The service that a planned object is shown with. -/
def Planned.shownFor : Planned → Option Service
  | .deployment s _ _ | .headlessService s => some s
  | _ => none

theorem shows_builtObject {i : ServicesInput} (hi : InputFor env dynamicYaml c i) {obj : Planned} {shown : Object}
    (hobj : Planned.shownFor obj = none) (h : builtObject c i obj = .ok shown) : Shows env dynamicYaml c obj shown := by
  cases obj with
  | deployment | headlessService => cases hobj
  | internodeCertificate =>
    obtain ⟨cert, hcert, rfl⟩ := map_eq_ok.mp h
    exact .internodeCertificate (deref_eq_ok.mp hcert)
  | frontendCertificate =>
    obtain ⟨cert, hcert, rfl⟩ := map_eq_ok.mp h
    exact .frontendCertificate (deref_eq_ok.mp hcert)
  | uiClientCertificate =>
    obtain ⟨cert, hcert, rfl⟩ := map_eq_ok.mp h
    exact .uiClientCertificate hcert
  | configSecret =>
    obtain rfl := Except.ok.inj h
    exact .configSecret hi.config
  | dynamicConfigMap =>
    obtain rfl := Except.ok.inj h
    exact .dynamicConfigMap fun r hr => congrArg buildDynamicConfigMap (hi.dynamicConfig r hr)
  | frontendService =>
    obtain rfl := Except.ok.inj h
    have hmem := frontend_mem_enabledServices c.spec
    rw [enabledService_eq hmem]
    exact .frontendService hmem rfl
  | podDisruptionBudget =>
    obtain rfl := Except.ok.inj h
    exact .podDisruptionBudget
  | uiDeployment =>
    obtain rfl := Except.ok.inj h
    exact .uiDeployment
  | uiService =>
    obtain rfl := Except.ok.inj h
    exact .uiService
  | uiIngress =>
    obtain rfl := Except.ok.inj h
    exact .uiIngress
  | serviceMonitor =>
    obtain rfl := Except.ok.inj h
    exact .serviceMonitor

theorem shows_planService {i : ServicesInput} (hi : InputFor env dynamicYaml c i) {versions : List (Service × String)}
    {svc : ServiceInfo} (hsvc : svc ∈ enabledServices c.spec) {r : RenderedConfig}
    (hr : TemporalOperator.renderConfig env c = .ok r) {applied planned : List Planned} {shown : List Object}
    (happlied : planService env c (templateInputs env c) versions svc = .ok applied)
    (hplanned : planService env c i.templateInputs i.serviceVersions svc = .ok planned)
    (hshown : planned.mapM (builtObject c i) = .ok shown) :
    List.Forall₂ (Shows env dynamicYaml c) (applied.map (wireAzure c)) shown := by
  obtain ⟨d, hd, hobjs⟩ := bind_eq_ok.mp happlied
  obtain ⟨d', hd', hobjs'⟩ := bind_eq_ok.mp hplanned
  obtain rfl := Except.ok.inj hobjs
  obtain rfl := Except.ok.inj hobjs'
  rw [hi.versions] at hd'
  obtain ⟨built, hbuilt⟩ := buildDeploymentFrom_ok_of_unhashed hi.mtls.symm hd
  have hspec : (versions.lookup svc.name).getD "" = c.spec.version → built = d' := by
    intro hv
    rw [hv, buildDeploymentFrom_specVersion] at hbuilt
    exact Except.ok.inj (hbuilt.symm.trans hd')
  obtain _ | ⟨hdeployment, _ | ⟨hheadless, _ | ⟨hpdb, hrest⟩⟩⟩ := forall₂_of_mapM hshown
  obtain rfl := Except.ok.inj hdeployment
  obtain rfl := Except.ok.inj hheadless
  rw [enabledService_eq hsvc]
  refine .cons (.deployment hd' hbuilt (shows_deployment hi hr hd hbuilt) hspec) (.cons (.headlessService hsvc)
    (.cons (shows_builtObject hi rfl hpdb) ?_))
  by_cases hname : svc.name = .frontend
  · rw [if_pos hname] at hrest ⊢
    obtain _ | ⟨hservice, _ | _⟩ := hrest
    exact .cons (shows_builtObject hi rfl hservice) .nil
  · rw [if_neg hname] at hrest ⊢
    obtain _ | _ := hrest
    exact .nil

theorem shows_planEach {i : ServicesInput} (hi : InputFor env dynamicYaml c i) {versions : List (Service × String)}
    {r : RenderedConfig} (hr : TemporalOperator.renderConfig env c = .ok r) {svcs : List ServiceInfo}
    (hsvcs : svcs ⊆ enabledServices c.spec) {applied planned : List Planned} {shown : List Object}
    (happlied : planEach env c (templateInputs env c) versions svcs = .ok applied)
    (hplanned : planEach env c i.templateInputs i.serviceVersions svcs = .ok planned)
    (hshown : planned.mapM (builtObject c i) = .ok shown) :
    List.Forall₂ (Shows env dynamicYaml c) (applied.map (wireAzure c)) shown := by
  induction svcs generalizing applied planned shown with
  | nil =>
    obtain rfl := Except.ok.inj happlied
    obtain rfl := Except.ok.inj hplanned
    obtain rfl := Except.ok.inj hshown
    exact .nil
  | cons svc svcs ih =>
    obtain ⟨own, hown, h⟩ := bind_eq_ok.mp happlied
    obtain ⟨rest, hrest, h⟩ := bind_eq_ok.mp h
    obtain rfl := Except.ok.inj h
    obtain ⟨own', hown', h'⟩ := bind_eq_ok.mp hplanned
    obtain ⟨rest', hrest', h'⟩ := bind_eq_ok.mp h'
    obtain rfl := Except.ok.inj h'
    rw [List.mapM_append] at hshown
    obtain ⟨ownShown, hownShown, hshown⟩ := bind_eq_ok.mp hshown
    obtain ⟨restShown, hrestShown, hshown⟩ := bind_eq_ok.mp hshown
    obtain rfl := Except.ok.inj hshown
    obtain ⟨hsvc, hrestSvcs⟩ := List.cons_subset.mp hsvcs
    rw [List.map_append]
    exact List.rel_append (shows_planService hi hsvc hr hown hown' hownShown) (ih hrestSvcs hrest hrest' hrestShown)

/-! ## Phases -/

theorem build_eq_ok {i : ServicesInput} {phase : Phase} {planned : List Planned} {shown : List PlannedObject}
    (h : build c i phase planned = .ok shown) (hphase : phase ≠ .persistenceSchema) :
    planned.mapM (builtObject c i) = .ok (shownObjects shown) := by
  obtain ⟨objs, hobjs, rfl⟩ := map_eq_ok.mp h
  rw [hobjs, shownObjects_tag, if_neg hphase]

theorem shows_build {i : ServicesInput} (hi : InputFor env dynamicYaml c i) {phase : Phase} {planned : List Planned}
    {shown : List PlannedObject} (h : build c i phase planned = .ok shown) (hphase : phase ≠ .persistenceSchema)
    (hplanned : ∀ obj ∈ planned, Planned.shownFor obj = none) :
    List.Forall₂ (Shows env dynamicYaml c) planned (shownObjects shown) := by
  have hbuilt := (List.forall₂_and_left _ _).mpr ⟨hplanned, forall₂_of_mapM (build_eq_ok h hphase)⟩
  exact hbuilt.imp fun obj o hobj => shows_builtObject hi hobj.1 hobj.2

theorem shows_services {i : ServicesInput} (hi : InputFor env dynamicYaml c i) {planned : List Planned}
    {shown : List PlannedObject} (hplanned : planServices env c i.templateInputs i.serviceVersions = .ok planned)
    (hshown : build c i .coreServices planned = .ok shown) (st : ClusterStatus) (versions : List (Service × String)) :
    servicesToApply env c st versions = [] ∨
      List.Forall₂ (Shows env dynamicYaml c) (servicesToApply env c st versions) (shownObjects shown) := by
  unfold servicesToApply
  split
  · exact .inl rfl
  cases hplan : TemporalOperator.renderConfig env c >>= fun _ => planServices env c (templateInputs env c) versions with
  | error e => exact .inl rfl
  | ok applied =>
    right
    obtain ⟨r, hr, happlied⟩ := bind_eq_ok.mp hplan
    obtain ⟨objs, hobjs, h⟩ := bind_eq_ok.mp happlied
    obtain rfl := Except.ok.inj h
    obtain ⟨objs', hobjs', h'⟩ := bind_eq_ok.mp hplanned
    obtain rfl := Except.ok.inj h'
    have hbuilt := build_eq_ok hshown (by decide)
    rw [List.mapM_append] at hbuilt
    obtain ⟨configs, hconfigs, hbuilt⟩ := bind_eq_ok.mp hbuilt
    obtain ⟨rest, hrest, hbuilt⟩ := bind_eq_ok.mp hbuilt
    rw [← Except.ok.inj hbuilt]
    simp only [List.map_append]
    obtain _ | ⟨hsecret, _ | ⟨hmap, _ | _⟩⟩ := forall₂_of_mapM hconfigs
    exact List.rel_append (.cons (shows_builtObject hi rfl hsecret) (.cons (shows_builtObject hi rfl hmap) .nil))
      (shows_planEach hi hr (List.Subset.refl _) hobjs hobjs' hrest)

theorem planMTLS_shownFor {spec : ClusterSpec} : ∀ obj ∈ planMTLS spec, Planned.shownFor obj = none := by
  intro obj hobj
  rcases mem_planMTLS.mp hobj with ⟨-, rfl | rfl⟩ <;> rfl

theorem planUI_shownFor {spec : ClusterSpec} : ∀ obj ∈ planUI spec, Planned.shownFor obj = none := by
  intro obj hobj
  unfold planUI at hobj
  split at hobj
  · cases hobj
  · split at hobj
    · cases hobj
    · simp only [List.mem_append, List.mem_cons, List.not_mem_nil, or_false] at hobj
      rcases hobj with (hobj | rfl | rfl) | hobj
      · split at hobj
        · obtain rfl := List.mem_singleton.mp hobj
          rfl
        · cases hobj
      · rfl
      · rfl
      · split at hobj
        · obtain rfl := List.mem_singleton.mp hobj
          rfl
        · cases hobj

theorem planMonitoring_shownFor {spec : ClusterSpec} : ∀ obj ∈ planMonitoring spec, Planned.shownFor obj = none := by
  intro obj hobj
  unfold planMonitoring at hobj
  split at hobj
  · obtain rfl := List.mem_singleton.mp hobj
    rfl
  · cases hobj

theorem shownObjects_schemaJobs {jobs : List PlannedObject} (h : planSchemaJobs env c = .ok jobs) :
    shownObjects jobs = [] := by
  obtain ⟨default, -, h⟩ := bind_eq_ok.mp h
  obtain ⟨visibility, -, h⟩ := bind_eq_ok.mp h
  obtain rfl := Except.ok.inj h
  rw [shownObjects_tag, if_pos rfl]

/-! ## Passes -/

theorem planFromSpec_parts {plan : List PlannedObject} (h : planFromSpec env dynamicYaml c = .ok plan) :
    ∃ certs services ui monitoring, shownObjects plan = certs ++ (services ++ (ui ++ monitoring)) ∧
      List.Forall₂ (Shows env dynamicYaml c) (planMTLS c.spec) certs ∧
      (∀ st versions, servicesToApply env c st versions = [] ∨
        List.Forall₂ (Shows env dynamicYaml c) (servicesToApply env c st versions) services) ∧
      List.Forall₂ (Shows env dynamicYaml c) (planUI c.spec) ui ∧
      List.Forall₂ (Shows env dynamicYaml c) (planMonitoring c.spec) monitoring := by
  obtain ⟨input, hinput, h⟩ := bind_eq_ok.mp h
  obtain ⟨jobs, hjobs, h⟩ := bind_eq_ok.mp h
  obtain ⟨certs, hcerts, h⟩ := bind_eq_ok.mp h
  obtain ⟨planned, hplanned, h⟩ := bind_eq_ok.mp h
  obtain ⟨services, hservices, h⟩ := bind_eq_ok.mp h
  obtain ⟨ui, hui, h⟩ := bind_eq_ok.mp h
  obtain ⟨monitoring, hmonitoring, h⟩ := bind_eq_ok.mp h
  obtain rfl := Except.ok.inj h
  have hi := servicesInput_eq_ok hinput
  refine ⟨shownObjects certs, shownObjects services, shownObjects ui, shownObjects monitoring, ?_,
    shows_build hi hcerts (by decide) planMTLS_shownFor, shows_services hi (call_eq_ok.mp hplanned) hservices,
    shows_build hi hui (by decide) planUI_shownFor, shows_build hi hmonitoring (by decide) planMonitoring_shownFor⟩
  simp only [shownObjects_append, shownObjects_schemaJobs hjobs, List.nil_append, List.append_assoc]

theorem sublistForall₂_append {R : Planned → Object → Prop} {as bs : List Planned} {as' bs' : List Object}
    (h : as.SublistForall₂ R as') (h' : bs.SublistForall₂ R bs') : (as ++ bs).SublistForall₂ R (as' ++ bs') := by
  obtain ⟨l, hl, hsub⟩ := List.sublistForall₂_iff.mp h
  obtain ⟨l', hl', hsub'⟩ := List.sublistForall₂_iff.mp h'
  exact List.sublistForall₂_iff.mpr ⟨l ++ l', List.rel_append hl hl', hsub.append hsub'⟩

theorem sublistForall₂_of_prefix {R : Planned → Object → Prop} {as bs : List Planned} {shown : List Object}
    (h : as <+: bs) (hbs : bs.SublistForall₂ R shown) : as.SublistForall₂ R shown := by
  obtain ⟨l, hl, hsub⟩ := List.sublistForall₂_iff.mp hbs
  rw [List.prefix_iff_eq_take.mp h]
  exact List.sublistForall₂_iff.mpr ⟨l.take as.length, List.forall₂_take _ hl, (List.take_sublist _ _).trans hsub⟩

theorem sublistForall₂_of_forall₂ {R : Planned → Object → Prop} {as : List Planned} {shown : List Object}
    (h : List.Forall₂ R as shown) : as.SublistForall₂ R shown :=
  List.sublistForall₂_iff.mpr ⟨shown, h, List.Sublist.refl _⟩

/-- Outside an upgrade every Deployment is applied at the version of the spec. -/
theorem applied_specVersion (h : ¬ UpgradeDue c.spec c.status) {s : Service} {v : String} {d : Deployment}
    (happlied : .deployment s v d ∈ appliedObjects (reconcile env c).log) : v = c.spec.version := by
  obtain ⟨st, hat, -, -, hv⟩ := deployment_event (mem_appliedObjects.mp happlied)
  rw [upgradeOutcome_of_not_due env fun hdue => h (hat.upgradeDue_iff.mp hdue)] at hv
  exact hv.trans (serviceVersion_of_none rfl c.spec s)

/-- **A pass applies what the preview shows.** Let the preview of a cluster succeed. Whatever a pass over the cluster meets,
and whether it comes to its end or not, the objects that it applies are pictured in the preview, in the preview's order. A
pass that comes to its end with the schema ready, where ServiceMonitors can be applied, applies all that is shown beside
the schema Jobs; and outside an upgrade all its Deployments are at the version that is shown. -/
theorem preview_shows_pass {plan : List PlannedObject} (h : planFromSpec env dynamicYaml c = .ok plan) :
    (appliedObjects (reconcile env c).log).SublistForall₂ (Shows env dynamicYaml c) (shownObjects plan) ∧
      (∀ st', (reconcile env c).res = .ok st' → st'.holds .schemaReady = true → env.serviceMonitorCRDInstalled = true →
        List.Forall₂ (Shows env dynamicYaml c) (appliedObjects (reconcile env c).log) (shownObjects plan)) ∧
      (¬ UpgradeDue c.spec c.status → ∀ s v d, .deployment s v d ∈ appliedObjects (reconcile env c).log →
        v = c.spec.version) := by
  obtain ⟨certs, services, ui, monitoring, hplan, hcerts, hservices, hui, hshown⟩ := planFromSpec_parts h
  rw [hplan]
  refine ⟨?_, fun st' hres hready hcrd => ?_, fun hdue s v d => applied_specVersion hdue⟩
  · -- the services of the pass, if it comes to them
    obtain ⟨applied, hat, happlied⟩ : ∃ applied, (∀ st, AtUpgrade env c st → servicesToApply env c
        (upgradeOutcome env c.spec st) (serviceVersions c.spec (upgradeOutcome env c.spec st)) = applied) ∧
        applied.SublistForall₂ (Shows env dynamicYaml c) services := by
      by_cases hex : ∃ st, AtUpgrade env c st
      · obtain ⟨st, hst⟩ := hex
        refine ⟨servicesToApply env c (upgradeOutcome env c.spec st)
          (serviceVersions c.spec (upgradeOutcome env c.spec st)), fun st' hst' => by rw [hst.unique hst'], ?_⟩
        rcases hservices (upgradeOutcome env c.spec st) (serviceVersions c.spec (upgradeOutcome env c.spec st)) with
          hnone | hall
        · rw [hnone]
          exact .nil
        · exact sublistForall₂_of_forall₂ hall
      · exact ⟨[], fun st hst => absurd ⟨st, hst⟩ hex, .nil⟩
    refine sublistForall₂_of_prefix (writes_reconcile hat).begins (sublistForall₂_append
      (sublistForall₂_of_forall₂ hcerts) (sublistForall₂_append happlied (sublistForall₂_append
        (sublistForall₂_of_forall₂ hui) ?_)))
    unfold monitoringToApply
    split
    · exact sublistForall₂_of_forall₂ hshown
    · exact .nil
  · obtain ⟨st, served, hstages⟩ := reconcile_stages hres
    have hat : ∀ st', AtUpgrade env c st' → servicesToApply env c (upgradeOutcome env c.spec st')
        (serviceVersions c.spec (upgradeOutcome env c.spec st')) = servicesToApply env c (upgradeOutcome env c.spec st)
        (serviceVersions c.spec (upgradeOutcome env c.spec st)) := fun st' hst' => by rw [hstages.reached.unique hst']
    have happlied := (writes_reconcile hat).ends st' hres
    rw [hstages.schemaReady_eq] at hready
    have hmonitoring : monitoringToApply env c = planMonitoring c.spec := if_pos hcrd
    rw [appliedObjects, happlied, hmonitoring]
    refine List.rel_append hcerts (List.rel_append ?_ (List.rel_append hui hshown))
    refine (hservices _ _).resolve_left fun hnone => ?_
    exact servicesToApply_ne_nil hready hstages.services hnone

end

def fullCluster : Cluster :=
  ClusterWebhook.default
    { name := "temporal"
      spec :=
        { sampleSpec "1.31.0" with
          mtls := some { issuerRef := some "internal-ca" }
          ui := some { enabled := true, ingress := some true }
          metrics := some { enabled := true, serviceMonitor := some true } } }

def fullReads : PassEnv := { certifiedReads with serviceMonitorCRDInstalled := true }

theorem preview_shows_pass_full :
    ∃ plan, planFromSpec fullReads (fun _ => "") fullCluster = .ok plan ∧
      List.Forall₂ (Shows fullReads (fun _ => "") fullCluster) (appliedObjects (reconcile fullReads fullCluster).log)
        (shownObjects plan) ∧ (appliedObjects (reconcile fullReads fullCluster).log).length = 22 := by
  obtain ⟨plan, hplan⟩ := exists_ok_of_isOk (show (planFromSpec fullReads (fun _ => "") fullCluster).isOk = true by
    decide +kernel)
  obtain ⟨st, hres⟩ := exists_ok_of_isOk (show (reconcile fullReads fullCluster).res.isOk = true by decide +kernel)
  have hready : ((reconcile fullReads fullCluster).res.toOption.map fun st => st.holds .schemaReady) = some true := by
    decide +kernel
  rw [hres] at hready
  exact ⟨plan, hplan, (preview_shows_pass hplan).2.1 st hres (Option.some.inj hready) rfl, by decide +kernel⟩

end TemporalOperator.Plan
