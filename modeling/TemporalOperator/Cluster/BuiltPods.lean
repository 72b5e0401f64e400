import TemporalOperator.Cluster.SwitchOff
import TemporalOperator.Cluster.TLSFiles
import TemporalOperator.Lib.GoMap

/-!
# The lists of built pods

The pods of the services and of the UI as `BuildDeployment`, `ApplyAzureServerWorkloadIdentity` and `BuildUIDeployment`
make them. Server-side apply keys the lists of a container by name, number or path; the Deployment rolls its pods
whenever the template is another one.

* `ValidPod` : the lists have no key twice, and what is mounted is declared; `ValidPod.azure` : the wiring keeps it;
* `names_uiEnv` : the variables of the UI, its own and then those of `ui.auth.extraEnv`;
* `rollouts` : how often a sequence of applied templates rolls the pods.
-/

namespace TemporalOperator
open Lib

/-! ## Valid pods -/

structure ValidContainer (volumes : List Volume) (k : Container) : Prop where
  env : (k.env.map Prod.fst).Nodup
  ports : (k.ports.map Prod.snd).Nodup
  mounts : (k.volumeMounts.map VolumeMount.mountPath).Nodup
  declared : ∀ m ∈ k.volumeMounts, m.name ∈ volumes.map Volume.name

structure ValidPod (tmpl : PodTemplate) : Prop where
  volumes : (tmpl.spec.volumes.map Volume.name).Nodup
  containers : ∀ k ∈ tmpl.spec.containers ++ tmpl.spec.initContainers, ValidContainer tmpl.spec.volumes k

theorem ValidContainer.mono {volumes volumes' : List Volume} {k : Container} (h : ValidContainer volumes k)
    (hsub : ∀ v ∈ volumes, v ∈ volumes') : ValidContainer volumes' k where
  env := h.env
  ports := h.ports
  mounts := h.mounts
  declared m hm := by
    obtain ⟨v, hv, hname⟩ := List.mem_map.mp (h.declared m hm)
    exact List.mem_map.mpr ⟨v, hsub v hv, hname⟩

/-! ## Azure wiring -/

theorem subset_ensureAzureTokenVolume {volumes : List Volume} : ∀ v ∈ volumes, v ∈ ensureAzureTokenVolume volumes := by
  intro v hv
  unfold ensureAzureTokenVolume
  split
  · exact hv
  · exact List.mem_append_left _ hv

theorem token_ensureAzureTokenVolume (volumes : List Volume) :
    "azure-token" ∈ (ensureAzureTokenVolume volumes).map Volume.name := by
  unfold ensureAzureTokenVolume
  split
  case isTrue h =>
    obtain ⟨v, hv, hname⟩ := List.any_eq_true.mp h
    exact List.mem_map.mpr ⟨v, hv, of_decide_eq_true hname⟩
  case isFalse => simp

theorem nodup_ensureAzureTokenVolume {volumes : List Volume} (h : (volumes.map Volume.name).Nodup) :
    ((ensureAzureTokenVolume volumes).map Volume.name).Nodup := by
  unfold ensureAzureTokenVolume
  split
  · exact h
  case isFalse hnone =>
    have hnew : "azure-token" ∉ volumes.map Volume.name := by
      intro hmem
      obtain ⟨v, hv, hname⟩ := List.mem_map.mp hmem
      exact hnone (List.any_eq_true.mpr ⟨v, hv, decide_eq_true hname⟩)
    rw [List.map_append, List.map_singleton]
    exact List.Nodup.append h (List.nodup_singleton _) (by simpa using hnew)

theorem ValidContainer.withAzureTokenMount {volumes : List Volume} {k : Container} (h : ValidContainer volumes k)
    (hpath : "/azure" ∉ k.volumeMounts.map VolumeMount.mountPath) :
    ValidContainer (ensureAzureTokenVolume volumes) (withAzureTokenMount k) := by
  have hmono := h.mono subset_ensureAzureTokenVolume
  unfold TemporalOperator.withAzureTokenMount
  split
  · exact hmono
  · refine ⟨h.env, h.ports, ?_, ?_⟩
    · rw [List.map_append, List.map_singleton]
      exact List.Nodup.append h.mounts (List.nodup_singleton _) (by simpa using hpath)
    · intro m hm
      rcases List.mem_append.mp hm with hm | hm
      · exact hmono.declared m hm
      · obtain rfl := List.mem_singleton.mp hm
        exact token_ensureAzureTokenVolume volumes

theorem validContainer_azureToken (wi : AzureWorkloadIdentitySpec) (name script : String) (volumes : List Volume) :
    ValidContainer (ensureAzureTokenVolume volumes) (azureTokenContainer wi name script) where
  env := List.nodup_nil
  ports := List.nodup_nil
  mounts := List.nodup_singleton _
  declared m hm := by
    obtain rfl := List.mem_singleton.mp hm
    exact token_ensureAzureTokenVolume volumes

theorem mem_ensureAzureTokenMount {name : String} {cs : List Container} {k : Container}
    (h : k ∈ ensureAzureTokenMount name cs) : ∃ k' ∈ cs, k = k' ∨ k = withAzureTokenMount k' := by
  induction cs with
  | nil => cases h
  | cons c cs ih =>
    unfold ensureAzureTokenMount at h
    split at h
    · rcases List.mem_cons.mp h with rfl | h
      · exact ⟨c, List.mem_cons_self, .inr rfl⟩
      · exact ⟨k, List.mem_cons_of_mem _ h, .inl rfl⟩
    · rcases List.mem_cons.mp h with rfl | h
      · exact ⟨k, List.mem_cons_self, .inl rfl⟩
      · obtain ⟨k', hk', heq⟩ := ih h
        exact ⟨k', List.mem_cons_of_mem _ hk', heq⟩

theorem mem_ensureNamedContainer {cs : List Container} {container k : Container}
    (h : k ∈ ensureNamedContainer cs container) : k ∈ cs ∨ k = container := by
  unfold ensureNamedContainer at h
  split at h
  · exact .inl h
  · simpa using h

/-- The wiring keeps a pod valid, unless something else is mounted where the token goes. -/
theorem ValidPod.azure {tmpl : PodTemplate} (h : ValidPod tmpl)
    (hpath : ∀ k ∈ tmpl.spec.containers, "/azure" ∉ k.volumeMounts.map VolumeMount.mountPath)
    (c : Cluster) (wi : AzureWorkloadIdentitySpec) : ValidPod (applyAzureServerWorkloadIdentity c wi tmpl) where
  volumes := nodup_ensureAzureTokenVolume h.volumes
  containers k hk := by
    have hvalid : ∀ k ∈ tmpl.spec.containers ++ tmpl.spec.initContainers,
        ValidContainer (ensureAzureTokenVolume tmpl.spec.volumes) k :=
      fun k hk => (h.containers k hk).mono subset_ensureAzureTokenVolume
    rcases List.mem_append.mp hk with hk | hk
    · rcases mem_ensureNamedContainer hk with hk | rfl
      · obtain ⟨k', hk', rfl | rfl⟩ := mem_ensureAzureTokenMount hk
        · exact hvalid _ (List.mem_append_left _ hk')
        · exact (h.containers k' (List.mem_append_left _ hk')).withAzureTokenMount (hpath k' hk')
      · exact validContainer_azureToken wi _ _ _
    · rcases mem_ensureNamedContainer hk with hk | rfl
      · exact hvalid k (List.mem_append_right _ hk)
      · exact validContainer_azureToken wi _ _ _

/-! ## Services -/

/-- The volumes of a service with and without certificates. -/
def volumeNamesOf (s : Service) (certs : Bool) : List String :=
  ["config", "dynamicconfig", "processed-config"] ++
    if certs then "internode-certs" :: (if servesFrontend s then ["frontend-certs"] else []) else []

def mountPathsOf (s : Service) (certs : Bool) : List String :=
  ["/etc/temporal/config", "/etc/temporal/dynamicconfig", "/tmp/temporal"] ++
    if certs then Config.internodeCertDir :: (if servesFrontend s then [Config.frontendCertDir] else []) else []

section
variable (c : Cluster) (svc : ServiceInfo) (i : TemplateInputs) (version : String)

theorem names_serverVolumes :
    (serverVolumes c svc i).map Volume.name = volumeNamesOf svc.name i.mounts.isSome := by
  unfold serverVolumes volumeNamesOf
  cases i.mounts with
  | none => rfl
  | some m => cases svc.name <;> rfl

theorem names_serverMounts :
    (serverContainer c svc i version).volumeMounts.map VolumeMount.name = volumeNamesOf svc.name i.mounts.isSome := by
  unfold serverContainer volumeNamesOf
  cases i.mounts.isSome with
  | false => rfl
  | true => cases svc.name <;> rfl

theorem paths_serverMounts :
    (serverContainer c svc i version).volumeMounts.map VolumeMount.mountPath =
      mountPathsOf svc.name i.mounts.isSome := by
  unfold serverContainer mountPathsOf
  cases i.mounts.isSome with
  | false => rfl
  | true => cases svc.name <;> rfl

theorem volumeNamesOf_nodup (s : Service) (certs : Bool) : (volumeNamesOf s certs).Nodup := by
  cases s <;> cases certs <;> decide

theorem mountPathsOf_nodup (s : Service) (certs : Bool) :
    (mountPathsOf s certs).Nodup ∧ "/azure" ∉ mountPathsOf s certs := by
  cases s <;> cases certs <;> decide

theorem containerPorts_nodup (s : Service) : ((containerPorts s).map Prod.snd).Nodup := by
  cases s <;> decide

theorem validPod_generated : ValidPod (generatedTemplate c svc i version) where
  volumes := by
    change ((serverVolumes c svc i).map Volume.name).Nodup
    rw [names_serverVolumes]
    exact volumeNamesOf_nodup _ _
  containers k hk := by
    obtain rfl : k = serverContainer c svc i version := by simpa [generatedTemplate] using hk
    refine ⟨List.nodup_singleton _, containerPorts_nodup svc.name, ?_, fun m hm => ?_⟩
    · rw [paths_serverMounts]
      exact (mountPathsOf_nodup _ _).1
    · change m.name ∈ (serverVolumes c svc i).map Volume.name
      rw [names_serverVolumes, ← names_serverMounts c svc i version]
      exact List.mem_map_of_mem hm

theorem validPod_wired : ValidPod (wiredTemplate c (generatedTemplate c svc i version)) := by
  unfold wiredTemplate
  cases c.spec.persistence.azureWorkloadIdentity with
  | none => exact validPod_generated c svc i version
  | some wi =>
    refine (validPod_generated c svc i version).azure (fun k hk => ?_) c wi
    obtain rfl := List.mem_singleton.mp hk
    rw [paths_serverMounts]
    exact (mountPathsOf_nodup _ _).2

end

/-! ## Variables of the UI -/

/-- The variables of `uiAuthEnv` besides the extra ones. -/
def uiAuthVariables : List String :=
  ["TEMPORAL_AUTH_ENABLED", "TEMPORAL_AUTH_TYPE", "TEMPORAL_AUTH_PROVIDER_URL", "TEMPORAL_AUTH_CLIENT_ID",
    "TEMPORAL_AUTH_SCOPES", "TEMPORAL_AUTH_CALLBACK_URL", "TEMPORAL_AUTH_CLIENT_SECRET"]

def uiVariables (spec : ClusterSpec) : List String :=
  ["TEMPORAL_ADDRESS", "TEMPORAL_UI_PORT"] ++
    (if mTLSEnabled spec then
      ["TEMPORAL_TLS_CA", "TEMPORAL_TLS_CERT", "TEMPORAL_TLS_KEY", "TEMPORAL_TLS_ENABLE_HOST_VERIFICATION",
        "TEMPORAL_TLS_SERVER_NAME"]
    else []) ++
    (if (spec.ui.bind UISpec.codecServer).isSome then ["TEMPORAL_CODEC_ENDPOINT"] else []) ++
    if (uiAuth spec).isSome then uiAuthVariables else []

theorem uiVariables_nodup (spec : ClusterSpec) : (uiVariables spec).Nodup := by
  unfold uiVariables
  cases mTLSEnabled spec <;> cases (spec.ui.bind UISpec.codecServer).isSome <;> cases (uiAuth spec).isSome <;> decide

theorem uiAuth_eq_some {spec : ClusterSpec} {a : UIAuthSpec} (h : uiAuth spec = some a) :
    spec.ui.bind UISpec.auth = some a ∧ a.enabled = true := by
  simpa [uiAuth, Option.filter_eq_some_iff] using h

theorem admitted_clientSecretRef {c : Cluster} {a : UIAuthSpec} (hadmitted : ClusterWebhook.validateCreate c = [])
    (h : uiAuth c.spec = some a) : ∃ name, a.clientSecretRef = some name := by
  obtain ⟨hauth, henabled⟩ := uiAuth_eq_some h
  have hvalid := (ClusterWebhook.SpecPasses.of_valid hadmitted).uiAuth
  cases hsecret : a.clientSecretRef with
  | some name => exact ⟨name, rfl⟩
  | none => simp [ClusterWebhook.validateUIAuth, hauth, henabled, hsecret, ClusterWebhook.check] at hvalid

theorem names_uiAuthEnv {a : UIAuthSpec} {name : String} (h : a.clientSecretRef = some name)
    (extra : List (String × String)) : (uiAuthEnv a extra).map Prod.fst = uiAuthVariables ++ extra.map Prod.fst := by
  simp [uiAuthEnv, uiAuthVariables, h, Function.comp_def]

/-- The variables of an admitted UI: those of the operator, then the extra ones. -/
theorem names_uiEnv {c : Cluster} (hadmitted : ClusterWebhook.validateCreate c = []) (extra : List (String × String)) :
    (uiEnv c extra).map Prod.fst =
      uiVariables c.spec ++ if (uiAuth c.spec).isSome then extra.map Prod.fst else [] := by
  have htls : (uiTLSEnv c).map Prod.fst = if mTLSEnabled c.spec then
      ["TEMPORAL_TLS_CA", "TEMPORAL_TLS_CERT", "TEMPORAL_TLS_KEY", "TEMPORAL_TLS_ENABLE_HOST_VERIFICATION",
        "TEMPORAL_TLS_SERVER_NAME"] else [] := by
    unfold uiTLSEnv
    cases mTLSEnabled c.spec <;> rfl
  unfold uiEnv uiVariables
  rw [List.map_append, List.map_append, List.map_append, htls]
  cases hauth : uiAuth c.spec with
  | none => cases c.spec.ui.bind UISpec.codecServer <;> simp
  | some a =>
    obtain ⟨name, hname⟩ := admitted_clientSecretRef hadmitted hauth
    simp only [names_uiAuthEnv hname]
    cases c.spec.ui.bind UISpec.codecServer <;> simp

def FreshVariables (spec : ClusterSpec) : Prop := ∀ name ∈ (uiExtraEnv spec).map Prod.fst, name ∉ uiVariables spec

instance (spec : ClusterSpec) : Decidable (FreshVariables spec) :=
  inferInstanceAs (Decidable (∀ name ∈ (uiExtraEnv spec).map Prod.fst, name ∉ uiVariables spec))

theorem uiExtraEnv_eq_nil {spec : ClusterSpec} (h : uiAuth spec = none) : uiExtraEnv spec = [] := by
  rw [uiExtraEnv, h]
  rfl

theorem uiEnv_nodup_iff {c : Cluster} (hadmitted : ClusterWebhook.validateCreate c = [])
    {extra : List (String × String)} (h : Iteration (uiExtraEnv c.spec) extra) :
    ((uiEnv c extra).map Prod.fst).Nodup ↔ FreshVariables c.spec := by
  rw [names_uiEnv hadmitted]
  cases hauth : uiAuth c.spec with
  | none =>
    simp [FreshVariables, uiExtraEnv_eq_nil hauth, uiVariables_nodup]
  | some a =>
    rw [Option.isSome_some, if_pos rfl, List.nodup_append']
    constructor
    · rintro ⟨-, -, hdisjoint⟩ name hname hset
      exact hdisjoint hset ((h.mem_keys_iff name).mpr hname)
    · intro hfresh
      refine ⟨uiVariables_nodup _, h.nodup, fun name hset hname => ?_⟩
      exact hfresh name ((h.mem_keys_iff name).mp hname) hset

/-- Of the lists of the UI's pod only the variables may have a key twice. -/
theorem validPod_ui_iff (c : Cluster) (extra : List (String × String)) :
    ValidPod (buildUIDeploymentIn c extra).template ↔ ((uiEnv c extra).map Prod.fst).Nodup := by
  constructor
  · intro h
    exact (h.containers _ List.mem_cons_self).env
  · intro henv
    refine ⟨?_, fun k hk => ?_⟩
    · unfold buildUIDeploymentIn
      cases mTLSEnabled c.spec <;> simp
    · obtain rfl := List.mem_singleton.mp hk
      refine ⟨henv, List.nodup_singleton _, ?_, ?_⟩
      · dsimp only
        cases mTLSEnabled c.spec <;> simp
      · unfold buildUIDeploymentIn
        dsimp only
        cases mTLSEnabled c.spec <;> simp

/-! ## What is applied -/

theorem buildDeployment_plain (env : PassEnv) {c : Cluster} (hplain : NoOverrides c.spec) {svc : ServiceInfo}
    (hsvc : svc ∈ enabledServices c.spec) (version : String) :
    ∃ dep, buildDeployment env c svc version = .ok dep ∧
      dep.template = generatedTemplate c svc (templateInputs env c) version := by
  have hshared : c.spec.services.overrides.bind id = none := hplain.1
  unfold buildDeployment buildDeploymentFrom
  rw [hshared, hplain.2 svc hsvc]
  exact ⟨_, rfl, rfl⟩

/-- **Built pods are valid exactly when no extra variable of the UI is one of the operator's.** The services' pods are, with
and without certificates and the Azure wiring; in the UI's pod a key of `ui.auth.extraEnv` may stand beside the same
variable set by the operator. -/
theorem built_pods_valid_iff (env : PassEnv) (c : Cluster) (hadmitted : ClusterWebhook.validateCreate c = [])
    (hplain : NoOverrides c.spec) :
    ((∀ svc ∈ enabledServices c.spec, ∀ version, ∃ dep, buildDeployment env c svc version = .ok dep ∧
        ValidPod dep.template ∧ ValidPod (wiredTemplate c dep.template)) ∧
      (uiEnabled c.spec = true → ∀ extra, Iteration (uiExtraEnv c.spec) extra →
        ValidPod (buildUIDeploymentIn c extra).template)) ↔
      (uiEnabled c.spec = true → FreshVariables c.spec) := by
  constructor
  · rintro ⟨-, hui⟩ henabled
    obtain ⟨extra, hextra⟩ := Iteration.exists_order (uiExtraEnv c.spec)
    exact (uiEnv_nodup_iff hadmitted hextra).mp ((validPod_ui_iff c extra).mp (hui henabled extra hextra))
  · intro hfresh
    refine ⟨fun svc hsvc version => ?_, fun henabled extra hextra => ?_⟩
    · obtain ⟨dep, hdep, htemplate⟩ := buildDeployment_plain env hplain hsvc version
      refine ⟨dep, hdep, ?_⟩
      rw [htemplate]
      exact ⟨validPod_generated c svc _ version, validPod_wired c svc _ version⟩
    · exact (validPod_ui_iff c extra).mpr ((uiEnv_nodup_iff hadmitted hextra).mpr (hfresh henabled))

def withExtraEnv (extra : List (String × String)) : Cluster :=
  { sampleCluster "1.31.0" with
    spec := { (sampleCluster "1.31.0").spec with
      ui := some
        { enabled := true
          auth := some
            { enabled := true, providerURL := "https://id.example", clientID := "temporal-ui",
              clientSecretRef := some "ui-client", callbackURL := "https://ui.example/auth/sso/callback",
              extraEnv := some (.entries extra) } } } }

theorem built_pods_valid_fresh :
    let c := withExtraEnv [("TEMPORAL_AUTH_DEBUG", "true")]
    ClusterWebhook.validateCreate c = [] ∧ NoOverrides c.spec ∧ uiEnabled c.spec = true ∧
      ∀ extra, Iteration (uiExtraEnv c.spec) extra → ValidPod (buildUIDeploymentIn c extra).template := by
  intro c
  have hadmitted : ClusterWebhook.validateCreate c = [] := by decide +kernel
  have hplain : NoOverrides c.spec := by decide
  have hfresh : uiEnabled c.spec = true → FreshVariables c.spec := by decide +kernel
  exact ⟨hadmitted, hplain, rfl, ((built_pods_valid_iff {} c hadmitted hplain).mpr hfresh).2 rfl⟩

/-- The user sets the address of the frontend once more. -/
theorem built_pod_repeats_variable :
    let c := withExtraEnv [("TEMPORAL_ADDRESS", "temporal.example:7233")]
    ClusterWebhook.validateCreate c = [] ∧ NoOverrides c.spec ∧ uiEnabled c.spec = true ∧
      Iteration (uiExtraEnv c.spec) [("TEMPORAL_ADDRESS", "temporal.example:7233")] ∧
      ¬ ValidPod (buildUIDeploymentIn c [("TEMPORAL_ADDRESS", "temporal.example:7233")]).template := by
  intro c
  have hadmitted : ClusterWebhook.validateCreate c = [] := by decide +kernel
  refine ⟨hadmitted, by decide, rfl, .of_nodup (List.nodup_singleton _), fun hvalid => ?_⟩
  exact absurd ((validPod_ui_iff c _).mp hvalid) (by decide +kernel)

/-! ## Rolling the UI's pods -/

/-- How often templates that are applied one after the other make the Deployment roll its pods. -/
def rollouts : List PodTemplate → Nat
  | t :: t' :: rest => (if t = t' then 0 else 1) + rollouts (t' :: rest)
  | _ => 0

theorem rollouts_eq_zero {templates : List PodTemplate} (h : ∀ t ∈ templates, ∀ t' ∈ templates, t = t') :
    rollouts templates = 0 := by
  induction templates with
  | nil => rfl
  | cons t rest ih =>
    cases rest with
    | nil => rfl
    | cons t' rest =>
      have hsame : t = t' := h t List.mem_cons_self t' (List.mem_cons_of_mem _ List.mem_cons_self)
      rw [rollouts, if_pos hsame, Nat.zero_add]
      exact ih fun a ha b hb => h a (List.mem_cons_of_mem _ ha) b (List.mem_cons_of_mem _ hb)

/-- The extra variables are in the Deployment in the order in which they came. -/
theorem buildUIDeploymentIn_inj {c : Cluster} {a : UIAuthSpec} (hauth : uiAuth c.spec = some a)
    {e e' : List (String × String)} (h : buildUIDeploymentIn c e = buildUIDeploymentIn c e') : e = e' := by
  have henv : uiEnv c e = uiEnv c e' :=
    List.append_cancel_right (congrArg (fun d : Deployment => d.template.spec.containers.flatMap Container.env) h)
  unfold uiEnv at henv
  rw [hauth] at henv
  have hextra := List.append_cancel_left (List.append_cancel_left henv)
  refine List.map_injective_iff.mpr ?_ hextra
  rintro ⟨name, value⟩ ⟨name', value'⟩ heq
  obtain ⟨rfl, hvalue⟩ := Prod.mk.inj heq
  rw [EnvValue.text.inj hvalue]

/-- `ui.auth.extraEnv` has at most one variable, or is not read. -/
def OneVariable (spec : ClusterSpec) : Prop :=
  ∀ name ∈ (uiExtraEnv spec).map Prod.fst, ∀ name' ∈ (uiExtraEnv spec).map Prod.fst, name = name'

instance (spec : ClusterSpec) : Decidable (OneVariable spec) :=
  inferInstanceAs (Decidable
    (∀ name ∈ (uiExtraEnv spec).map Prod.fst, ∀ name' ∈ (uiExtraEnv spec).map Prod.fst, name = name'))

/-- **The UI's Deployment depends on the order of the extra variables exactly when there are two of them.** Go picks the
order anew in every call; with at most one variable all calls agree and passes over an unchanged cluster never roll the
UI's pods. -/
theorem ui_deployment_deterministic_iff (c : Cluster) :
    ((∀ e e', Iteration (uiExtraEnv c.spec) e → Iteration (uiExtraEnv c.spec) e' →
        buildUIDeploymentIn c e = buildUIDeploymentIn c e') ∧
      ∀ passes : List (List (String × String)), (∀ e ∈ passes, Iteration (uiExtraEnv c.spec) e) →
        rollouts (passes.map fun e => (buildUIDeploymentIn c e).template) = 0) ↔ OneVariable c.spec := by
  constructor
  · rintro ⟨hequal, -⟩ name hname name' hname'
    by_contra hne
    obtain ⟨e, he⟩ := Iteration.exists_order (uiExtraEnv c.spec)
    cases hauth : uiAuth c.spec with
    | none =>
      rw [uiExtraEnv_eq_nil hauth] at hname
      cases hname
    | some a => exact he.reverse_ne hname hname' hne (buildUIDeploymentIn_inj hauth (hequal _ _ he.reverse he))
  · intro hone
    have hequal : ∀ e e', Iteration (uiExtraEnv c.spec) e → Iteration (uiExtraEnv c.spec) e' →
        buildUIDeploymentIn c e = buildUIDeploymentIn c e' :=
      fun e e' he he' => congrArg (buildUIDeploymentIn c) (he.eq_of_one_key he' hone)
    refine ⟨hequal, fun passes hpasses => rollouts_eq_zero fun t ht t' ht' => ?_⟩
    obtain ⟨e, he, rfl⟩ := List.mem_map.mp ht
    obtain ⟨e', he', rfl⟩ := List.mem_map.mp ht'
    rw [hequal e e' (hpasses e he) (hpasses e' he')]

theorem ui_deployment_deterministic_one :
    let c := withExtraEnv [("TEMPORAL_AUTH_DEBUG", "true")]
    ClusterWebhook.validateCreate c = [] ∧ uiEnabled c.spec = true ∧
      ∀ passes : List (List (String × String)), (∀ e ∈ passes, Iteration (uiExtraEnv c.spec) e) →
        rollouts (passes.map fun e => (buildUIDeploymentIn c e).template) = 0 := by
  intro c
  have hadmitted : ClusterWebhook.validateCreate c = [] := by decide +kernel
  have hone : OneVariable c.spec := by decide
  exact ⟨hadmitted, rfl, ((ui_deployment_deterministic_iff c).mpr hone).2⟩

/-- Two variables, seen in one order by the first pass and in the other by the second. -/
theorem ui_deployment_reordered :
    let c := withExtraEnv [("A", "1"), ("B", "2")]
    ClusterWebhook.validateCreate c = [] ∧ uiEnabled c.spec = true ∧
      Iteration (uiExtraEnv c.spec) [("A", "1"), ("B", "2")] ∧ Iteration (uiExtraEnv c.spec) [("B", "2"), ("A", "1")] ∧
      buildUIDeploymentIn c [("A", "1"), ("B", "2")] ≠ buildUIDeploymentIn c [("B", "2"), ("A", "1")] ∧
      rollouts ([[("A", "1"), ("B", "2")], [("B", "2"), ("A", "1")]].map fun e =>
        (buildUIDeploymentIn c e).template) = 1 := by
  intro c
  have hadmitted : ClusterWebhook.validateCreate c = [] := by decide +kernel
  have horder : Iteration (uiExtraEnv c.spec) [("A", "1"), ("B", "2")] := .of_nodup (by decide)
  exact ⟨hadmitted, rfl, horder, horder.reverse, by decide +kernel, by decide +kernel⟩

end TemporalOperator
