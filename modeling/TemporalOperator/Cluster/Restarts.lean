import TemporalOperator.Cluster.Runs
import TemporalOperator.Lib.Result

/-!
# What restarts the servers

A Deployment rolls its pods when the pod template that is applied differs from the one before. The template is built
from the spec, the version of the service and `TemplateInputs`: the hash of the rendered config, and with mTLS the
Secrets to mount and a hash over them.

* `buildDeploymentFrom_congr` : inputs that agree but for the hashes build Deployments that agree but for the
  annotations; `buildDeploymentFrom_annotations` : what the overrides leave of these;
* `read_errors_keep_templates_iff` : a failed read of a certificate Secret changes the templates;
* `config_rolls_dynamicConfig_does_not` : edits of the dynamic config leave the Deployments, edits that change the
  rendered config change every template.
-/

namespace TemporalOperator
open Lib Persistence

/-! ## Annotations and overrides -/

def overlayAnnotations (override : Option PodTemplateOverride) (a : List (String × String)) : List (String × String) :=
  match override with
  | none => a
  | some o => setLabels a o.annotations

/-- The annotation an override sets; of several entries for a key the last one wins. -/
def overrideValue (override : Option PodTemplateOverride) (key : String) : Option String :=
  override.bind fun o => o.annotations.reverse.lookup key

theorem lookup_overlayAnnotations (override : Option PodTemplateOverride) (a : List (String × String)) (key : String) :
    (overlayAnnotations override a).lookup key = (overrideValue override key).or (a.lookup key) := by
  cases override with
  | none => rfl
  | some o => exact lookup_setLabels a o.annotations key

theorem applyPodTemplate_annotations {env : PassEnv} {tmpl t : PodTemplate} {override : Option PodTemplateOverride}
    {selector : List (String × String)} (h : applyPodTemplate env tmpl override selector = .ok t) :
    t.annotations = overlayAnnotations override tmpl.annotations := by
  cases override with
  | none =>
    obtain rfl := Except.ok.inj h
    rfl
  | some o => exact (applyPodTemplate_eq_ok h).2.1

/-- Laid over templates that agree but for their annotations, an override leaves such templates. -/
theorem applyPodTemplate_agree {env env' : PassEnv} {tmpl tmpl' t t' : PodTemplate}
    {override : Option PodTemplateOverride} {selector : List (String × String)} (hmerge : env.merge = env'.merge)
    (hlabels : tmpl.labels = tmpl'.labels) (hspec : tmpl.spec = tmpl'.spec)
    (h : applyPodTemplate env tmpl override selector = .ok t)
    (h' : applyPodTemplate env' tmpl' override selector = .ok t') : t.labels = t'.labels ∧ t.spec = t'.spec := by
  cases override with
  | none =>
    obtain rfl := Except.ok.inj h
    obtain rfl := Except.ok.inj h'
    exact ⟨hlabels, hspec⟩
  | some o =>
    obtain ⟨hl, -, hs⟩ := applyPodTemplate_eq_ok h
    obtain ⟨hl', -, hs'⟩ := applyPodTemplate_eq_ok h'
    refine ⟨by rw [hl, hl', hlabels], ?_⟩
    rcases hs with ⟨hs, hempty⟩ | ⟨raw, hraw, hne, hpatched⟩
    · rcases hs' with ⟨hs', -⟩ | ⟨raw', hraw', hne', -⟩
      · rw [hs, hs', hspec]
      · exact absurd (hempty raw' hraw') hne'
    · rcases hs' with ⟨-, hempty'⟩ | ⟨raw', hraw', -, hpatched'⟩
      · exact absurd (hempty' raw hraw) hne
      · obtain rfl := Option.some.inj (hraw.symm.trans hraw')
        rw [hmerge, hspec, hpatched'] at hpatched
        exact (Except.ok.inj hpatched).symm

/-- What the overrides of a service set an annotation to. -/
def pinnedValue (spec : ClusterSpec) (svc : ServiceInfo) (key : String) : Option String :=
  (overrideValue (svc.spec.bind ServiceSpec.podTemplate) key).or (overrideValue (sharedOverride spec) key)

/-! ## Inputs -/

def TemplateInputs.unhashed (i : TemplateInputs) : Option MTLSMounts := i.mounts.map fun m => { m with certHash := "" }

theorem TemplateInputs.mounts_isSome {i j : TemplateInputs} (h : i.unhashed = j.unhashed) :
    i.mounts.isSome = j.mounts.isSome := by
  have hsome := congrArg Option.isSome h
  simpa [unhashed] using hsome

theorem generatedTemplate_agree {i j : TemplateInputs} (h : i.unhashed = j.unhashed) (c : Cluster) (svc : ServiceInfo)
    (version : String) :
    (generatedTemplate c svc i version).labels = (generatedTemplate c svc j version).labels ∧
      (generatedTemplate c svc i version).spec = (generatedTemplate c svc j version).spec := by
  have hcontainer : serverContainer c svc i version = serverContainer c svc j version := by
    simp only [serverContainer, TemplateInputs.mounts_isSome h]
  have hvolumes : serverVolumes c svc i = serverVolumes c svc j := by
    unfold serverVolumes
    congr 1
    unfold TemplateInputs.unhashed at h
    cases hi : i.mounts with
    | none =>
      cases hj : j.mounts with
      | none => rfl
      | some n => simp [hi, hj] at h
    | some m =>
      cases hj : j.mounts with
      | none => simp [hi, hj] at h
      | some n =>
        rw [hi, hj] at h
        obtain ⟨-, hinternode, hfrontend, -⟩ := MTLSMounts.mk.inj (Option.some.inj h)
        simp only [certVolumes, hinternode, hfrontend]
  simp only [generatedTemplate, hcontainer, hvolumes, and_self]

section
variable {env env' : PassEnv} {c : Cluster} {svc : ServiceInfo} {i j : TemplateInputs} {version : String}
  {d d' : Deployment}

theorem buildDeploymentFrom_annotations (h : buildDeploymentFrom env c svc i version = .ok d) (key : String) :
    d.template.annotations.lookup key = (pinnedValue c.spec svc key).or ((podAnnotations i).lookup key) := by
  obtain ⟨shared, hshared, hown, -⟩ := buildDeploymentFrom_eq_ok h
  rw [applyPodTemplate_annotations hown, lookup_overlayAnnotations, applyPodTemplate_annotations hshared,
    lookup_overlayAnnotations, pinnedValue, Option.or_assoc]
  rfl

theorem buildDeploymentFrom_agree (hmerge : env.merge = env'.merge) (hinputs : i.unhashed = j.unhashed)
    (h : buildDeploymentFrom env c svc i version = .ok d) (h' : buildDeploymentFrom env' c svc j version = .ok d') :
    d.template.labels = d'.template.labels ∧ d.template.spec = d'.template.spec := by
  obtain ⟨shared, hshared, hown, -⟩ := buildDeploymentFrom_eq_ok h
  obtain ⟨shared', hshared', hown', -⟩ := buildDeploymentFrom_eq_ok h'
  obtain ⟨hl, hs⟩ := generatedTemplate_agree hinputs c svc version
  obtain ⟨hl, hs⟩ := applyPodTemplate_agree hmerge hl hs hshared hshared'
  exact applyPodTemplate_agree hmerge hl hs hown hown'

end

/-! ## The annotations of a pass -/

theorem lookup_podAnnotations (i : TemplateInputs) (key : String) :
    (podAnnotations i).lookup key =
      if key = configHashAnnotationKey then some i.configHash
      else if key = dynamicConfigHashAnnotationKey then some i.dynamicConfigHash
      else if key = certHashAnnotationKey then i.certAnnotationValue else none := by
  rw [podAnnotations, List.cons_append, lookup_cons_eq, List.cons_append, lookup_cons_eq]
  cases i.certAnnotationValue with
  | none => simp
  | some h => simp

structure SameTemplate (t t' : PodTemplate) : Prop where
  labels : ∀ key, t.labels.lookup key = t'.labels.lookup key
  annotations : ∀ key, t.annotations.lookup key = t'.annotations.lookup key
  spec : t.spec = t'.spec

theorem wiredTemplate_annotations (c : Cluster) (t : PodTemplate) :
    (wiredTemplate c t).annotations = t.annotations := by
  unfold wiredTemplate
  split <;> rfl

theorem wiredTemplate_agree (c : Cluster) {t t' : PodTemplate} (hl : t.labels = t'.labels) (hs : t.spec = t'.spec) :
    (wiredTemplate c t).labels = (wiredTemplate c t').labels ∧
      (wiredTemplate c t).spec = (wiredTemplate c t').spec := by
  unfold wiredTemplate
  split
  · simp only [applyAzureServerWorkloadIdentity, applyAzureTokenBase, hl, hs, and_self]
  · exact ⟨hl, hs⟩

/-! ## The rendered config -/

structure SameLibraries (env env' : PassEnv) : Prop where
  merge : env.merge = env'.merge
  printTable : env.printTable = env'.printTable
  yaml : env.yaml = env'.yaml
  hash : env.hash = env'.hash

/-- Two objects of one cluster whose specs differ at most in the dynamic config. -/
structure SameButDynamicConfig (c c' : Cluster) : Prop where
  name : c'.name = c.name
  namespace_ : c'.namespace_ = c.namespace_
  spec : ∃ dc, c'.spec = { c.spec with dynamicConfig := dc }

/-- The credential a pass resolves for a store when it renders the config. -/
def credential (env : PassEnv) (c : Cluster) (store : SchemaStore) : Except GoErr ResolvedCredential :=
  resolveStore c.namespace_ (env.secret (.credential store)) (storeSpec c.spec store)

theorem renderConfig_eq_ok {env : PassEnv} {c : Cluster} {r : RenderedConfig} (h : renderConfig env c = .ok r) :
    ∃ defCred visCred, credential env c .default = .ok defCred ∧ credential env c .visibility = .ok visCred ∧
      Config.renderClusterConfig env.printTable env.yaml c (buildOptions c defCred visCred) = .ok r.config := by
  unfold renderConfig at h
  change (credential env c .default).mapError _ >>= _ = _ at h
  cases hdef : credential env c .default with
  | error e =>
    rw [hdef] at h
    cases h
  | ok defCred =>
    rw [hdef] at h
    change (credential env c .visibility).mapError _ >>= _ = _ at h
    cases hvis : credential env c .visibility with
    | error e =>
      rw [hvis] at h
      cases h
    | ok visCred =>
      rw [hvis] at h
      refine ⟨defCred, visCred, rfl, rfl, ?_⟩
      change (Config.renderClusterConfig env.printTable env.yaml c (buildOptions c defCred visCred)).mapError _ >>= _ = _
        at h
      cases hconfig : Config.renderClusterConfig env.printTable env.yaml c (buildOptions c defCred visCred) with
      | error e =>
        rw [hconfig] at h
        cases h
      | ok config =>
        rw [hconfig] at h
        change (dynamicConfigDocument c.spec).mapError _ >>= _ = _ at h
        cases hdyn : dynamicConfigDocument c.spec with
        | error e =>
          rw [hdyn] at h
          cases h
        | ok doc =>
          rw [hdyn] at h
          obtain rfl := Except.ok.inj h
          rfl

section
variable {env env' : PassEnv} {c c' : Cluster}

theorem SameButDynamicConfig.eq_update (h : SameButDynamicConfig c c') : ∃ dc generation annotations status,
    c' = { c with
      generation := generation
      annotations := annotations
      spec := { c.spec with dynamicConfig := dc }
      status := status } := by
  obtain ⟨hname, hns, dc, hspec⟩ := h
  refine ⟨dc, c'.generation, c'.annotations, c'.status, ?_⟩
  cases c'
  subst hname hns hspec
  rfl

theorem SameButDynamicConfig.renderClusterConfig (h : SameButDynamicConfig c c') (t : PrintTable) (lib : Config.YamlLib)
    (defCred visCred : ResolvedCredential) :
    Config.renderClusterConfig t lib c' (buildOptions c' defCred visCred) =
      Config.renderClusterConfig t lib c (buildOptions c defCred visCred) := by
  obtain ⟨dc, generation, annotations, status, rfl⟩ := h.eq_update
  rfl

theorem SameButDynamicConfig.config_eq (h : SameButDynamicConfig c c') (hlib : SameLibraries env env')
    (hcred : ∀ store k k', credential env c store = .ok k → credential env' c' store = .ok k' → k = k')
    {r r' : RenderedConfig} (hr : renderConfig env c = .ok r) (hr' : renderConfig env' c' = .ok r') :
    r.config = r'.config := by
  obtain ⟨def₁, vis₁, hdef₁, hvis₁, hconfig₁⟩ := renderConfig_eq_ok hr
  obtain ⟨def₂, vis₂, hdef₂, hvis₂, hconfig₂⟩ := renderConfig_eq_ok hr'
  obtain rfl := hcred _ _ _ hdef₁ hdef₂
  obtain rfl := hcred _ _ _ hvis₁ hvis₂
  rw [h.renderClusterConfig, ← hlib.printTable, ← hlib.yaml, hconfig₁] at hconfig₂
  exact Except.ok.inj hconfig₂

/-! ## Templates of two passes -/

theorem SameButDynamicConfig.enabledServices (h : SameButDynamicConfig c c') :
    enabledServices c'.spec = enabledServices c.spec := by
  obtain ⟨dc, generation, annotations, status, rfl⟩ := h.eq_update
  rfl

theorem SameButDynamicConfig.wiredTemplate (h : SameButDynamicConfig c c') :
    wiredTemplate c' = wiredTemplate c := by
  obtain ⟨dc, generation, annotations, status, rfl⟩ := h.eq_update
  rfl

theorem SameButDynamicConfig.buildDeploymentFrom (h : SameButDynamicConfig c c') (hmerge : env.merge = env'.merge)
    (svc : ServiceInfo) (i : TemplateInputs) (version : String) :
    buildDeploymentFrom env' c' svc i version = buildDeploymentFrom env c svc i version := by
  obtain ⟨dc, generation, annotations, status, rfl⟩ := h.eq_update
  have happly : applyPodTemplate env' = applyPodTemplate env := by
    unfold applyPodTemplate
    rw [hmerge]
  unfold TemporalOperator.buildDeploymentFrom
  rw [happly]
  rfl

theorem SameButDynamicConfig.mTLSEnabled (h : SameButDynamicConfig c c') :
    mTLSEnabled c'.spec = mTLSEnabled c.spec := by
  obtain ⟨dc, generation, annotations, status, rfl⟩ := h.eq_update
  rfl

/-- The Secrets to mount are named after the cluster. -/
theorem SameButDynamicConfig.unhashed (h : SameButDynamicConfig c c') :
    (templateInputs env' c').unhashed = (templateInputs env c).unhashed := by
  simp only [TemplateInputs.unhashed, templateInputs_mounts, mtlsMounts, h.mTLSEnabled, h.name]
  split <;> rfl

/-- With the same config, the templates of a service are the same exactly when the annotations for the certificates
are, or an override sets this annotation. -/
theorem sameTemplate_iff (h : SameButDynamicConfig c c') (hlib : SameLibraries env env')
    (hconfig : (templateInputs env c).configHash = (templateInputs env' c').configHash) {svc : ServiceInfo}
    {version : String} {d d' : Deployment} (hb : buildDeployment env c svc version = .ok d)
    (hb' : buildDeployment env' c' svc version = .ok d') :
    SameTemplate (wiredTemplate c d.template) (wiredTemplate c' d'.template) ↔
      (pinnedValue c.spec svc certHashAnnotationKey).isSome = true ∨
        (templateInputs env c).certAnnotationValue = (templateInputs env' c').certAnnotationValue := by
  unfold buildDeployment at hb hb'
  rw [h.buildDeploymentFrom hlib.merge] at hb'
  rw [h.wiredTemplate]
  have hunhashed : (templateInputs env c).unhashed = (templateInputs env' c').unhashed := h.unhashed.symm
  obtain ⟨hl, hs⟩ := buildDeploymentFrom_agree rfl hunhashed hb hb'
  obtain ⟨hl, hs⟩ := wiredTemplate_agree c hl hs
  have hannotations := fun key => (buildDeploymentFrom_annotations hb key).trans
    (congrArg (Option.or _) (lookup_podAnnotations _ key))
  have hannotations' := fun key => (buildDeploymentFrom_annotations hb' key).trans
    (congrArg (Option.or _) (lookup_podAnnotations _ key))
  constructor
  · intro hsame
    have hcert := hsame.annotations certHashAnnotationKey
    rw [wiredTemplate_annotations, wiredTemplate_annotations, hannotations, hannotations'] at hcert
    cases hp : pinnedValue c.spec svc certHashAnnotationKey with
    | some value => exact .inl rfl
    | none =>
      rw [hp] at hcert
      exact .inr hcert
  · intro hcert
    refine ⟨fun key => by rw [hl], fun key => ?_, hs⟩
    rw [wiredTemplate_annotations, wiredTemplate_annotations, hannotations, hannotations', hconfig]
    by_cases hkey : key = certHashAnnotationKey
    · subst hkey
      rcases hcert with hpinned | hcert
      · obtain ⟨value, hvalue⟩ := Option.isSome_iff_exists.mp hpinned
        rw [hvalue]
        rfl
      · rw [hcert]
        rfl
    · simp only [if_neg hkey]
      rfl

end

/-! ## Failed reads -/

/-- A read answers what is there, if anything, or it fails. -/
inductive ReadsFrom (present : Option Secret) : Except GoErr Secret → Prop
  | found {secret : Secret} (h : present = some secret) : ReadsFrom present (.ok secret)
  | absent {e : GoErr} (h : present = none) (he : e.cause = .notFound) : ReadsFrom present (.error e)
  | failed {e : GoErr} (he : e.cause ≠ .notFound) : ReadsFrom present (.error e)

theorem getSecretValue_unique {present : Option Secret} {read read' : Except GoErr Secret} (h : ReadsFrom present read)
    (h' : ReadsFrom present read') {ns : String} {ref : SecretKeyReference} {v v' : GoString}
    (hv : getSecretValue ns read ref = .ok v) (hv' : getSecretValue ns read' ref = .ok v') : v = v' := by
  cases h with
  | found hp =>
    cases h' with
    | found hp' =>
      obtain rfl := Option.some.inj (hp.symm.trans hp')
      exact Except.ok.inj (hv.symm.trans hv')
    | _ => cases hv'
  | _ => cases hv

theorem map_unique {α β ε : Type} {f : α → β} {x x' : Except ε α} (hx : ∀ a a', x = .ok a → x' = .ok a' → a = a')
    {b b' : β} (hb : x.map f = .ok b) (hb' : x'.map f = .ok b') : b = b' := by
  cases x with
  | error e => cases hb
  | ok a =>
    cases x' with
    | error e => cases hb'
    | ok a' =>
      obtain rfl := hx a a' rfl rfl
      exact Except.ok.inj (hb.symm.trans hb')

section
variable {present : Option Secret} {read read' : Except GoErr Secret} {ns : String} {k k' : ResolvedCredential}

theorem resolvePassword_unique (h : ReadsFrom present read) (h' : ReadsFrom present read')
    {ref : Option SecretKeyReference} (hk : resolvePassword ns read ref = .ok k)
    (hk' : resolvePassword ns read' ref = .ok k') : k = k' := by
  cases ref with
  | none => exact Except.ok.inj (hk.symm.trans hk')
  | some ref => exact map_unique (fun _ _ => getSecretValue_unique h h') hk hk'

theorem resolveSQL_unique (h : ReadsFrom present read) (h' : ReadsFrom present read') {spec : SQLDatastoreSpec}
    (hk : resolveSQL ns read spec = .ok k) (hk' : resolveSQL ns read' spec = .ok k') : k = k' := by
  unfold resolveSQL at hk hk'
  cases hcmd : spec.passwordCommandSecretRef with
  | some ref =>
    simp only [hcmd] at hk hk'
    exact map_unique (fun _ _ => getSecretValue_unique h h') hk hk'
  | none =>
    cases hpw : spec.passwordSecretRef with
    | some ref =>
      simp only [hcmd, hpw] at hk hk'
      exact map_unique (fun _ _ => getSecretValue_unique h h') hk hk'
    | none =>
      simp only [hcmd, hpw] at hk hk'
      exact Except.ok.inj (hk.symm.trans hk')

theorem resolveStore_unique (h : ReadsFrom present read) (h' : ReadsFrom present read') {store : DatastoreSpec}
    (hk : resolveStore ns read store = .ok k) (hk' : resolveStore ns read' store = .ok k') : k = k' := by
  unfold resolveStore at hk hk'
  cases hsql : store.sql with
  | some spec =>
    simp only [hsql] at hk hk'
    exact resolveSQL_unique h h' hk hk'
  | none =>
    cases hcassandra : store.cassandra with
    | some spec =>
      simp only [hsql, hcassandra] at hk hk'
      exact resolvePassword_unique h h' hk hk'
    | none =>
      cases hes : store.elasticsearch with
      | some spec =>
        simp only [hsql, hcassandra, hes] at hk hk'
        exact resolvePassword_unique h h' hk hk'
      | none =>
        simp only [hsql, hcassandra, hes] at hk
        cases hk

end

section
variable {env env' : PassEnv} {c c' : Cluster} {present : SecretRead → Option Secret}

theorem SameButDynamicConfig.credential_unique (h : SameButDynamicConfig c c')
    (hreads : ∀ r, ReadsFrom (present r) (env.secret r)) (hreads' : ∀ r, ReadsFrom (present r) (env'.secret r))
    (store : SchemaStore) (k k' : ResolvedCredential) (hk : credential env c store = .ok k)
    (hk' : credential env' c' store = .ok k') : k = k' := by
  obtain ⟨dc, generation, annotations, status, rfl⟩ := h.eq_update
  exact resolveStore_unique (hreads _) (hreads' _) hk hk'

def CertReadFails (env : PassEnv) : Prop :=
  ∃ name e, env.secret (.certificate name) = .error e ∧ e.cause ≠ .notFound

theorem certHashInput_eq_none_iff (env : PassEnv) (clusterName : String) (names : List CertificateName) :
    certHashInput env clusterName names = none ↔
      ∃ name ∈ names, ∃ e, env.secret (.certificate name) = .error e ∧ e.cause ≠ .notFound := by
  induction names with
  | nil => simp [certHashInput]
  | cons name names ih =>
    rw [List.exists_mem_cons_iff, ← ih, certHashInput, certHashPart]
    cases hs : env.secret (.certificate name) with
    | ok secret => cases certHashInput env clusterName names <;> simp
    | error e => by_cases he : e.cause = .notFound <;> simp [he]

theorem certHashInput_eq_none (env : PassEnv) (clusterName : String) :
    certHashInput env clusterName [.internode, .frontend] = none ↔ CertReadFails env := by
  rw [certHashInput_eq_none_iff]
  refine exists_congr fun name => ⟨And.right, fun h => ⟨?_, h⟩⟩
  cases name <;> simp

theorem certHashPart_unique (hreads : ∀ r, ReadsFrom (present r) (env.secret r))
    (hreads' : ∀ r, ReadsFrom (present r) (env'.secret r)) {clusterName : String} {name : CertificateName}
    {part part' : String} (h : certHashPart env clusterName name = some part)
    (h' : certHashPart env' clusterName name = some part') : part = part' := by
  have hread := hreads (.certificate name)
  have hread' := hreads' (.certificate name)
  unfold certHashPart at h h'
  generalize env.secret (.certificate name) = read at hread h
  generalize env'.secret (.certificate name) = read' at hread' h'
  cases hread with
  | failed he => simp [he] at h
  | found hp =>
    cases hread' with
    | failed he => simp [he] at h'
    | found hp' =>
      obtain rfl := Option.some.inj (hp.symm.trans hp')
      exact Option.some.inj (h.symm.trans h')
    | absent hp' _ => rw [hp] at hp'; cases hp'
  | absent hp he =>
    cases hread' with
    | failed he' => simp [he'] at h'
    | found hp' => rw [hp] at hp'; cases hp'
    | absent _ he' =>
      simp only [if_pos he] at h
      simp only [if_pos he'] at h'
      exact Option.some.inj (h.symm.trans h')

theorem certHashInput_unique (hreads : ∀ r, ReadsFrom (present r) (env.secret r))
    (hreads' : ∀ r, ReadsFrom (present r) (env'.secret r)) {clusterName : String} {names : List CertificateName}
    {input input' : String} (h : certHashInput env clusterName names = some input)
    (h' : certHashInput env' clusterName names = some input') : input = input' := by
  induction names generalizing input input' with
  | nil => exact Option.some.inj (h.symm.trans h')
  | cons name names ih =>
    simp only [certHashInput, Option.bind_eq_bind, Option.bind_eq_some_iff, Option.pure_def, Option.some.injEq] at h h'
    obtain ⟨part, hpart, rest, hrest, rfl⟩ := h
    obtain ⟨part', hpart', rest', hrest', rfl⟩ := h'
    rw [certHashPart_unique hreads hreads' hpart hpart', ih hrest hrest']

/-- The annotation for the certificates: none without mTLS or when a read fails. -/
theorem certAnnotationValue_templateInputs (hhash : ∀ text, env.hash text ≠ "") (c : Cluster) :
    (templateInputs env c).certAnnotationValue =
      if mTLSEnabled c.spec then (certHashInput env c.name [.internode, .frontend]).map env.hash else none := by
  rw [TemplateInputs.certAnnotationValue, templateInputs_mounts, mtlsMounts]
  split
  · simp only [Option.map_some, certHash]
    cases certHashInput env c.name [.internode, .frontend] with
    | none => rfl
    | some input => simp [hhash, Option.filter]
  · rfl

/-- Two passes get the same annotation exactly when the reads fail in both or in neither. -/
theorem certAnnotationValue_eq_iff (h : SameButDynamicConfig c c') (hlib : SameLibraries env env')
    (hhash : ∀ text, env.hash text ≠ "") (hreads : ∀ r, ReadsFrom (present r) (env.secret r))
    (hreads' : ∀ r, ReadsFrom (present r) (env'.secret r)) :
    (templateInputs env c).certAnnotationValue = (templateInputs env' c').certAnnotationValue ↔
      (mTLSEnabled c.spec = true → (CertReadFails env ↔ CertReadFails env')) := by
  rw [certAnnotationValue_templateInputs hhash, certAnnotationValue_templateInputs (hlib.hash ▸ hhash), h.mTLSEnabled,
    h.name,
    ← hlib.hash, ← certHashInput_eq_none env c.name, ← certHashInput_eq_none env' c.name]
  cases mTLSEnabled c.spec with
  | false => simp
  | true =>
    simp only [if_true, forall_const]
    cases hi : certHashInput env c.name [.internode, .frontend] with
    | none => cases hi' : certHashInput env' c.name [.internode, .frontend] <;> simp
    | some input =>
      cases hi' : certHashInput env' c.name [.internode, .frontend] with
      | none => simp
      | some input' => simp [certHashInput_unique hreads hreads' hi hi']

end

theorem applied_version_unique {env : PassEnv} {c : Cluster} {s : Service} {v v' : String} {d d' : Deployment}
    (h : Event.applied (.deployment s v d) ∈ (reconcile env c).log)
    (h' : Event.applied (.deployment s v' d') ∈ (reconcile env c).log) : v = v' := by
  obtain ⟨st, hat, -, -, hv⟩ := deployment_event h
  obtain ⟨st', hat', -, -, hv'⟩ := deployment_event h'
  obtain rfl := hat.unique hat'
  exact hv.trans hv'.symm

/-- The templates of one service in two passes over the same spec that applied it at one version. -/
theorem applied_sameTemplate_iff {env env' : PassEnv} {c c' : Cluster} {present : SecretRead → Option Secret}
    (hsame : SameButDynamicConfig c c') (hlib : SameLibraries env env') (hhash : ∀ text, env.hash text ≠ "")
    (hreads : ∀ r, ReadsFrom (present r) (env.secret r)) (hreads' : ∀ r, ReadsFrom (present r) (env'.secret r))
    {s : Service} {v : String} {d d' : Deployment} (hd : Event.applied (.deployment s v d) ∈ (reconcile env c).log)
    (hd' : Event.applied (.deployment s v d') ∈ (reconcile env' c').log) :
    ∃ svc ∈ enabledServices c.spec, svc.name = s ∧
      (SameTemplate d.template d'.template ↔ (pinnedValue c.spec svc certHashAnnotationKey).isSome = true ∨
        (mTLSEnabled c.spec = true → (CertReadFails env ↔ CertReadFails env'))) := by
  obtain ⟨⟨r, hr⟩, svc, hsvc, hs, d₀, hb, ht⟩ := applied_built hd
  obtain ⟨⟨r', hr'⟩, svc', hsvc', hs', d₀', hb', ht'⟩ := applied_built hd'
  rw [hsame.enabledServices] at hsvc'
  obtain rfl := enabledServices_unique hsvc hsvc' (hs.trans hs'.symm)
  have hconfig : (templateInputs env c).configHash = (templateInputs env' c').configHash := by
    have hcfg := hsame.config_eq hlib (hsame.credential_unique hreads hreads') hr hr'
    simp only [templateInputs, hr, hr', Except.toOption, Option.elim_some, hcfg, hlib.hash]
  refine ⟨svc, hsvc, hs, ?_⟩
  rw [ht, ht', sameTemplate_iff hsame hlib hconfig hb hb', certAnnotationValue_eq_iff hsame hlib hhash hreads hreads']

/-- **Read errors and templates**: two passes over the same spec, with the same Secrets and the same versions, that
submit the Deployments of all services, submit the same pod templates, exactly when with mTLS the certificate reads
fail in both or in neither, or the overrides of every service set the annotation for the certificates. -/
theorem read_errors_keep_templates_iff {env env' : PassEnv} {c c' : Cluster} {present : SecretRead → Option Secret}
    (hname : c'.name = c.name) (hns : c'.namespace_ = c.namespace_) (hspec : c'.spec = c.spec)
    (hlib : SameLibraries env env') (hhash : ∀ text, env.hash text ≠ "")
    (hreads : ∀ r, ReadsFrom (present r) (env.secret r)) (hreads' : ∀ r, ReadsFrom (present r) (env'.secret r))
    (happlied : ∀ s, Enabled c.spec s → ∃ v d d', Event.applied (.deployment s v d) ∈ (reconcile env c).log ∧
      Event.applied (.deployment s v d') ∈ (reconcile env' c').log) :
    (∀ s v d v' d', Event.applied (.deployment s v d) ∈ (reconcile env c).log →
      Event.applied (.deployment s v' d') ∈ (reconcile env' c').log → SameTemplate d.template d'.template) ↔
    (mTLSEnabled c.spec = true → (CertReadFails env ↔ CertReadFails env') ∨
      ∀ svc ∈ enabledServices c.spec, (pinnedValue c.spec svc certHashAnnotationKey).isSome = true) := by
  have hsame : SameButDynamicConfig c c' := ⟨hname, hns, c.spec.dynamicConfig, hspec⟩
  constructor
  · intro hall hmtls
    by_cases hfails : CertReadFails env ↔ CertReadFails env'
    · exact .inl hfails
    · refine .inr fun svc hsvc => ?_
      obtain ⟨v, d, d', hd, hd'⟩ := happlied svc.name (List.mem_map_of_mem hsvc)
      obtain ⟨svc', hsvc', hs, hiff⟩ := applied_sameTemplate_iff hsame hlib hhash hreads hreads' hd hd'
      obtain rfl := enabledServices_unique hsvc' hsvc hs
      exact (hiff.mp (hall _ _ _ _ _ hd hd')).resolve_right fun h => hfails (h hmtls)
  · intro hcond s v d v' d' hd hd'
    obtain ⟨-, -, -, hen, -⟩ := deployment_event hd
    obtain ⟨w, e, e', he, he'⟩ := happlied s hen
    obtain rfl := applied_version_unique hd he
    obtain rfl := applied_version_unique hd' he'
    obtain ⟨svc, hsvc, hs, hiff⟩ := applied_sameTemplate_iff hsame hlib hhash hreads hreads' hd hd'
    rw [hiff]
    by_cases hmtls : mTLSEnabled c.spec = true
    · rcases hcond hmtls with hfails | hpinned
      · exact .inr fun _ => hfails
      · exact .inl (hpinned svc hsvc)
    · exact .inr fun h => absurd h hmtls

def issuedCluster (version : String) : Cluster :=
  ClusterWebhook.default
    { name := "temporal", spec := { sampleSpec version with mtls := some { issuerRef := some "internal-ca" } } }

/-- Everything runs 1.31.0, and the Secrets are there. -/
def certifiedReads : PassEnv :=
  { steadyEnv newestSchema "1.31.0" with secret := fun _ => .ok { resourceVersion := "7" } }

theorem certifiedReads_hash (text : String) : certifiedReads.hash text ≠ "" := by
  change "0000000000000000" ≠ ""
  decide

def readTimeout : GoErr := ⟨.other, "etcdserver: request timed out"⟩

theorem certified_applied {env : PassEnv}
    (h : [Service.frontend, .history, .matching, .worker].all
      (fun s => (reconcile env (issuedCluster "1.31.0")).log.any (Event.appliesAt s "1.31.0")) = true) {s : Service}
    (hs : Enabled (issuedCluster "1.31.0").spec s) :
    ∃ d, Event.applied (.deployment s "1.31.0" d) ∈ (reconcile env (issuedCluster "1.31.0")).log := by
  have hmem : s ∈ [Service.frontend, .history, .matching, .worker] := by
    cases s with
    | internalFrontend => exact absurd hs (by decide)
    | _ => simp
  exact appliesAt_mem (List.all_eq_true.mp h s hmem)

/-- The reads of the Certificates fail in the second pass, which changes no template. -/
theorem read_errors_keep_templates_certificates :
    let c := issuedCluster "1.31.0"
    let env' : PassEnv := { certifiedReads with certificate := fun _ => .error readTimeout }
    ∃ d d', Event.applied (.deployment .frontend "1.31.0" d) ∈ (reconcile certifiedReads c).log ∧
      Event.applied (.deployment .frontend "1.31.0" d') ∈ (reconcile env' c).log ∧
      SameTemplate d.template d'.template := by
  intro c env'
  have hlib : SameLibraries certifiedReads env' := ⟨rfl, rfl, rfl, rfl⟩
  have hreads : ∀ r, ReadsFrom (some { resourceVersion := "7" }) (certifiedReads.secret r) := fun _ => .found rfl
  have hreads' : ∀ r, ReadsFrom (some { resourceVersion := "7" }) (env'.secret r) := fun _ => .found rfl
  have hfirst : ∀ s, Enabled c.spec s →
      ∃ d, Event.applied (.deployment s "1.31.0" d) ∈ (reconcile certifiedReads c).log :=
    fun s => certified_applied (by decide +kernel)
  have hsecond : ∀ s, Enabled c.spec s → ∃ d, Event.applied (.deployment s "1.31.0" d) ∈ (reconcile env' c).log :=
    fun s => certified_applied (by decide +kernel)
  have hboth : ∀ s, Enabled c.spec s → ∃ v d d', Event.applied (.deployment s v d) ∈ (reconcile certifiedReads c).log ∧
      Event.applied (.deployment s v d') ∈ (reconcile env' c).log := by
    intro s hs
    obtain ⟨e, he⟩ := hfirst s hs
    obtain ⟨e', he'⟩ := hsecond s hs
    exact ⟨_, e, e', he, he'⟩
  obtain ⟨d, hd⟩ := hfirst .frontend (by decide)
  obtain ⟨d', hd'⟩ := hsecond .frontend (by decide)
  have hsame := read_errors_keep_templates_iff rfl rfl rfl hlib certifiedReads_hash hreads hreads' hboth
  exact ⟨d, d', hd, hd', hsame.mpr (fun _ => .inl Iff.rfl) _ _ _ _ _ hd hd'⟩

/-- In the second pass the read of the frontend certificate's Secret times out: the pass comes to its end, and the
template of every pod has changed. -/
theorem failed_cert_read_changes_template :
    let c := issuedCluster "1.31.0"
    let env' : PassEnv := { certifiedReads with
      secret := fun r => if r = .certificate .frontend then .error readTimeout else .ok { resourceVersion := "7" } }
    ClusterWebhook.validateCreate c = [] ∧ SameLibraries certifiedReads env' ∧
      (∀ r, ReadsFrom (some { resourceVersion := "7" }) (certifiedReads.secret r)) ∧
      (∀ r, ReadsFrom (some { resourceVersion := "7" }) (env'.secret r)) ∧
      (⟨certifiedReads, c⟩ : PassReport).wrote.isSome = true ∧ (⟨env', c⟩ : PassReport).wrote.isSome = true ∧
      ∃ d d', Event.applied (.deployment .frontend "1.31.0" d) ∈ (reconcile certifiedReads c).log ∧
        Event.applied (.deployment .frontend "1.31.0" d') ∈ (reconcile env' c).log ∧
        ¬ SameTemplate d.template d'.template := by
  intro c env'
  have hlib : SameLibraries certifiedReads env' := ⟨rfl, rfl, rfl, rfl⟩
  have hreads : ∀ r, ReadsFrom (some { resourceVersion := "7" }) (certifiedReads.secret r) := fun _ => .found rfl
  have hreads' : ∀ r, ReadsFrom (some { resourceVersion := "7" }) (env'.secret r) := by
    intro r
    change ReadsFrom _ (if r = .certificate .frontend then .error readTimeout else .ok { resourceVersion := "7" })
    split
    · exact .failed (by decide)
    · exact .found rfl
  have hfirst : ∃ d, Event.applied (.deployment .frontend "1.31.0" d) ∈ (reconcile certifiedReads c).log :=
    certified_applied (by decide +kernel) (by decide)
  have hsecond : ∃ d, Event.applied (.deployment .frontend "1.31.0" d) ∈ (reconcile env' c).log :=
    certified_applied (by decide +kernel) (by decide)
  obtain ⟨d, hd⟩ := hfirst
  obtain ⟨d', hd'⟩ := hsecond
  refine ⟨by decide +kernel, hlib, hreads, hreads', by decide +kernel, by decide +kernel, d, d', hd, hd', ?_⟩
  obtain ⟨svc, hsvc, -, hiff⟩ :=
    applied_sameTemplate_iff ⟨rfl, rfl, _, rfl⟩ hlib certifiedReads_hash hreads hreads' hd hd'
  have hplain : ∀ svc ∈ enabledServices c.spec, (pinnedValue c.spec svc certHashAnnotationKey).isSome = false := by
    decide
  rw [hiff, hplain svc hsvc]
  rintro (h | h)
  · cases h
  · obtain ⟨name, e, he, -⟩ := (h (by decide)).mpr ⟨.frontend, readTimeout, rfl, by decide⟩
    cases he

/-! ## Edits of the config -/

theorem SameLibraries.symm {env env' : PassEnv} (h : SameLibraries env env') : SameLibraries env' env :=
  ⟨h.merge.symm, h.printTable.symm, h.yaml.symm, h.hash.symm⟩

theorem SameButDynamicConfig.symm {c c' : Cluster} (h : SameButDynamicConfig c c') : SameButDynamicConfig c' c := by
  obtain ⟨dc, generation, annotations, status, rfl⟩ := h.eq_update
  exact ⟨rfl, rfl, c.spec.dynamicConfig, rfl⟩

theorem dynamicConfigDocument_of_admitted {spec : ClusterSpec} (h : ClusterWebhook.validateSpec spec = []) :
    ∃ doc, dynamicConfigDocument spec = .ok doc := by
  have hdyn := (ClusterWebhook.SpecPasses.of_valid h).dynamicConfig
  unfold ClusterWebhook.validateDynamicConfig at hdyn
  unfold dynamicConfigDocument
  cases hdc : spec.dynamicConfig with
  | none => exact ⟨[], rfl⟩
  | some dc =>
    simp only [hdc] at hdyn ⊢
    cases hdoc : renderDynamicConfig supportedVersions dc spec.version with
    | ok doc => exact ⟨doc, rfl⟩
    | error e => simp [hdoc] at hdyn

theorem renderConfig_of_ok {env : PassEnv} {c : Cluster} {defCred visCred : ResolvedCredential} {config : String}
    {doc : List (String × List DynamicConfigEntry)} (hdef : credential env c .default = .ok defCred)
    (hvis : credential env c .visibility = .ok visCred)
    (hconfig : Config.renderClusterConfig env.printTable env.yaml c (buildOptions c defCred visCred) = .ok config)
    (hdoc : dynamicConfigDocument c.spec = .ok doc) : renderConfig env c = .ok ⟨config, doc⟩ := by
  change (credential env c .default).mapError _ >>= _ = _
  rw [hdef]
  change (credential env c .visibility).mapError _ >>= _ = _
  rw [hvis]
  change (Config.renderClusterConfig env.printTable env.yaml c (buildOptions c defCred visCred)).mapError _ >>= _ = _
  rw [hconfig]
  change (dynamicConfigDocument c.spec).mapError _ >>= _ = _
  rw [hdoc]
  rfl

section
variable {env env' : PassEnv} {c c' : Cluster}

theorem SameButDynamicConfig.renders (h : SameButDynamicConfig c c') (hlib : SameLibraries env env')
    (hcred : ∀ store, credential env c store = credential env' c' store)
    (hadmitted : ClusterWebhook.validateSpec c'.spec = []) {r : RenderedConfig} (hr : renderConfig env c = .ok r) :
    ∃ r', renderConfig env' c' = .ok r' := by
  obtain ⟨defCred, visCred, hdef, hvis, hconfig⟩ := renderConfig_eq_ok hr
  obtain ⟨doc, hdoc⟩ := dynamicConfigDocument_of_admitted hadmitted
  rw [hcred] at hdef hvis
  rw [hlib.printTable, hlib.yaml, ← h.renderClusterConfig] at hconfig
  exact ⟨_, renderConfig_of_ok hdef hvis hconfig hdoc⟩

theorem templateInputs_of_rendered {r : RenderedConfig} (hr : renderConfig env c = .ok r) :
    templateInputs env c = { configHash := env.hash r.config, mtls := mtlsMounts env c } := by
  simp only [templateInputs, hr, Except.toOption, Option.elim_some]

/-- Nothing that a Deployment is built from reads the dynamic config. -/
theorem SameButDynamicConfig.buildDeployment (h : SameButDynamicConfig c c') (hlib : SameLibraries env env')
    (hmounts : mtlsMounts env c = mtlsMounts env' c')
    (hcred : ∀ store, credential env c store = credential env' c' store) {r r' : RenderedConfig}
    (hr : renderConfig env c = .ok r) (hr' : renderConfig env' c' = .ok r') (svc : ServiceInfo) (version : String) :
    buildDeployment env' c' svc version = buildDeployment env c svc version := by
  have hconfig : r.config = r'.config := by
    refine h.config_eq hlib (fun store k k' hk hk' => ?_) hr hr'
    rw [hcred] at hk
    exact Except.ok.inj (hk.symm.trans hk')
  unfold TemporalOperator.buildDeployment
  rw [templateInputs_of_rendered hr, templateInputs_of_rendered hr', hmounts, hconfig, hlib.hash]
  exact h.buildDeploymentFrom hlib.merge svc _ version

end

def Event.deployment? : Event → Option (Service × String × Deployment)
  | .applied (.deployment s v d) => some (s, v, d)
  | _ => none

def deploymentsOf (log : List Event) : List (Service × String × Deployment) := log.filterMap Event.deployment?

theorem mem_deploymentsOf {log : List Event} {s : Service} {v : String} {d : Deployment} :
    (s, v, d) ∈ deploymentsOf log ↔ Event.applied (.deployment s v d) ∈ log := by
  unfold deploymentsOf
  rw [List.mem_filterMap]
  constructor
  · rintro ⟨e, he, hd⟩
    unfold Event.deployment? at hd
    split at hd
    · cases hd
      exact he
    · cases hd
  · exact fun h => ⟨_, h, rfl⟩

/-- The Deployments `reconcileServices` applies are those of the plan, as far as the applies go. -/
theorem deploymentsOf_reconcileServices {env : PassEnv} {c : Cluster} {st : ClusterStatus} {r : RenderedConfig}
    (versions : List (Service × String)) (hready : st.holds .schemaReady = true) (hr : renderConfig env c = .ok r) :
    deploymentsOf (reconcileServices env c st versions).log =
      match planServices env c (templateInputs env c) versions with
      | .ok planned => deploymentsOf (Act.each (applyObject env) (planned.map (wireAzure c))).log
      | .error _ => [] := by
  have hrollup : deploymentsOf (rollupServiceStatus env c st).log = [] := by
    refine List.filterMap_eq_nil_iff.mpr fun e he => ?_
    obtain ⟨s, n, rfl⟩ := emits_rollupServiceStatus env c st e he
    rfl
  unfold reconcileServices
  rw [hready, Bool.not_true, if_neg Bool.false_ne_true, Act.bind_of_ok hr]
  cases hplan : planServices env c (templateInputs env c) versions with
  | error e => rfl
  | ok planned =>
    rw [Act.bind_of_ok (by exact rfl)]
    simp only [Act.log_lift, List.nil_append]
    cases heach : (Act.each (applyObject env) (planned.map (wireAzure c))).res with
    | error e => rw [Act.bind_of_error heach]
    | ok u =>
      rw [Act.bind_of_ok heach]
      simp only [deploymentsOf, List.filterMap_append] at hrollup ⊢
      rw [hrollup, List.append_nil]

theorem planEach_congr {env env' : PassEnv} {c c' : Cluster} {i i' : TemplateInputs}
    (versions : List (Service × String))
    (h : ∀ svc version, buildDeploymentFrom env' c' svc i' version = buildDeploymentFrom env c svc i version)
    (svcs : List ServiceInfo) : planEach env' c' i' versions svcs = planEach env c i versions svcs := by
  induction svcs with
  | nil => rfl
  | cons svc svcs ih => simp only [planEach, planService, h, ih]

def NoHashOverride (spec : ClusterSpec) : Prop :=
  ∀ svc ∈ enabledServices spec,
    ∀ key ∈ [configHashAnnotationKey, dynamicConfigHashAnnotationKey, certHashAnnotationKey],
      pinnedValue spec svc key = none

theorem applied_configHash {env : PassEnv} {c : Cluster} {st : ClusterStatus} {versions : List (Service × String)}
    (hno : NoHashOverride c.spec) {r : RenderedConfig} (hr : renderConfig env c = .ok r) {s : Service} {v : String}
    {d : Deployment} (h : Event.applied (.deployment s v d) ∈ (reconcileServices env c st versions).log) :
    d.template.annotations.lookup configHashAnnotationKey = some (env.hash r.config) := by
  obtain ⟨svc, hsvc, -, d₀, hbuilt, rfl⟩ := deployment_built_reconcileServices h
  have hpinned := hno svc hsvc configHashAnnotationKey (by simp)
  rw [wiredTemplate_annotations, buildDeploymentFrom_annotations hbuilt, hpinned, lookup_podAnnotations, if_pos rfl,
    templateInputs_of_rendered hr]
  rfl

section
variable {env env' : PassEnv} {c c' : Cluster} {st st' : ClusterStatus} {versions : List (Service × String)}

/-- A Deployment of a service that is applied before and after an edit of the dynamic config is the same. -/
theorem SameButDynamicConfig.applied_eq (h : SameButDynamicConfig c c') (hlib : SameLibraries env env')
    (hmounts : mtlsMounts env c = mtlsMounts env' c')
    (hcred : ∀ store, credential env c store = credential env' c' store) {s : Service} {v v' : String}
    {d d' : Deployment} (hd : Event.applied (.deployment s v d) ∈ (reconcileServices env c st versions).log)
    (hd' : Event.applied (.deployment s v' d') ∈ (reconcileServices env' c' st' versions).log) : v = v' ∧ d = d' := by
  obtain ⟨r, hr⟩ := (applied_mem_reconcileServices hd).2.1
  obtain ⟨r', hr'⟩ := (applied_mem_reconcileServices hd').2.1
  obtain rfl : v = v' :=
    (deployment_mem_reconcileServices hd).2.2.trans (deployment_mem_reconcileServices hd').2.2.symm
  obtain ⟨svc, hsvc, hs, d₀, hbuilt, rfl⟩ := deployment_built_reconcileServices hd
  obtain ⟨svc', hsvc', hs', d₀', hbuilt', rfl⟩ := deployment_built_reconcileServices hd'
  rw [h.enabledServices] at hsvc'
  obtain rfl := enabledServices_unique hsvc hsvc' (hs.trans hs'.symm)
  rw [h.buildDeployment hlib hmounts hcred hr hr'] at hbuilt'
  obtain rfl := Except.ok.inj (hbuilt.symm.trans hbuilt')
  rw [h.wiredTemplate]
  exact ⟨rfl, rfl⟩

/-- Two admitted specs that differ in the dynamic config only: the same Deployments are applied. -/
theorem SameButDynamicConfig.deploymentsOf_eq (h : SameButDynamicConfig c c') (hlib : SameLibraries env env')
    (hmounts : mtlsMounts env c = mtlsMounts env' c')
    (hcred : ∀ store, credential env c store = credential env' c' store)
    (hadmitted : ClusterWebhook.validateSpec c.spec = []) (hadmitted' : ClusterWebhook.validateSpec c'.spec = [])
    (happly : env.applyErr = env'.applyErr) (hready : st.holds .schemaReady = st'.holds .schemaReady) :
    deploymentsOf (reconcileServices env c st versions).log =
      deploymentsOf (reconcileServices env' c' st' versions).log := by
  cases hs : st.holds .schemaReady with
  | false =>
    unfold reconcileServices
    rw [← hready, hs]
    rfl
  | true =>
    cases hr : renderConfig env c with
    | error e =>
      -- neither config renders
      cases hr' : renderConfig env' c' with
      | ok r' =>
        obtain ⟨r, hr''⟩ := h.symm.renders hlib.symm (fun store => (hcred store).symm) hadmitted hr'
        rw [hr] at hr''
        cases hr''
      | error e' =>
        unfold reconcileServices
        rw [← hready, hs, Bool.not_true, if_neg Bool.false_ne_true, if_neg Bool.false_ne_true, Act.bind_of_error hr,
          Act.bind_of_error hr']
        rfl
    | ok r =>
      obtain ⟨r', hr'⟩ := h.renders hlib hcred hadmitted' hr
      have hplan : planServices env' c' (templateInputs env' c') versions =
          planServices env c (templateInputs env c) versions := by
        simp only [planServices, h.enabledServices,
          planEach_congr versions (h.buildDeployment hlib hmounts hcred hr hr')]
      have hobject : applyObject env' = applyObject env := by
        unfold applyObject
        rw [happly]
      have hwire : wireAzure c' = wireAzure c := by
        funext obj
        cases obj <;> simp only [wireAzure, h.wiredTemplate]
      rw [deploymentsOf_reconcileServices versions hs hr, deploymentsOf_reconcileServices versions (hready ▸ hs) hr',
        hplan, hobject, hwire]

end

/-- **Config edits roll the servers, edits of the dynamic config do not.** For two specs of a cluster with the same
versions, mounts and credentials and no override of the hash annotations: if they differ in the dynamic config only,
the Deployments that are applied are the same; and if their rendered configs differ, and the hashes of the two do not
collide, the pod templates of every service differ. -/
theorem config_rolls_dynamicConfig_does_not {env env' : PassEnv} {c c' : Cluster} {st st' : ClusterStatus}
    {versions : List (Service × String)} (hname : c'.name = c.name) (hns : c'.namespace_ = c.namespace_)
    (hlib : SameLibraries env env') (hmounts : mtlsMounts env c = mtlsMounts env' c')
    (hcred : ∀ store, credential env c store = credential env' c' store) (hno : NoHashOverride c.spec)
    (hno' : NoHashOverride c'.spec)
    (hcollide : ∀ r r', renderConfig env c = .ok r → renderConfig env' c' = .ok r' →
      env.hash r.config = env.hash r'.config → r.config = r'.config) :
    ((∃ dc, c'.spec = { c.spec with dynamicConfig := dc }) →
      (∀ s v d v' d', Event.applied (.deployment s v d) ∈ (reconcileServices env c st versions).log →
        Event.applied (.deployment s v' d') ∈ (reconcileServices env' c' st' versions).log → v = v' ∧ d = d') ∧
      (ClusterWebhook.validateSpec c.spec = [] → ClusterWebhook.validateSpec c'.spec = [] →
        env.applyErr = env'.applyErr → st.holds .schemaReady = st'.holds .schemaReady →
        deploymentsOf (reconcileServices env c st versions).log =
          deploymentsOf (reconcileServices env' c' st' versions).log)) ∧
    (∀ r r', renderConfig env c = .ok r → renderConfig env' c' = .ok r' → r.config ≠ r'.config →
      ∀ s v d v' d', Event.applied (.deployment s v d) ∈ (reconcileServices env c st versions).log →
        Event.applied (.deployment s v' d') ∈ (reconcileServices env' c' st' versions).log →
        ¬ SameTemplate d.template d'.template) := by
  refine ⟨fun hspec => ?_, fun r r' hr hr' hne s v d v' d' hd hd' hsame => ?_⟩
  · have h : SameButDynamicConfig c c' := ⟨hname, hns, hspec⟩
    exact ⟨fun s v d v' d' hd hd' => h.applied_eq hlib hmounts hcred hd hd',
      h.deploymentsOf_eq hlib hmounts hcred⟩
  · have hannotation := hsame.annotations configHashAnnotationKey
    rw [applied_configHash hno hr hd, applied_configHash hno' hr' hd', ← hlib.hash] at hannotation
    exact hne (hcollide r r' hr hr' (Option.some.inj hannotation))

/-- An edit of the dynamic config of the sample leaves the four Deployments as they are; another host of its store
changes the pod templates of all four. -/
theorem dynamicConfig_edit_keeps_deployments :
    let env : PassEnv := { certifiedReads with hash := fun text => text }
    let c := issuedCluster "1.31.0"
    let dc : DynamicConfigSpec := { values := [("frontend.rps", [{ value := .value "2400" }])] }
    let c' := { c with spec := { c.spec with dynamicConfig := some dc } }
    let persistence := { c.spec.persistence with defaultStore := { sql := some { host := "db-2" } } }
    let moved := { c with spec := { c.spec with persistence := persistence } }
    let st := setSchemaReady c c.status true "SchemaUpToDate" "schema is ready"
    let versions := uniformVersions c.spec "1.31.0"
    let applied (c : Cluster) := (reconcileServices env c st versions).log
    deploymentsOf (applied c) = deploymentsOf (applied c') ∧ (deploymentsOf (applied c)).length = 4 ∧
      (deploymentsOf (applied moved)).length = 4 ∧
      ∀ s v d v' d', Event.applied (.deployment s v d) ∈ applied c →
        Event.applied (.deployment s v' d') ∈ applied moved → ¬ SameTemplate d.template d'.template := by
  intro env c dc c' persistence moved st versions applied
  have hlib : SameLibraries env env := ⟨rfl, rfl, rfl, rfl⟩
  have hno : NoHashOverride c.spec := by
    unfold NoHashOverride
    decide
  have hcollide : ∀ c c', ∀ r r', renderConfig env c = .ok r → renderConfig env c' = .ok r' →
      env.hash r.config = env.hash r'.config → r.config = r'.config := fun _ _ _ _ _ _ h => h
  refine ⟨?_, by decide +kernel, by decide +kernel, ?_⟩
  · have hcred : ∀ store, credential env c store = credential env c' store := fun _ => rfl
    have hname : c'.name = c.name := rfl
    have hno' : NoHashOverride c'.spec := hno
    have hmounts : mtlsMounts env c = mtlsMounts env c' := rfl
    exact ((config_rolls_dynamicConfig_does_not hname rfl hlib hmounts hcred hno hno' (hcollide c c')).1
      ⟨some dc, rfl⟩).2 (by decide +kernel) (by decide +kernel) rfl rfl
  · have hcred : ∀ store, credential env c store = credential env moved store := fun store => by cases store <;> rfl
    have hname : moved.name = c.name := rfl
    have hno' : NoHashOverride moved.spec := hno
    have hmounts : mtlsMounts env c = mtlsMounts env moved := rfl
    obtain ⟨hrendered, hrendered', hne⟩ : (renderConfig env c).isOk = true ∧ (renderConfig env moved).isOk = true ∧
        (renderConfig env c).toOption.map RenderedConfig.config ≠
          (renderConfig env moved).toOption.map RenderedConfig.config := by
      decide +kernel
    obtain ⟨r, hr⟩ := Lib.exists_ok_of_isOk hrendered
    obtain ⟨r', hr'⟩ := Lib.exists_ok_of_isOk hrendered'
    have hconfig : r.config ≠ r'.config := by
      rw [hr, hr'] at hne
      exact fun heq => hne (congrArg some heq)
    exact (config_rolls_dynamicConfig_does_not hname rfl hlib hmounts hcred hno hno' (hcollide c moved)).2 r r' hr hr'
      hconfig

end TemporalOperator
