import TemporalOperator.Cluster.Ports
import TemporalOperator.Cluster.TLSFiles
import TemporalOperator.Config.Consistency
import TemporalOperator.Config.Faithful
import TemporalOperator.Lib.Result

/-!
# The preview

`internal/plan` as the preview runs it, on a spec alone. A builder that dereferences a nil pointer stops the preview.

* `NilFree` : a builder does not dereference nil;
* `planFromSpec` : the objects of a cluster, which are built for what the planners of a pass list;
  `preview_safe_iff` : when it is safe.
-/

namespace TemporalOperator.Plan
open Lib Config Persistence

/-! ## Pointers -/

def NilFree {α : Type} (x : Builder α) : Prop := x ≠ .error .nilDereference

section
variable {α β : Type}

theorem nilFree_ok (a : α) : NilFree (.ok a : Builder α) := nofun

theorem nilFree_call (x : Except GoErr α) : NilFree (call x) := by
  cases x <;> nofun

theorem call_eq_ok {x : Except GoErr α} {a : α} : call x = .ok a ↔ x = .ok a := mapError_eq_ok

theorem NilFree.bind {x : Builder α} {f : α → Builder β} (hx : NilFree x) (hf : ∀ a, x = .ok a → NilFree (f a)) :
    NilFree (x >>= f) := by
  cases x with
  | ok a => exact hf a rfl
  | error h =>
    intro he
    exact hx (congrArg Except.error (Except.error.inj he))

end

/-! ## The plan -/

inductive Phase
  | persistenceSchema
  | coreServices
  | mtls
  | ui
  | monitoring
  deriving DecidableEq, Repr

inductive Object
  | schemaJob (store : SchemaStore) (job : Job)
  | certificate (cert : Certificate)
  | configSecret (rendered : String)
  | dynamicConfigMap (rendered : String)
  | deployment (name : String) (object : Deployment)
  | service (object : KubeService)
  | podDisruptionBudget (name : String) (selector : List (String × String))
  | uiIngress
  | serviceMonitor
  deriving DecidableEq, Repr

structure PlannedObject where
  phase : Phase
  object : Object
  deriving DecidableEq, Repr

def tag (phase : Phase) (objs : List Object) : List PlannedObject := objs.map fun object => { phase, object }

/-- The Job that sets a store up, from nothing. -/
def previewJobParams (c : Cluster) (store : SchemaStore) : SchemaJobParams where
  cluster := c
  sqlSpec := (storeSpec c.spec store).sql
  cassandraSpec := (storeSpec c.spec store).cassandra
  store := store
  action := .setup
  schemaVersionDir := postgresSchemaDir
  podTemplate := c.spec.persistence.schemaJob.bind id

def Halt.wrap (pre : String) : Halt → Halt
  | .failed e => .failed (e.wrap pre)
  | .nilDereference => .nilDereference

def planSchemaJob (env : PassEnv) (c : Cluster) (store : SchemaStore) : Builder Object := do
  let job ← (buildSchemaJob env (previewJobParams c store)).mapError
    (Halt.wrap ("building schema job for " ++ store.text ++ " store"))
  return .schemaJob store job

def planSchemaJobs (env : PassEnv) (c : Cluster) : Builder (List PlannedObject) := do
  let default ← planSchemaJob env c .default
  let visibility ← planSchemaJob env c .visibility
  return tag .persistenceSchema [default, visibility]

structure ServicesInput where
  renderedConfig : String
  renderedDynamicConfig : String
  configHash : String
  dynamicConfigHash : String
  serviceVersions : List (Service × String) := []
  mtls : Option MTLSMounts

def ServicesInput.templateInputs (i : ServicesInput) : TemplateInputs where
  configHash := i.configHash
  dynamicConfigHash := i.dynamicConfigHash
  mtls := i.mtls

/-- A mounted document is never empty. -/
def buildDynamicConfigMap (rendered : String) : Object :=
  .dynamicConfigMap (if rendered = "" then "\x7b\x7d\n" else rendered)

def buildUIClientCertificate (c : Cluster) : Builder Certificate := do
  let mtls ← deref c.spec.mtls
  let issuer ← deref mtls.issuerRef
  return {
    name := uiClientCertName c.name
    namespace_ := c.namespace_
    labels := standardLabels c "ui"
    secretName := uiClientCertName c.name
    commonName := uiName c.name
    dnsNames := []
    duration := none
    renewBefore := none
    issuerRef := issuerRef mtls issuer
    usages := [.clientAuth] }

def buildUIService (c : Cluster) : KubeService where
  name := uiName c.name
  namespace_ := c.namespace_
  labels := standardLabels c "ui"
  type := .clusterIP
  selector := selectorLabels c "ui"
  ports := [samePort "http" uiPort]

/-- The service `s`, as `EnabledServices` lists it. -/
def enabledService (spec : ClusterSpec) (s : Service) : ServiceInfo :=
  ((enabledServices spec).find? (·.name = s)).getD ⟨s, none⟩

/-- What the builder makes of an object that is planned. -/
def builtObject (c : Cluster) (i : ServicesInput) : Planned → Builder Object
  | .internodeCertificate => .certificate <$> deref (buildInternodeCertificate c)
  | .frontendCertificate => .certificate <$> deref (buildFrontendCertificate c)
  | .configSecret => .ok (.configSecret i.renderedConfig)
  | .dynamicConfigMap => .ok (buildDynamicConfigMap i.renderedDynamicConfig)
  | .deployment s _ deployment => .ok (.deployment (deploymentName c.name s.name) deployment)
  | .headlessService s => .ok (.service (buildHeadlessService c (enabledService c.spec s)))
  | .podDisruptionBudget s => .ok (.podDisruptionBudget (pdbName c.name s.name) (selectorLabels c s.name))
  | .frontendService => .ok (.service (buildFrontendService c (enabledService c.spec .frontend)))
  | .uiClientCertificate => .certificate <$> buildUIClientCertificate c
  | .uiDeployment => .ok (.deployment (uiName c.name) (buildUIDeployment c))
  | .uiService => .ok (.service (buildUIService c))
  | .uiIngress => .ok .uiIngress
  | .serviceMonitor => .ok .serviceMonitor

/-- The objects of a planner of a pass, built and tagged. -/
def build (c : Cluster) (i : ServicesInput) (phase : Phase) (planned : List Planned) : Builder (List PlannedObject) :=
  tag phase <$> planned.mapM (builtObject c i)

def previewOptions (c : Cluster) : Config.BuildOptions where
  publicClientHostPort := .ofString (frontendServiceName c.name ++ "." ++ c.namespace_ ++ ".svc:" ++
    toString (servicePort .frontend).grpcPort)

/-- The libraries are those of a pass, with the encoding of dynamic config. -/
def servicesInput (env : PassEnv) (dynamicYaml : List (String × List DynamicConfigEntry) → String) (c : Cluster) :
    Builder ServicesInput := do
  let renderedConfig ← call ((renderClusterConfig env.printTable env.yaml c (previewOptions c)).mapError
    fun e => goErr ("rendering config: " ++ e))
  let doc ← call ((dynamicConfigDocument c.spec).mapError fun e => goErr ("rendering dynamic config: " ++ e))
  -- a spec without values is not encoded at all
  let renderedDynamic := if doc.isEmpty then "" else dynamicYaml doc
  return {
    renderedConfig
    renderedDynamicConfig := renderedDynamic
    configHash := env.hash renderedConfig
    dynamicConfigHash := env.hash renderedDynamic
    mtls :=
      if mTLSEnabled c.spec then
        some
          { enabled := true
            internodeSecret := internodeCertName c.name
            frontendSecret := frontendCertName c.name
            certHash := "" }
      else none }

def planFromSpec (env : PassEnv) (dynamicYaml : List (String × List DynamicConfigEntry) → String) (c : Cluster) :
    Builder (List PlannedObject) := do
  let input ← servicesInput env dynamicYaml c
  let schemaJobs ← planSchemaJobs env c
  let certificates ← build c input .mtls (planMTLS c.spec)
  let planned ← call (planServices env c input.templateInputs input.serviceVersions)
  let services ← build c input .coreServices planned
  let ui ← build c input .ui (planUI c.spec)
  let monitoring ← build c input .monitoring (planMonitoring c.spec)
  return schemaJobs ++ certificates ++ services ++ ui ++ monitoring

/-! ## Without nil -/

/-- A store that the schema tool can set up. -/
def HasSchemaTool (store : DatastoreSpec) : Prop := store.sql.isSome = true ∨ store.cassandra.isSome = true

theorem schemaToolArgs_ok {p : SchemaJobParams} (h : p.sqlSpec.isSome = true ∨ p.cassandraSpec.isSome = true) :
    ∃ args, schemaToolArgs p = .ok args := by
  unfold schemaToolArgs SchemaJobParams.isCassandra
  by_cases hcassandra : p.cassandraSpec.isSome = true
  · obtain ⟨spec, hspec⟩ := Option.isSome_iff_exists.mp hcassandra
    rw [if_pos hcassandra, cassandraToolArgs, hspec]
    exact ⟨_, rfl⟩
  · obtain ⟨spec, hspec⟩ := Option.isSome_iff_exists.mp (h.resolve_right hcassandra)
    rw [if_neg hcassandra, sqlToolArgs, hspec]
    exact ⟨_, rfl⟩

theorem passwordEnv_ok {p : SchemaJobParams} (h : p.sqlSpec.isSome = true ∨ p.cassandraSpec.isSome = true) :
    ∃ env, passwordEnv p = .ok env := by
  unfold passwordEnv SchemaJobParams.isCassandra
  by_cases hcassandra : p.cassandraSpec.isSome = true
  · obtain ⟨spec, hspec⟩ := Option.isSome_iff_exists.mp hcassandra
    simp only [hspec, Option.isSome_some, if_true]
    exact ⟨_, rfl⟩
  · obtain ⟨spec, hspec⟩ := Option.isSome_iff_exists.mp (h.resolve_right hcassandra)
    simp only [hcassandra, hspec]
    exact ⟨_, rfl⟩

theorem schemaContainerExec_ok {p : SchemaJobParams} (h : p.sqlSpec.isSome = true ∨ p.cassandraSpec.isSome = true) :
    ∃ exec, schemaContainerExec p = .ok exec := by
  obtain ⟨args, hargs⟩ := schemaToolArgs_ok h
  obtain ⟨env, henv⟩ := passwordEnv_ok h
  unfold schemaContainerExec
  rw [hargs, henv]
  by_cases hcommand : (decide (p.passwordCommand ≠ "") && !p.isCassandra) = true
  · exact ⟨_, if_pos hcommand⟩
  · exact ⟨_, if_neg hcommand⟩

theorem schemaContainerExec_nil {c : Cluster} {store : SchemaStore} (h : ¬ HasSchemaTool (storeSpec c.spec store)) :
    schemaContainerExec (previewJobParams c store) = .error .nilDereference := by
  simp only [HasSchemaTool, not_or, Bool.not_eq_true, Option.isSome_eq_false_iff, Option.isNone_iff_eq_none] at h
  unfold schemaContainerExec schemaToolArgs SchemaJobParams.isCassandra sqlToolArgs
  simp only [previewJobParams, h.1, h.2]
  rfl

theorem planSchemaJob_nil (env : PassEnv) {c : Cluster} (store : SchemaStore)
    (h : ¬ HasSchemaTool (storeSpec c.spec store)) : planSchemaJob env c store = .error .nilDereference := by
  unfold planSchemaJob buildSchemaJob
  rw [schemaContainerExec_nil h]
  rfl

theorem planSchemaJob_cases (env : PassEnv) {c : Cluster} (store : SchemaStore)
    (h : HasSchemaTool (storeSpec c.spec store)) :
    let p := previewJobParams c store
    ∃ exec, schemaContainerExec p = .ok exec ∧
      ((∃ template job, applyPodTemplate env (schemaJobTemplate p exec) p.podTemplate (schemaJobLabels p) = .ok template ∧
          planSchemaJob env c store = .ok (.schemaJob store job)) ∨
        ∃ err e, applyPodTemplate env (schemaJobTemplate p exec) p.podTemplate (schemaJobLabels p) = .error err ∧
          planSchemaJob env c store = .error (.failed e)) := by
  obtain ⟨exec, hexec⟩ := schemaContainerExec_ok (p := previewJobParams c store) h
  refine ⟨exec, hexec, ?_⟩
  unfold planSchemaJob buildSchemaJob
  rw [hexec]
  cases hpatch : applyPodTemplate env (schemaJobTemplate (previewJobParams c store) exec)
      (previewJobParams c store).podTemplate (schemaJobLabels (previewJobParams c store)) with
  | ok template =>
    simp only [bind, Except.bind, hpatch]
    exact .inl ⟨template, _, rfl, rfl⟩
  | error err =>
    simp only [bind, Except.bind, hpatch]
    exact .inr ⟨err, _, rfl, rfl⟩

theorem nilFree_planSchemaJob (env : PassEnv) {c : Cluster} (store : SchemaStore)
    (h : HasSchemaTool (storeSpec c.spec store)) : NilFree (planSchemaJob env c store) := by
  obtain ⟨exec, -, ⟨template, job, -, hjob⟩ | ⟨err, e, -, herr⟩⟩ := planSchemaJob_cases env store h
  · rw [hjob]
    exact nilFree_ok _
  · rw [herr]
    nofun

theorem nilFree_map {α β : Type} {x : Builder α} (hx : NilFree x) (f : α → β) : NilFree (f <$> x) := by
  cases x with
  | ok a => exact nilFree_ok _
  | error h =>
    intro he
    exact hx (congrArg Except.error (Except.error.inj he))

theorem nilFree_mapM {α β : Type} {f : α → Builder β} {as : List α} (h : ∀ a ∈ as, NilFree (f a)) :
    NilFree (as.mapM f) := by
  induction as with
  | nil => exact nilFree_ok _
  | cons a as ih =>
    rw [List.mapM_cons]
    refine (h a List.mem_cons_self).bind fun b _ => ?_
    exact (ih fun a ha => h a (List.mem_cons_of_mem _ ha)).bind fun bs _ => nilFree_ok _

/-- The objects that are built from the issuer of mTLS. -/
def Planned.issued : Planned → Bool
  | .internodeCertificate | .frontendCertificate | .uiClientCertificate => true
  | _ => false

section
variable {c : Cluster} (hadmitted : ClusterWebhook.validateCreate c = []) (i : ServicesInput)
include hadmitted

theorem nilFree_certificate (hmtls : mTLSEnabled c.spec = true) (name : CertificateName) :
    NilFree (deref (buildCertificate c name)) := by
  obtain ⟨cert, hcert, -⟩ := buildCertificate_ok hadmitted hmtls name
  rw [hcert]
  exact nilFree_ok _

theorem nilFree_buildUIClientCertificate (hmtls : mTLSEnabled c.spec = true) :
    NilFree (buildUIClientCertificate c) := by
  obtain ⟨mtls, hspec, hprovider⟩ := (mTLSEnabled_iff c.spec).mp hmtls
  obtain ⟨issuer, hissuer⟩ := validateSpec_issuer hadmitted hspec hprovider
  unfold buildUIClientCertificate
  rw [hspec]
  change NilFree (deref mtls.issuerRef >>= _)
  rw [hissuer]
  exact nilFree_ok _

theorem nilFree_builtObject {obj : Planned} (h : Planned.issued obj = true → mTLSEnabled c.spec = true) :
    NilFree (builtObject c i obj) := by
  cases obj with
  | internodeCertificate => exact nilFree_map (nilFree_certificate hadmitted (h rfl) .internode) _
  | frontendCertificate => exact nilFree_map (nilFree_certificate hadmitted (h rfl) .frontend) _
  | uiClientCertificate => exact nilFree_map (nilFree_buildUIClientCertificate hadmitted (h rfl)) _
  | _ => exact nilFree_ok _

theorem nilFree_build (phase : Phase) {planned : List Planned}
    (h : ∀ obj ∈ planned, Planned.issued obj = true → mTLSEnabled c.spec = true) : NilFree (build c i phase planned) :=
  nilFree_map (nilFree_mapM fun obj hobj => nilFree_builtObject hadmitted i (h obj hobj)) _

end

theorem planServices_issued {env : PassEnv} {c : Cluster} {i : TemplateInputs} {versions : List (Service × String)}
    {planned : List Planned} (h : planServices env c i versions = .ok planned) :
    ∀ obj ∈ planned, Planned.issued obj = false := by
  intro obj hobj
  rcases ((planServices_eq_ok h).2 obj).mp hobj with rfl | rfl | ⟨svc, -, hobj⟩
  · rfl
  · rfl
  · cases hobj <;> rfl

theorem planUI_issued {spec : ClusterSpec} {obj : Planned} (h : obj ∈ planUI spec)
    (hissued : Planned.issued obj = true) : mTLSEnabled spec = true := by
  unfold planUI at h
  cases hui : spec.ui with
  | none => simp [hui] at h
  | some ui =>
    by_contra hmtls
    simp only [hui, if_neg hmtls] at h
    split at h
    · cases h
    · simp only [List.nil_append, List.cons_append, List.mem_cons] at h
      rcases h with rfl | rfl | h
      · cases hissued
      · cases hissued
      · split at h
        · obtain rfl := List.mem_singleton.mp h
          cases hissued
        · cases h

theorem planMonitoring_issued {spec : ClusterSpec} {obj : Planned} (h : obj ∈ planMonitoring spec) :
    Planned.issued obj = false := by
  unfold planMonitoring at h
  split at h
  · obtain rfl := List.mem_singleton.mp h
    rfl
  · cases h

/-! ## When the preview is safe -/

/-- The preview does not dereference nil, and a schema Job is planned only for a store that the schema tool knows. -/
structure PreviewSafe (env : PassEnv) (dynamicYaml : List (String × List DynamicConfigEntry) → String) (c : Cluster) :
    Prop where
  nilFree : NilFree (planFromSpec env dynamicYaml c)
  jobs : ∀ plan, planFromSpec env dynamicYaml c = .ok plan → ∀ o ∈ plan, ∀ store job, o.object = .schemaJob store job →
    HasSchemaTool (storeSpec c.spec store)

def UndecodableAuth (lib : YamlLib) (spec : ClusterSpec) : Prop :=
  ∃ auth ∈ spec.authorization, ∃ err, decodedConfig lib auth = .error err

/-- The patch of `persistence.schemaJob` cannot be applied to the Job of the default store. -/
def UnmergeableSchemaPatch (env : PassEnv) (c : Cluster) : Prop :=
  let p := previewJobParams c .default
  ∃ exec err, schemaContainerExec p = .ok exec ∧
    applyPodTemplate env (schemaJobTemplate p exec) p.podTemplate (schemaJobLabels p) = .error err

/-- Visibility is not in Elasticsearch, or an error comes first. -/
def SafeToPlan (env : PassEnv) (c : Cluster) : Prop :=
  c.spec.persistence.visibilityStore.elasticsearch = none ∨ UndecodableAuth env.yaml c.spec ∨
    UnmergeableSchemaPatch env c

theorem planSchemaJobs_ok {env : PassEnv} {c : Cluster} {jobs : List PlannedObject}
    (h : planSchemaJobs env c = .ok jobs) (store : SchemaStore) : HasSchemaTool (storeSpec c.spec store) := by
  by_contra hnone
  have hnil := planSchemaJob_nil env store hnone
  unfold planSchemaJobs at h
  cases store with
  | default =>
    rw [hnil] at h
    cases h
  | visibility =>
    rw [hnil] at h
    cases hdefault : planSchemaJob env c .default with
    | ok job => rw [hdefault] at h; cases h
    | error e => rw [hdefault] at h; cases h

section
variable (env : PassEnv) (dynamicYaml : List (String × List DynamicConfigEntry) → String) {c : Cluster}

theorem planFromSpec_ok {plan : List PlannedObject} (h : planFromSpec env dynamicYaml c = .ok plan)
    (store : SchemaStore) : HasSchemaTool (storeSpec c.spec store) := by
  unfold planFromSpec at h
  cases hinput : servicesInput env dynamicYaml c with
  | error e => rw [hinput] at h; cases h
  | ok input =>
    cases hjobs : planSchemaJobs env c with
    | error e => rw [hinput, hjobs] at h; cases h
    | ok jobs => exact planSchemaJobs_ok hjobs store

theorem nilFree_servicesInput : NilFree (servicesInput env dynamicYaml c) :=
  (nilFree_call _).bind fun _ _ => (nilFree_call _).bind fun _ _ => nilFree_ok _

theorem nilFree_planFromSpec (hadmitted : ClusterWebhook.validateCreate c = [])
    (hjobs : ∀ input, servicesInput env dynamicYaml c = .ok input → NilFree (planSchemaJobs env c)) :
    NilFree (planFromSpec env dynamicYaml c) := by
  refine (nilFree_servicesInput env dynamicYaml).bind fun input hinput => ?_
  refine (hjobs input hinput).bind fun jobs _ => ?_
  refine (nilFree_build hadmitted input .mtls fun obj hobj _ => (mem_planMTLS.mp hobj).1).bind fun certs _ => ?_
  refine (nilFree_call _).bind fun planned hplanned => ?_
  have hservices : ∀ obj ∈ planned, Planned.issued obj = true → mTLSEnabled c.spec = true := by
    intro obj hobj hissued
    rw [planServices_issued (call_eq_ok.mp hplanned) obj hobj] at hissued
    cases hissued
  refine (nilFree_build hadmitted input .coreServices hservices).bind fun services _ => ?_
  refine (nilFree_build hadmitted input .ui fun obj hobj => planUI_issued hobj).bind fun ui _ => ?_
  refine (nilFree_build hadmitted input .monitoring fun obj hobj hissued => ?_).bind fun _ _ => nilFree_ok _
  rw [planMonitoring_issued hobj] at hissued
  cases hissued

/-- An admitted cluster has one backend for each store, and that of the default store is not Elasticsearch. -/
theorem admitted_stores (hadmitted : ClusterWebhook.validateCreate c = []) :
    HasSchemaTool c.spec.persistence.defaultStore ∧
      (c.spec.persistence.visibilityStore.elasticsearch = none ↔ HasSchemaTool c.spec.persistence.visibilityStore) := by
  obtain ⟨hdefault, hvis⟩ := (ClusterWebhook.SpecPasses.of_valid hadmitted).stores
  constructor
  · unfold HasSchemaTool
    cases hsql : c.spec.persistence.defaultStore.sql.isSome <;>
      cases hcassandra : c.spec.persistence.defaultStore.cassandra.isSome <;> simp_all
  · unfold HasSchemaTool
    cases hsql : c.spec.persistence.visibilityStore.sql <;>
      cases hcassandra : c.spec.persistence.visibilityStore.cassandra <;>
      cases hes : c.spec.persistence.visibilityStore.elasticsearch <;> simp_all

/-- For an admitted cluster the config is rendered, unless the authorization cannot be decoded. -/
theorem servicesInput_ok_iff (hadmitted : ClusterWebhook.validateCreate c = []) :
    (∃ input, servicesInput env dynamicYaml c = .ok input) ↔ ¬ UndecodableAuth env.yaml c.spec := by
  obtain ⟨doc, hdoc⟩ := dynamicConfigDocument_of_admitted hadmitted
  unfold servicesInput renderClusterConfig
  rw [hdoc]
  rcases buildConfigData_cases env.yaml hadmitted (previewOptions c) with ⟨err, hauth, hdata⟩ | ⟨auth, d, hauth, hdata, -⟩
  · rw [hdata]
    refine ⟨fun ⟨_, h⟩ => (by cases h), fun hdecodes => absurd ?_ hdecodes⟩
    cases hspec : c.spec.authorization with
    | none =>
      rw [buildAuth, hspec] at hauth
      cases hauth
    | some spec =>
      cases hdecoded : decodedConfig env.yaml spec with
      | error e => exact ⟨spec, hspec, e, hdecoded⟩
      | ok extra =>
        rw [buildAuth_of_decoded env.yaml hspec hdecoded] at hauth
        cases hauth
  · rw [hdata]
    refine ⟨?_, fun _ => ⟨_, rfl⟩⟩
    rintro - ⟨spec, hspec, err, herr⟩
    rw [buildAuth_of_undecoded env.yaml hspec herr] at hauth
    cases hauth

theorem planSchemaJob_default (hdefault : HasSchemaTool c.spec.persistence.defaultStore) :
    (∃ job, planSchemaJob env c .default = .ok job) ↔ ¬ UnmergeableSchemaPatch env c := by
  obtain ⟨exec, hexec, ⟨template, job, hpatch, hjob⟩ | ⟨err, e, hpatch, herr⟩⟩ :=
    planSchemaJob_cases env .default hdefault
  · refine ⟨?_, fun _ => ⟨_, hjob⟩⟩
    rintro - ⟨exec', err, hexec', herr⟩
    obtain rfl := Except.ok.inj (hexec.symm.trans hexec')
    cases hpatch.symm.trans herr
  · refine ⟨?_, fun hmerges => absurd ⟨exec, err, hexec, hpatch⟩ hmerges⟩
    rintro ⟨job, hjob⟩
    cases herr.symm.trans hjob

/-- Without a tool for the visibility store and without an error before it, a nil pointer is dereferenced. -/
theorem planFromSpec_nil (hadmitted : ClusterWebhook.validateCreate c = []) (hsafe : ¬ SafeToPlan env c) :
    planFromSpec env dynamicYaml c = .error .nilDereference := by
  obtain ⟨hdefault, hvis⟩ := admitted_stores hadmitted
  simp only [SafeToPlan, not_or, hvis] at hsafe
  obtain ⟨hes, hdecodes, hmerges⟩ := hsafe
  obtain ⟨input, hinput⟩ := (servicesInput_ok_iff env dynamicYaml hadmitted).mpr hdecodes
  obtain ⟨job, hjob⟩ := (planSchemaJob_default env hdefault).mpr hmerges
  unfold planFromSpec planSchemaJobs
  rw [hinput, hjob, planSchemaJob_nil env .visibility hes]
  rfl

theorem nilFree_of_safeToPlan (hadmitted : ClusterWebhook.validateCreate c = []) (hsafe : SafeToPlan env c) :
    NilFree (planFromSpec env dynamicYaml c) := by
  obtain ⟨hdefault, hvis⟩ := admitted_stores hadmitted
  refine nilFree_planFromSpec env dynamicYaml hadmitted fun input hinput => ?_
  refine (nilFree_planSchemaJob env .default hdefault).bind fun job hjob => ?_
  rcases hsafe with hes | hauth | hpatch
  · exact (nilFree_planSchemaJob env .visibility (hvis.mp hes)).bind fun _ _ => nilFree_ok _
  · exact absurd hauth ((servicesInput_ok_iff env dynamicYaml hadmitted).mp ⟨input, hinput⟩)
  · exact absurd hpatch ((planSchemaJob_default env hdefault).mp ⟨job, hjob⟩)

/-- **The preview of an admitted cluster is safe** exactly when its visibility is not in Elasticsearch, or an error of the
passthrough or of the patch of the schema Jobs comes first. -/
theorem preview_safe_iff (hadmitted : ClusterWebhook.validateCreate c = []) :
    PreviewSafe env dynamicYaml c ↔ SafeToPlan env c := by
  constructor
  · intro h
    by_contra hsafe
    exact h.nilFree (planFromSpec_nil env dynamicYaml hadmitted hsafe)
  · intro hsafe
    refine ⟨nilFree_of_safeToPlan env dynamicYaml hadmitted hsafe, ?_⟩
    intro plan hplan o _ store job _
    exact planFromSpec_ok env dynamicYaml hplan store

end

theorem preview_safe_sql :
    let c := sampleCluster "1.31.0"
    ClusterWebhook.validateCreate c = [] ∧ PreviewSafe {} (fun _ => "") c := by
  intro c
  have hadmitted : ClusterWebhook.validateCreate c = [] := by decide +kernel
  have hsafe : SafeToPlan {} c := .inl rfl
  exact ⟨hadmitted, (preview_safe_iff {} (fun _ => "") hadmitted).mpr hsafe⟩

/-- The arguments of the SQL tool are built from a nil spec. -/
theorem preview_dereferences_nil :
    let c := searchAt "es:9200" none
    ClusterWebhook.validateCreate c = [] ∧ planFromSpec {} (fun _ => "") c = .error .nilDereference := by
  intro c
  have hadmitted : ClusterWebhook.validateCreate c = [] := by decide +kernel
  refine ⟨hadmitted, planFromSpec_nil {} (fun _ => "") hadmitted ?_⟩
  rintro (hes | ⟨auth, hauth, -⟩ | ⟨exec, err, -, herr⟩)
  · cases hes
  · cases hauth
  · cases herr

end TemporalOperator.Plan
