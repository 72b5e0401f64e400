import TemporalOperator.Cluster.Certificates
import TemporalOperator.Cluster.Overrides
import TemporalOperator.Cluster.Progress
import TemporalOperator.Cluster.Restarts

/-!
# TLS files in the pods

The config names files for TLS, and the Deployments mount Secrets. The paths are made in one place
(`internal/temporal/configtemplate.go`), the mounts in another (`internal/resources/deployment.go`).

* `FileFrom` : a path in the server container of a pod lies under the mount of a Secret;
* `mtls_closes_up` : the files of mTLS come from the Secrets of the Certificates, whose names the clients verify;
* `datastore_files_mounted_iff` : no file for the TLS of a datastore is mounted.
-/

namespace TemporalOperator
open Lib Persistence

/-! ## Mounted Secrets -/

def MountsSecret (spec : PodSpec) (mountPath secret : String) : Prop :=
  ∃ container mount, spec.containers.find? (fun c => c.name = serverContainerName) = some container ∧
    mount ∈ container.volumeMounts ∧ mount.mountPath = mountPath ∧
    (spec.volumes.find? fun v => v.name = mount.name).map Volume.source = some (.secret secret)

/-- The path, in the server container, lies under a mount of the Secret. -/
def FileFrom (spec : PodSpec) (path secret : String) : Prop :=
  ∃ mountPath file, MountsSecret spec mountPath secret ∧ path = mountPath ++ "/" ++ file

theorem mountsSecret_of_entries {spec : PodSpec} {mountPath volume secret : String}
    (hmount : spec.mountAt mountPath = some volume) (hvolume : spec.volume volume = some (.secret secret)) :
    MountsSecret spec mountPath secret := by
  obtain ⟨container, hcontainer, hat⟩ := Option.bind_eq_some_iff.mp hmount
  obtain ⟨mount, hfind, rfl⟩ := Option.map_eq_some_iff.mp hat
  exact ⟨container, mount, hcontainer, List.mem_of_find?_eq_some hfind, by simpa using List.find?_some hfind, hvolume⟩

theorem find?_ensureAzureTokenVolume (volumes : List Volume) {name : String} {v : Volume}
    (h : (volumes.find? fun v => v.name = name) = some v) :
    ((ensureAzureTokenVolume volumes).find? fun v => v.name = name) = some v := by
  unfold ensureAzureTokenVolume
  split
  · exact h
  · rw [List.find?_append, h]
    rfl

theorem MountsSecret.wiredTemplate {tmpl : PodTemplate} {mountPath secret : String}
    (h : MountsSecret tmpl.spec mountPath secret) (c : Cluster) :
    MountsSecret (wiredTemplate c tmpl).spec mountPath secret := by
  obtain ⟨container, mount, hcontainer, hmount, hpath, hvolume⟩ := h
  have hserver := wiredTemplate_server c tmpl
  rw [hcontainer, Option.map_some] at hserver
  refine ⟨_, mount, hserver, ?_, hpath, ?_⟩
  · split
    · unfold withAzureTokenMount
      split
      · exact hmount
      · exact List.mem_append_left _ hmount
    · exact hmount
  · unfold TemporalOperator.wiredTemplate
    cases c.spec.persistence.azureWorkloadIdentity with
    | none => exact hvolume
    | some wi =>
      obtain ⟨v, hv, hsource⟩ := Option.map_eq_some_iff.mp hvolume
      exact Option.map_eq_some_iff.mpr ⟨v, find?_ensureAzureTokenVolume _ hv, hsource⟩

/-! ## mTLS -/

/-- The names under which clients of the rendered config verify the servers that present the certificate. The system
worker is a client of the frontend. -/
def clientNames (m : Config.MTLSConfig) : CertificateName → List String
  | .internode => [m.internodeServerName]
  | .frontend => [m.frontendServerName, m.systemWorkerName]

/-- The files of the rendered config that belong to the certificate. -/
def certificateFiles (m : Config.MTLSConfig) : CertificateName → List String
  | .internode =>
    [m.internodeServerCert, m.internodeServerKey, m.internodeClientCA, m.systemWorkerCert, m.systemWorkerKey,
      m.systemWorkerCA]
  | .frontend => [m.frontendServerCert, m.frontendServerKey]

def CertificateName.usedBy : CertificateName → Service → Bool
  | .internode, _ => true
  | .frontend, s => servesFrontend s

def CertificateName.dir : CertificateName → String
  | .internode => Config.internodeCertDir
  | .frontend => Config.frontendCertDir

/-- The volume of the certificate's Secret. -/
def CertificateName.volume : CertificateName → String
  | .internode => "internode-certs"
  | .frontend => "frontend-certs"

theorem mTLSEnabled_iff (spec : ClusterSpec) :
    mTLSEnabled spec = true ↔ ∃ mtls, spec.mtls = some mtls ∧ mtls.provider = "cert-manager" := by
  unfold mTLSEnabled
  cases spec.mtls <;> simp

theorem validateSpec_issuer {spec : ClusterSpec} (h : ClusterWebhook.validateSpec spec = []) {mtls : MTLSSpec}
    (hmtls : spec.mtls = some mtls) (hprovider : mtls.provider = "cert-manager") :
    ∃ issuer, mtls.issuerRef = some issuer := by
  have hcheck := (ClusterWebhook.SpecPasses.of_valid h).mtls
  simp only [ClusterWebhook.validateMTLS, hmtls, ClusterWebhook.check_eq_nil, hprovider] at hcheck
  exact Option.isSome_iff_exists.mp (by simpa using hcheck)

/-- For an admitted cluster with mTLS both Certificates are built: their Secrets are those the pods mount, the names are
those the config, the UI and the operator know. -/
theorem buildCertificate_ok {c : Cluster} (hadmitted : ClusterWebhook.validateSpec c.spec = [])
    (hmtls : mTLSEnabled c.spec = true) (name : CertificateName) :
    ∃ cert, buildCertificate c name = some cert ∧ cert.secretName = name.secretName c.name ∧
      (∀ n ∈ clientNames (Config.buildMTLS c) name, n ∈ cert.dnsNames) ∧
      (name = .frontend → frontendHost c ∈ cert.dnsNames ∧ frontendHost c ++ ".cluster.local" ∈ cert.dnsNames) := by
  obtain ⟨mtls, hspec, hprovider⟩ := (mTLSEnabled_iff c.spec).mp hmtls
  obtain ⟨issuer, hissuer⟩ := validateSpec_issuer hadmitted hspec hprovider
  cases name with
  | internode =>
    obtain ⟨cert, hcert, hsecret, hnames⟩ := buildServerCertificate_of_issuer hspec hissuer (internodeCertName c.name)
      "internode" (c.name ++ "-internode")
      fun _ => internodeCertName c.name :: (enabledServices c.spec).flatMap fun svc => serviceDNSNames c svc.name.name
    refine ⟨cert, hcert, hsecret, ?_, fun h => by cases h⟩
    simp [hnames, clientNames, Config.buildMTLS, hspec, internodeCertName]
  | frontend =>
    obtain ⟨cert, hcert, hsecret, hnames⟩ := buildServerCertificate_of_issuer hspec hissuer (frontendCertName c.name)
      "frontend" (c.name ++ "-frontend")
      fun mtls => [frontendHost c ++ ".cluster.local", frontendHost c] ++ mtls.frontend.getD []
    refine ⟨cert, hcert, hsecret, ?_, fun _ => ⟨by simp [hnames], by simp [hnames]⟩⟩
    simp [hnames, clientNames, Config.buildMTLS, hspec, frontendHost, frontendServiceName, String.append_assoc]

theorem certificateFiles_under {c : Cluster} {mtls : MTLSSpec} (hspec : c.spec.mtls = some mtls)
    (name : CertificateName) :
    ∀ path ∈ certificateFiles (Config.buildMTLS c) name, ∃ file, path = name.dir ++ "/" ++ file := by
  have hunder (dir file : String) : ∃ name, dir ++ ("/" ++ file) = dir ++ "/" ++ name :=
    ⟨file, by rw [String.append_assoc]⟩
  have hcrt (dir : String) : ∃ file, dir ++ "/tls.crt" = dir ++ "/" ++ file := hunder dir "tls.crt"
  have hkey (dir : String) : ∃ file, dir ++ "/tls.key" = dir ++ "/" ++ file := hunder dir "tls.key"
  have hca (dir : String) : ∃ file, dir ++ "/ca.crt" = dir ++ "/" ++ file := hunder dir "ca.crt"
  cases name with
  | internode =>
    simp only [certificateFiles, Config.buildMTLS, hspec, List.forall_mem_cons, CertificateName.dir]
    exact ⟨hcrt _, hkey _, hca _, hcrt _, hkey _, hca _, by simp⟩
  | frontend =>
    simp only [certificateFiles, Config.buildMTLS, hspec, List.forall_mem_cons, CertificateName.dir]
    exact ⟨hcrt _, hkey _, by simp⟩

theorem generatedTemplate_mounts_certificate (env : PassEnv) {c : Cluster} (hmtls : mTLSEnabled c.spec = true)
    {name : CertificateName} {svc : ServiceInfo} (hused : name.usedBy svc.name = true) (version : String) :
    (generatedTemplate c svc (templateInputs env c) version).spec.mountAt name.dir = some name.volume ∧
      (generatedTemplate c svc (templateInputs env c) version).spec.volume name.volume =
        some (.secret (name.secretName c.name)) := by
  have hmounts : ∃ m, (templateInputs env c).mounts = some m ∧ m.internodeSecret = internodeCertName c.name ∧
      m.frontendSecret = frontendCertName c.name := by
    rw [templateInputs_mounts, mtlsMounts, if_pos hmtls]
    exact ⟨_, rfl, rfl, rfl⟩
  obtain ⟨m, hm, hinternode, hfrontend⟩ := hmounts
  have hserver : (generatedTemplate c svc (templateInputs env c) version).spec.server =
      some (serverContainer c svc (templateInputs env c) version) := by
    simp [generatedTemplate, serverContainer, PodSpec.server]
  unfold PodSpec.mountAt PodSpec.volume
  rw [hserver]
  cases name with
  | internode =>
    simp [serverContainer, generatedTemplate, serverVolumes, hm, certMounts, certVolumes, Container.mountAt,
      CertificateName.dir, CertificateName.volume, CertificateName.secretName, hinternode, Config.internodeCertDir]
  | frontend =>
    have hserves : servesFrontend svc.name = true := hused
    simp [serverContainer, generatedTemplate, serverVolumes, hm, certMounts, certVolumes, Container.mountAt, hserves,
      CertificateName.dir, CertificateName.volume, CertificateName.secretName, hfrontend, Config.internodeCertDir,
      Config.frontendCertDir]

/-! ## Overrides -/

/-- The overrides of a service leave the mount of a certificate on its volume, and the volume on its Secret. -/
structure OverridesKeepCertificate (patchOf : String → ServerPatch) (c : Cluster) (svc : ServiceInfo)
    (name : CertificateName) : Prop where
  mount : overridden (fun raw => (patchOf raw).mount name.dir) c.spec svc (some name.volume) = some name.volume
  volume : overridden (fun raw => (patchOf raw).volume name.volume) c.spec svc
    (some (.secret (name.secretName c.name))) = some (.secret (name.secretName c.name))

/-- The overrides keep the certificates of every service that reads them. -/
def OverridesKeepCertificates (patchOf : String → ServerPatch) (c : Cluster) : Prop :=
  ∀ svc ∈ enabledServices c.spec, ∀ name : CertificateName, name.usedBy svc.name = true →
    OverridesKeepCertificate patchOf c svc name

theorem applied_certificateFiles {env : PassEnv} {patchOf : String → ServerPatch} {c : Cluster}
    (hm : MergesServer env.merge patchOf) (hkeeps : OverridesKeepCertificates patchOf c)
    (hmtls : mTLSEnabled c.spec = true) (name : CertificateName) {s : Service} {v : String} {dep : Deployment}
    (happlied : Event.applied (.deployment s v dep) ∈ (reconcile env c).log) (hused : name.usedBy s = true) :
    ∀ path ∈ certificateFiles (Config.buildMTLS c) name, FileFrom dep.template.spec path (name.secretName c.name) := by
  intro path hpath
  obtain ⟨mtls, hspec, -⟩ := (mTLSEnabled_iff c.spec).mp hmtls
  obtain ⟨-, svc, hsvc, rfl, d₀, hb, ht⟩ := applied_built happlied
  obtain ⟨hmount, hvolume⟩ := generatedTemplate_mounts_certificate env hmtls hused v
  have hmount' := buildDeployment_entry (fun spec raw spec' h => (hm spec raw spec' h).mount name.dir) hb
  have hvolume' := buildDeployment_entry (fun spec raw spec' h => (hm spec raw spec' h).volume name.volume) hb
  rw [hmount, (hkeeps svc hsvc name hused).mount] at hmount'
  rw [hvolume, (hkeeps svc hsvc name hused).volume] at hvolume'
  obtain ⟨file, hfile⟩ := certificateFiles_under hspec name path hpath
  refine ⟨name.dir, file, ?_, hfile⟩
  rw [ht]
  exact (mountsSecret_of_entries hmount' hvolume').wiredTemplate c

/-- **Names and files of mTLS**: for an admitted cluster with cert-manager, when the overrides keep the mounts of the
certificates, both Certificates are built; every name under which a client of the config, the UI or the operator verifies
a server is a name of the Certificate that this server presents; and in the pod of every service the files of the config
come from the Secrets of these Certificates. Of the UI this is said when no variable is listed twice in its environment,
which a server-side apply refuses. -/
theorem mtls_closes_up {env : PassEnv} {patchOf : String → ServerPatch} {c : Cluster}
    (hm : MergesServer env.merge patchOf) (hadmitted : ClusterWebhook.validateSpec c.spec = [])
    (hmtls : mTLSEnabled c.spec = true) (hkeeps : OverridesKeepCertificates patchOf c) :
    ∃ cert : CertificateName → Certificate, (∀ name, buildCertificate c name = some (cert name)) ∧
      (∀ lib opts d, Config.buildConfigData lib c opts = .ok d → ∀ name,
        (∀ n ∈ clientNames d.mtls name, n ∈ (cert name).dnsNames) ∧
        ∀ s v dep, Event.applied (.deployment s v dep) ∈ (reconcile env c).log → name.usedBy s = true →
          ∀ path ∈ certificateFiles d.mtls name, FileFrom dep.template.spec path (cert name).secretName) ∧
      (∀ extra, extra.Perm (uiExtraEnv c.spec) → ((uiEnv c extra).map Prod.fst).Nodup →
        ∃ n ∈ (cert .frontend).dnsNames, envValue (uiEnv c extra) "TEMPORAL_TLS_SERVER_NAME" = some (.text n)) ∧
      ∀ lib read cfg, clusterTLSConfig lib read c = .ok (some cfg) → cfg.serverName ∈ (cert .frontend).dnsNames := by
  choose cert hcert hsecret hnames hhost using buildCertificate_ok hadmitted hmtls
  refine ⟨cert, hcert, fun lib opts d hd name => ?_, fun extra _ hnodup => ?_, fun lib read cfg hcfg => ?_⟩
  · rw [(Config.buildConfigData_eq_ok hd).mtls]
    refine ⟨hnames name, fun s v dep happlied hused => ?_⟩
    rw [hsecret]
    exact applied_certificateFiles hm hkeeps hmtls name happlied hused
  · exact ⟨frontendHost c, (hhost .frontend rfl).1, envValue_uiEnv_serverName hmtls hnodup⟩
  · rw [clusterTLSConfig_serverName hcfg]
    exact (hhost .frontend rfl).2

theorem addPlugins_keepsCertificates (c : Cluster) :
    OverridesKeepCertificates (fun _ => addPluginsPatch) c := by
  intro svc _ name _
  have hmount : addPluginsPatch.mount name.dir = .silent := by cases name <;> decide
  have hvolume : addPluginsPatch.volume name.volume = .silent := by cases name <;> decide
  exact ⟨by rw [hmount, overridden_silent], by rw [hvolume, overridden_silent]⟩

/-- A patch adds a mount and a volume to all servers of the sample; the frontend presents the certificate that the config
names. -/
theorem mtls_closes_up_plugins :
    let c := withPluginsPatch (issuedCluster "1.31.0")
    let env : PassEnv := { certifiedReads with merge := addPlugins }
    ∃ cert dep, buildFrontendCertificate c = some cert ∧
      Event.applied (.deployment .frontend "1.31.0" dep) ∈ (reconcile env c).log ∧
      (Config.buildMTLS c).systemWorkerName ∈ cert.dnsNames ∧
      FileFrom dep.template.spec (Config.buildMTLS c).frontendServerCert cert.secretName := by
  intro c env
  have hadmitted : ClusterWebhook.validateSpec c.spec = [] := by decide +kernel
  have hm : MergesServer env.merge fun _ => addPluginsPatch := addPlugins_mergesServer
  obtain ⟨cert, hcert, hconfig, -⟩ := mtls_closes_up hm hadmitted (by decide) (addPlugins_keepsCertificates c)
  obtain ⟨d, hd⟩ : ∃ d, Config.buildConfigData env.yaml c {} = .ok d := ⟨_, rfl⟩
  obtain ⟨dep, hdep⟩ : ∃ dep, Event.applied (.deployment .frontend "1.31.0" dep) ∈ (reconcile env c).log :=
    appliesAt_mem (by decide +kernel)
  obtain ⟨hnames, hfiles⟩ := hconfig _ _ d hd .frontend
  have hmtls := (Config.buildConfigData_eq_ok hd).mtls
  refine ⟨cert .frontend, dep, hcert .frontend, hdep, ?_, ?_⟩
  · exact hnames _ (by simp [hmtls, clientNames])
  · exact hfiles _ _ dep hdep rfl _ (by simp [hmtls, certificateFiles])

def mountsSecret (spec : PodSpec) (secret : String) : Bool :=
  (spec.containers.find? fun c => c.name = serverContainerName).any fun c => c.volumeMounts.any fun mount =>
    (spec.volumes.find? fun v => v.name = mount.name).map Volume.source = some (.secret secret)

theorem FileFrom.mountsSecret {spec : PodSpec} {path secret : String} (h : FileFrom spec path secret) :
    mountsSecret spec secret = true := by
  obtain ⟨-, -, ⟨container, mount, hcontainer, hmount, -, hvolume⟩, -⟩ := h
  rw [TemporalOperator.mountsSecret, hcontainer, Option.any_some]
  exact List.any_eq_true.mpr ⟨mount, hmount, decide_eq_true hvolume⟩

/-- A cluster whose override deletes the mount of the internode certificate. -/
def unmounted : Cluster :=
  let c := issuedCluster "1.31.0"
  let patch := "\x7b\"containers\":[\x7b\"name\":\"temporal\",\"volumeMounts\":" ++
    "[\x7b\"mountPath\":\"/etc/temporal/certs/internode\",\"$patch\":\"delete\"\x7d]\x7d]\x7d"
  { c with
    spec := { c.spec with services := { c.spec.services with overrides := some (some { spec := some patch }) } } }

def unmount (spec : PodSpec) (_ : String) : Except MergeErr PodSpec :=
  let change (c : Container) : Container :=
    { c with volumeMounts := c.volumeMounts.filter (·.mountPath ≠ Config.internodeCertDir) }
  .ok { mergeServer change spec with volumes := spec.volumes }

def unmountPatch : ServerPatch where
  port _ := .silent
  probe _ := .silent
  mount path := if path = Config.internodeCertDir then .remove else .silent
  volume _ := .silent

theorem unmount_mergesServer : MergesServer unmount fun _ => unmountPatch := by
  intro spec raw spec' h
  obtain rfl := Except.ok.inj h
  refine ServerPatch.takes_mergeServer (by intro; rfl) spec (fun c port => rfl) (fun c name => ?_) (fun c path => ?_)
    fun name => rfl
  · cases name <;> rfl
  · simp only [unmountPatch, Container.mountAt, List.find?_filter]
    split
    · rename_i hpath
      simp [hpath, EntryPatch.apply]
    · rename_i hpath
      congr 2
      funext m
      by_cases hm : m.mountPath = path
      · simp [hm, hpath]
      · simp [hm]

/-- The webhook admits the cluster, and its pods do not have the file of the internode certificate. -/
theorem mtls_broken_by_hand :
    ClusterWebhook.validateCreate unmounted = [] ∧ mTLSEnabled unmounted.spec = true ∧
      MergesServer unmount (fun _ => unmountPatch) ∧
      ∃ cert dep, buildInternodeCertificate unmounted = some cert ∧
        Event.applied (.deployment .history "1.31.0" dep) ∈
          (reconcile { certifiedReads with merge := unmount } unmounted).log ∧
        ¬ FileFrom dep.template.spec (Config.buildMTLS unmounted).internodeServerCert cert.secretName := by
  refine ⟨by decide +kernel, by decide, unmount_mergesServer, ?_⟩
  have happlied : ∃ x ∈ deploymentsOf (reconcile { certifiedReads with merge := unmount } unmounted).log,
      x.1 = .history ∧ x.2.1 = "1.31.0" ∧ mountsSecret x.2.2.template.spec "temporal-internode" = false := by
    decide +kernel
  obtain ⟨⟨-, -, dep⟩, hdep, rfl, rfl, hmounts⟩ := happlied
  refine ⟨_, dep, rfl, mem_deploymentsOf.mp hdep, fun h => ?_⟩
  exact Bool.false_ne_true (hmounts.symm.trans h.mountsSecret)

/-! ## Datastores -/

def configStore (d : Config.ConfigData) : SchemaStore → Config.DatastoreConfig
  | .default => d.defaultStore
  | .visibility => d.visibilityStore

def datastoreFiles (ds : Config.DatastoreConfig) : List String :=
  ds.tls.elim [] fun tls => [tls.caFile, tls.certFile, tls.keyFile]

/-- The TLS spec of the backend of a store for which the config names files; there are none for Elasticsearch. -/
def datastoreTLSSpec (store : DatastoreSpec) : Option DatastoreTLSSpec :=
  match store.sql, store.cassandra with
  | some spec, _ => spec.tls
  | none, some spec => spec.tls
  | none, none => none

/-- The Secrets that are named in a TLS spec. -/
def DatastoreTLSSpec.secrets (tls : DatastoreTLSSpec) : List String :=
  [tls.caSecretRef, tls.certSecretRef, tls.keySecretRef].filterMap (Option.map SecretKeyReference.name)

/-- The store is SQL or Cassandra, and enables TLS. -/
def NamesTLSFiles (store : DatastoreSpec) : Prop := ∃ tls, datastoreTLSSpec store = some tls ∧ tls.enabled = true

theorem buildDatastore_files {store : DatastoreSpec} {storeName : String} {password passwordCommand : GoString}
    {ds : Config.DatastoreConfig} (h : Config.buildDatastore store storeName password passwordCommand = .ok ds) :
    ds.tls = Config.datastoreTLS (datastoreTLSSpec store) (Config.persistenceTLSdir ++ "/" ++ storeName) := by
  unfold Config.buildDatastore at h
  unfold datastoreTLSSpec
  cases hsql : store.sql with
  | some s =>
    rw [hsql] at h
    cases h
    rfl
  | none =>
    cases hcassandra : store.cassandra with
    | some s =>
      rw [hsql, hcassandra] at h
      cases h
      rfl
    | none =>
      cases hes : store.elasticsearch with
      | some s =>
        rw [hsql, hcassandra, hes] at h
        cases h
        rfl
      | none =>
        rw [hsql, hcassandra, hes] at h
        cases h

/-- The files of a store: none, or three under the directory for datastores. -/
theorem configStore_files {lib : Config.YamlLib} {c : Cluster} {opts : Config.BuildOptions} {d : Config.ConfigData}
    (h : Config.buildConfigData lib c opts = .ok d) (store : SchemaStore) :
    (datastoreFiles (configStore d store) ≠ [] ↔ NamesTLSFiles (storeSpec c.spec store)) ∧
      ∀ path ∈ datastoreFiles (configStore d store), ∃ rest, path = Config.persistenceTLSdir ++ rest := by
  have hdefault := (Config.buildConfigData_eq_ok h).defaultStore
  have hvis := (Config.buildConfigData_eq_ok h).visibilityStore
  have htls : ∃ dir, (configStore d store).tls =
      Config.datastoreTLS (datastoreTLSSpec (storeSpec c.spec store)) (Config.persistenceTLSdir ++ dir) := by
    cases store with
    | default => exact ⟨"/" ++ "default", by rw [← String.append_assoc]; exact buildDatastore_files hdefault⟩
    | visibility => exact ⟨"/" ++ "visibility", by rw [← String.append_assoc]; exact buildDatastore_files hvis⟩
  obtain ⟨dir, htls⟩ := htls
  unfold datastoreFiles NamesTLSFiles
  rw [htls]
  unfold Config.datastoreTLS
  cases datastoreTLSSpec (storeSpec c.spec store) with
  | none => simp
  | some tls =>
    cases henabled : tls.enabled with
    | false => simp [henabled]
    | true =>
      refine ⟨by simp [henabled], ?_⟩
      simp only [henabled, Bool.not_true, Bool.false_eq_true, if_false, Option.elim_some, List.forall_mem_cons,
        String.append_assoc]
      exact ⟨⟨_, rfl⟩, ⟨_, rfl⟩, ⟨_, rfl⟩, by simp⟩

def serverMountPaths : List String :=
  ["/etc/temporal/config", "/etc/temporal/dynamicconfig", "/tmp/temporal", Config.internodeCertDir,
    Config.frontendCertDir, "/azure"]

theorem serverContainer_mountPaths {c : Cluster} {svc : ServiceInfo} {i : TemplateInputs} {version : String} :
    ∀ mount ∈ (serverContainer c svc i version).volumeMounts, mount.mountPath ∈ serverMountPaths := by
  intro mount h
  rcases List.mem_append.mp h with h | h
  · simp only [List.mem_cons, List.not_mem_nil, or_false] at h
    rcases h with rfl | rfl | rfl <;> simp [serverMountPaths]
  · split at h
    · rcases List.mem_append.mp h with h | h
      · obtain rfl := List.mem_singleton.mp h
        simp [serverMountPaths]
      · split at h
        · obtain rfl := List.mem_singleton.mp h
          simp [serverMountPaths]
        · cases h
    · cases h

theorem NoOverrides.mountPaths {env : PassEnv} {c : Cluster} {s : Service} {v : String} {dep : Deployment}
    (hplain : NoOverrides c.spec) (happlied : Event.applied (.deployment s v dep) ∈ (reconcile env c).log)
    {mountPath secret : String} (h : MountsSecret dep.template.spec mountPath secret) :
    mountPath ∈ serverMountPaths := by
  obtain ⟨-, svc, hsvc, -, d₀, hb, ht⟩ := applied_built happlied
  obtain ⟨shared, hshared, hown, -⟩ := buildDeployment_eq_ok hb
  rw [hplain.1] at hshared
  rw [hplain.2 svc hsvc] at hown
  obtain rfl := Except.ok.inj hshared
  have htemplate := Except.ok.inj hown
  obtain ⟨container, mount, hcontainer, hmount, rfl, -⟩ := h
  rw [ht, wiredTemplate_server, ← htemplate] at hcontainer
  have hserver : ((generatedTemplate c svc (templateInputs env c) v).spec.containers.find? fun c =>
      c.name = serverContainerName) = some (serverContainer c svc (templateInputs env c) v) := by
    simp [generatedTemplate, serverContainer]
  rw [hserver, Option.map_some] at hcontainer
  obtain rfl := Option.some.inj hcontainer
  split at hmount
  · unfold withAzureTokenMount at hmount
    split at hmount
    · exact serverContainer_mountPaths mount hmount
    · rcases List.mem_append.mp hmount with hmount | hmount
      · exact serverContainer_mountPaths mount hmount
      · obtain rfl := List.mem_singleton.mp hmount
        simp [serverMountPaths]
  · exact serverContainer_mountPaths mount hmount

/-- No mount holds the directory for datastores, or lies in it. -/
theorem persistenceTLSdir_not_under {mountPath : String} (h : mountPath ∈ serverMountPaths) (rest file : String) :
    Config.persistenceTLSdir ++ rest ≠ mountPath ++ "/" ++ file := by
  have hfork : ∀ m ∈ serverMountPaths, ¬ Config.persistenceTLSdir.toList <+: (m ++ "/").toList ∧
      ¬ (m ++ "/").toList <+: Config.persistenceTLSdir.toList := by
    decide
  intro he
  have hlist := congrArg String.toList he
  simp only [String.toList_append] at hlist
  have hmount : (mountPath ++ "/").toList <+: Config.persistenceTLSdir.toList ++ rest.toList :=
    ⟨file.toList, by rw [String.toList_append, hlist]⟩
  rcases List.prefix_or_prefix_of_prefix (List.prefix_append _ _) hmount with hp | hp
  · exact (hfork mountPath h).1 hp
  · exact (hfork mountPath h).2 hp

theorem NoOverrides.not_fileFrom {env : PassEnv} {c : Cluster} {s : Service} {v : String} {dep : Deployment}
    (hplain : NoOverrides c.spec) (happlied : Event.applied (.deployment s v dep) ∈ (reconcile env c).log)
    (rest secret : String) : ¬ FileFrom dep.template.spec (Config.persistenceTLSdir ++ rest) secret := by
  rintro ⟨mountPath, file, hmounts, hpath⟩
  exact persistenceTLSdir_not_under (hplain.mountPaths happlied hmounts) rest file hpath

/-- **Files for the TLS of a datastore**: without overrides, in the pods of every service the files the config names for
a store come from Secrets of its TLS spec exactly when the config names none: the store is not SQL or Cassandra with
TLS. -/
theorem datastore_files_mounted_iff {env : PassEnv} {c : Cluster} (hplain : NoOverrides c.spec) {lib : Config.YamlLib}
    {opts : Config.BuildOptions} {d : Config.ConfigData} (hd : Config.buildConfigData lib c opts = .ok d)
    (store : SchemaStore) {s : Service} {v : String} {dep : Deployment}
    (happlied : Event.applied (.deployment s v dep) ∈ (reconcile env c).log) :
    (∀ path ∈ datastoreFiles (configStore d store), ∃ tls secret, datastoreTLSSpec (storeSpec c.spec store) = some tls ∧
      secret ∈ tls.secrets ∧ FileFrom dep.template.spec path secret) ↔ ¬ NamesTLSFiles (storeSpec c.spec store) := by
  obtain ⟨hnames, hunder⟩ := configStore_files hd store
  rw [← hnames, not_not]
  constructor
  · intro hall
    refine List.eq_nil_iff_forall_not_mem.mpr fun path hpath => ?_
    obtain ⟨-, secret, -, -, hfile⟩ := hall path hpath
    obtain ⟨rest, rfl⟩ := hunder path hpath
    exact hplain.not_fileFrom happlied rest secret hfile
  · intro hnone path hpath
    rw [hnone] at hpath
    cases hpath

def storedIn (defaultStore visibilityStore : DatastoreSpec) : Cluster :=
  let spec := sampleSpec "1.31.0"
  ClusterWebhook.default
    { name := "temporal"
      spec := { spec with persistence := { defaultStore := defaultStore, visibilityStore := visibilityStore } } }

/-- Visibility in an Elasticsearch with TLS, for which the config names no files. -/
theorem datastore_files_mounted_elasticsearch :
    let c := storedIn { sql := some {} } { elasticsearch := some { tls := some {} } }
    let recorded : StoreIO := { sqlQuery := fun _ => { store := .recorded newestSchema } }
    let env : PassEnv := { steadyEnv newestSchema "1.31.0" with
      store := fun _ => { recorded with esTemplate := fun _ => .status 200 } }
    ∃ d dep, Config.buildConfigData env.yaml c {} = .ok d ∧
      Event.applied (.deployment .history "1.31.0" dep) ∈ (reconcile env c).log ∧
      ∀ path ∈ datastoreFiles d.visibilityStore, ∃ tls secret,
        datastoreTLSSpec c.spec.persistence.visibilityStore = some tls ∧ secret ∈ tls.secrets ∧
          FileFrom dep.template.spec path secret := by
  intro c recorded env
  obtain ⟨d, hd⟩ : ∃ d, Config.buildConfigData env.yaml c {} = .ok d := ⟨_, rfl⟩
  obtain ⟨dep, hdep⟩ : ∃ dep, Event.applied (.deployment .history "1.31.0" dep) ∈ (reconcile env c).log :=
    appliesAt_mem (by decide +kernel)
  have hplain : NoOverrides c.spec := by decide
  have hnone : ¬ NamesTLSFiles (storeSpec c.spec .visibility) := by
    rintro ⟨tls, htls, -⟩
    cases htls
  exact ⟨d, dep, hd, hdep, (datastore_files_mounted_iff hplain hd .visibility hdep).mpr hnone⟩

/-- Postgres with TLS, verified by the CA of a Secret: the webhook admits the cluster, and no pod has the file of the CA
that the config names. -/
theorem datastore_file_missing :
    let tls : DatastoreTLSSpec := { caSecretRef := some { name := "postgres-ca", key := "ca.crt" } }
    let c := storedIn { sql := some { tls := some tls } } { sql := some {} }
    let env := steadyEnv newestSchema "1.31.0"
    ClusterWebhook.validateCreate c = [] ∧ NoOverrides c.spec ∧
      ∃ d dep, Config.buildConfigData env.yaml c {} = .ok d ∧
        Event.applied (.deployment .history "1.31.0" dep) ∈ (reconcile env c).log ∧
        "/etc/temporal/certs/persistence/default/ca.crt" ∈ datastoreFiles d.defaultStore ∧
        ∀ secret, ¬ FileFrom dep.template.spec "/etc/temporal/certs/persistence/default/ca.crt" secret := by
  intro tls c env
  have hplain : NoOverrides c.spec := by decide
  obtain ⟨dep, hdep⟩ : ∃ dep, Event.applied (.deployment .history "1.31.0" dep) ∈ (reconcile env c).log :=
    appliesAt_mem (by decide +kernel)
  exact ⟨by decide +kernel, hplain, _, dep, rfl, hdep, by decide,
    fun secret => hplain.not_fileFrom hdep "/default/ca.crt" secret⟩

end TemporalOperator
